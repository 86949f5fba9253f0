/-! # Journal records

What the driver notes about its own work. A record names the part that wrote it, how much detail it
carries, and one line of text. Functions of the library return values only; the records of a piece
of work are a function of the same input, stated beside it.
-/

namespace Offload

/-- How much detail a record carries. -/
inductive Journal.Level where
  | debug
  | trace
deriving DecidableEq, Repr

/-- The part of the driver that writes a record. -/
inductive Journal.Topic where
  | configFiles
  | resolution
  | targetSpec
  | decision
  | bundle
  | bundleReader
  | header
deriving DecidableEq, Repr

/-- One line of the journal. -/
structure Journal.Record where
  level : Journal.Level
  topic : Journal.Topic
  text : String
deriving DecidableEq, Repr

namespace Journal

/-- The level as it is displayed. -/
def Level.name : Level → String
  | .debug => "DEBUG"
  | .trace => "TRACE"

/-- The topic as it is displayed. -/
def Topic.name : Topic → String
  | .configFiles => "acpp_config::config_db"
  | .resolution => "acpp_config::resolver"
  | .targetSpec => "acpp_targets::spec"
  | .decision => "acpp_targets::policy"
  | .bundle => "acpp_hcf::generator"
  | .bundleReader => "acpp_hcf::reader"
  | .header => "acpp_hcf::header"

end Journal

end Offload
