import Offload.Container.Header
import Offload.Container.Reader
import Offload.Main
import Offload.Proofs.Command
import Offload.Proofs.Container.Embedding
import Offload.Proofs.Container.Grammar
import Offload.Proofs.Container.ObjectId
import Offload.Proofs.Container.Payloads
import Offload.Proofs.Container.Ranges
import Offload.Proofs.Container.Rereading
import Offload.Proofs.Container.RoundTrip
import Offload.Proofs.Container.Tiling
import Offload.Proofs.DisplayedCommand
import Offload.Proofs.DryRun
import Offload.Proofs.Requests
import Offload.Proofs.Settings.Arguments
import Offload.Proofs.Settings.Directories
import Offload.Proofs.Settings.Layers
import Offload.Proofs.Settings.Merging
import Offload.Proofs.Streams
import Offload.Proofs.Target.Decision
import Offload.Proofs.Target.Display
import Offload.Proofs.Target.HostCompiler
import Offload.Proofs.UserFaults
import Offload.Proofs.Container.Attributes
