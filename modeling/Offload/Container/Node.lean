import Offload.Text.Decimal
import Offload.Text.Quoted

/-! # Container nodes

A container describes device images by a tree of nodes. A node has a name, attributes in the order
of their first writes, and children in the order they were made; its depth is its distance from the
root. `Node.lines` is the text form: an attribute is `key=value`, a child stands between the lines
`{.name` and `}.name`, and every line is indented by the depth.

An attribute is checked before it is written, because neither a line break nor a `=` in its key
survives the text form. The main statements describe a write: `lookup_put` says what it changes and
`keys_put` that a known key keeps its place.
-/

namespace Offload.Container

/-- The value of an attribute. -/
inductive Value where
  | int (n : Int64)
  | text (content : String)
deriving DecidableEq, Repr

/-- The value as it is written after the `=`. -/
def Value.display : Value → List Char
  | .int n => Text.Decimal.ofInt64 n
  | .text content => content.toList

/-- The value a written attribute denotes: an integer wherever the text reads as one. -/
def Value.ofChars (written : List Char) : Value :=
  match Text.Decimal.int64? written with
  | some n => .int n
  | none => .text (String.ofList written)

/-- Why an attribute cannot be written. -/
inductive AttributeFault where
  /-- The key is empty, or holds a `=` or a line feed. -/
  | badKey (key : String)
  /-- The value of this key holds a line feed. -/
  | badValue (key : String)
deriving DecidableEq, Repr

/-- The fault in words. -/
def AttributeFault.message : AttributeFault → String
  | .badKey key =>
    s!"HCF attribute key {Text.Quoted.quote key} must be non-empty without '=' or newlines"
  | .badValue key => s!"HCF attribute {Text.Quoted.quote key} has a value containing a newline"

/-- The condition under which an attribute may be written. -/
def checkAttribute (key : String) (value : Value) : Except AttributeFault Unit :=
  if key.toList.isEmpty || key.toList.contains '=' || key.toList.contains '\n' then
    .error (.badKey key)
  else
    match value with
    | .int _ => .ok ()
    | .text content => if content.toList.contains '\n' then .error (.badValue key) else .ok ()

/-- Attributes in the order of their first writes. -/
abbrev Attributes := List (String × Value)

namespace Attributes

/-- The value of the first entry with this key. -/
def lookup? (attributes : Attributes) (key : String) : Option Value :=
  (attributes.find? (·.1 == key)).map (·.2)

/-- Write one entry: a known key keeps its place and takes the new value. -/
def put : Attributes → String → Value → Attributes
  | [], key, value => [(key, value)]
  | (known, old) :: rest, key, value =>
    if known = key then (known, value) :: rest else (known, old) :: put rest key value

theorem lookup_put (attributes : Attributes) (key other : String) (value : Value) :
    (attributes.put key value).lookup? other =
      if other = key then some value else attributes.lookup? other := by
  unfold lookup?
  induction attributes with
  | nil =>
    by_cases same : other = key
    · simp [put, same]
    · simp [put, same, Ne.symm same]
  | cons entry rest ih =>
    obtain ⟨known, old⟩ := entry
    by_cases here : known = key
    · subst here
      by_cases same : known = other
      · simp [put, same]
      · simp [put, same, Ne.symm same]
    · by_cases same : known = other
      · subst same
        simp [put, here]
      · simpa [put, here, same] using ih

theorem keys_put (attributes : Attributes) (key : String) (value : Value) :
    (attributes.put key value).map (·.1) =
      if key ∈ attributes.map (·.1) then attributes.map (·.1)
      else attributes.map (·.1) ++ [key] := by
  induction attributes with
  | nil => simp [put]
  | cons entry rest ih =>
    obtain ⟨known, old⟩ := entry
    by_cases here : known = key
    · simp [put, here]
    · simp only [put, here, if_false, List.map_cons, ih, List.mem_cons, Ne.symm here, false_or]
      split <;> simp

end Attributes

/-- A node of the container's tree. -/
structure Node where
  name : String
  depth : Nat
  attributes : Attributes
  children : List Node
deriving Inhabited

namespace Node

mutual

/-- Whether two nodes are equal, name, depth, attributes and children alike. -/
def decideEq : (first second : Node) → Decidable (first = second)
  | ⟨name, depth, attributes, children⟩, ⟨otherName, otherDepth, otherAttributes, others⟩ =>
    if same : name = otherName ∧ depth = otherDepth ∧ attributes = otherAttributes then
      match decideEqAll children others with
      | .isTrue equal => .isTrue (by simp [same, equal])
      | .isFalse differs => .isFalse (by simp [differs])
    else .isFalse fun equal => same (by simp at equal; simp [equal])

/-- Whether two lists of nodes are equal. -/
def decideEqAll : (first second : List Node) → Decidable (first = second)
  | [], [] => .isTrue rfl
  | [], _ :: _ => .isFalse (by simp)
  | _ :: _, [] => .isFalse (by simp)
  | node :: rest, other :: others =>
    match decideEq node other, decideEqAll rest others with
    | .isTrue same, .isTrue equal => .isTrue (by rw [same, equal])
    | .isFalse differs, _ => .isFalse (by simp [differs])
    | _, .isFalse differs => .isFalse (by simp [differs])

end

instance : DecidableEq Node := decideEq

/-- The name of a child that describes an attached payload. -/
def attachmentName : String := "__binary"

/-- A node without attributes and children. -/
def bare (name : String) (depth : Nat) : Node := ⟨name, depth, [], []⟩

/-- The root of an empty tree. -/
def root : Node := bare "root" 0

/-- Write an attribute without checking it. -/
def put (node : Node) (key : String) (value : Value) : Node :=
  { node with attributes := node.attributes.put key value }

/-- Append a child. -/
def push (node child : Node) : Node :=
  { node with children := node.children ++ [child] }

/-- Append a bare child one level down. -/
def addChild (node : Node) (name : String) : Node :=
  node.push (bare name (node.depth + 1))

/-- The value of an attribute. -/
def attribute? (node : Node) (key : String) : Option Value :=
  node.attributes.lookup? key

/-- The value of an attribute that holds an integer. -/
def int? (node : Node) (key : String) : Option Int64 :=
  match node.attribute? key with
  | some (.int n) => some n
  | _ => none

/-- The first child of this name. -/
def child? (node : Node) (name : String) : Option Node :=
  node.children.find? (·.name == name)

/-- The node at the end of a path of child positions. -/
def at? (node : Node) : List Nat → Option Node
  | [] => some node
  | index :: path => node.children[index]?.bind fun child => child.at? path

/-- Change the node at the end of a path; a path that leads nowhere changes nothing. -/
def update (node : Node) (change : Node → Node) : List Nat → Node
  | [] => change node
  | index :: path =>
    { node with children := node.children.modify index fun child => child.update change path }

/-- The spaces before the lines of a node. -/
def indent (depth : Nat) : List Char := List.replicate depth ' '

/-- The line of an attribute. -/
def attributeLine (depth : Nat) (entry : String × Value) : List Char :=
  indent depth ++ entry.1.toList ++ '=' :: entry.2.display

/-- The line that opens a child. -/
def openingLine (depth : Nat) (name : String) : List Char :=
  indent depth ++ '{' :: '.' :: name.toList

/-- The line that closes a child. -/
def closingLine (depth : Nat) (name : String) : List Char :=
  indent depth ++ '}' :: '.' :: name.toList

mutual

/-- The lines of a node: its attributes, then its children between their brackets. The node's own
name is written by its parent. -/
def lines : Node → List (List Char)
  | ⟨_, depth, attributes, children⟩ =>
    attributes.map (attributeLine depth) ++ childLines depth children

/-- The lines of children of a node at `depth`, brackets included. -/
def childLines (depth : Nat) : List Node → List (List Char)
  | [] => []
  | child :: rest =>
    openingLine depth child.name :: child.lines ++
      closingLine depth child.name :: childLines depth rest

end

/-- The text form of a node: each line ends with a line feed. -/
def text (node : Node) : List Char :=
  node.lines.flatMap (· ++ ['\n'])

mutual

/-- A node and everything below it, parents first. -/
def preorder : Node → List Node
  | ⟨name, depth, attributes, children⟩ =>
    ⟨name, depth, attributes, children⟩ :: preorderAll children

/-- Nodes and everything below them. -/
def preorderAll : List Node → List Node
  | [] => []
  | node :: rest => node.preorder ++ preorderAll rest

end

end Node

end Offload.Container
