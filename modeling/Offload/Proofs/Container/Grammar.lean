import Mathlib.Data.List.DropRight
import Offload.Proofs.Container.Labels

/-! # The grammar of the tree's text

`Body` is the grammar of the lines of a node: its attributes and its children between their brackets,
in any order. It derives the attributes and the children along with the lines. Reading goes through
the lines once with a stack of open nodes; `Step` says what one line can do to that stack and `Run`
what all lines do. What an accepted run still demands of the lines is that the innermost node's body
ends in its closing bracket, and so on outwards (`Closes`), so a run accepts exactly the bodies of the
root (`run_iff_body`). `parse_eq_ok_iff_format` says the same of bytes: data is read exactly if it has
the format, all other data is malformed, and no attribute in it is ever refused.
-/

namespace Offload.Container

open Offload.Text (cutAt)
open Offload.Text.Utf8 (encode)

section Format

/-- Entries written one after another. -/
def Attributes.putAll (attributes : Attributes) (entries : List (String × Value)) : Attributes :=
  entries.foldl (fun attributes entry => attributes.put entry.1 entry.2) attributes

/-- `Body depth lines entries children`: the lines are the body of a node at `depth` that has these
attribute lines of its own and these children, both in order. -/
inductive Body : Nat → List (List Char) → List (String × Value) → List Node → Prop where
  | empty {depth : Nat} : Body depth [] [] []
  | entry {depth : Nat} {line key text : List Char} {value : Value} {rest : List (List Char)}
      {entries : List (String × Value)} {children : List Node} (shape : IsAttribute line)
      (cut : cutAt '=' line = (key, some text)) (reads : Reads text value)
      (body : Body depth rest entries children) :
      Body depth (line :: rest) ((String.ofList key, value) :: entries) children
  | node {depth : Nat} {name : List Char} {inside rest : List (List Char)}
      {own entries : List (String × Value)} {below children : List Node}
      (inner : Body (depth + 1) inside own below) (body : Body depth rest entries children) :
      Body depth (('{' :: '.' :: name) :: inside ++ ('}' :: '.' :: name) :: rest) entries
        (⟨String.ofList name, depth + 1, Attributes.putAll [] own, below⟩ :: children)

/-- The lines that count: without the spaces in front, and only those that are not empty. -/
def significant (lines : List (List Char)) : List (List Char) :=
  (lines.map (·.dropWhile (· == ' '))).filter (!·.isEmpty)

/-- The bundle that bytes denote by the format: the lines before the first marker are the body of the
root, and everything behind that marker is the appendix. -/
inductive Bundle.Format (data : List UInt8) : Bundle → Prop where
  | intro {text : List Char} {appendix : List UInt8} {entries : List (String × Value)}
      {children : List Node}
      (split : data = encode text ++ encode marker ++ appendix)
      (first : ∀ i < (encode text).length, ¬ encode marker <+: data.drop i)
      (body : Body 0 (significant (Text.lines text)) entries children) :
      Format data ⟨⟨"root", 0, Attributes.putAll [] entries, children⟩, appendix⟩

end Format

namespace OpenNode

section Runs

/-- What a line can do to the innermost open node and those around it. -/
inductive Step (inner : OpenNode) : List OpenNode → Line → OpenNode → List OpenNode → Prop where
  | blank {outer : List OpenNode} : Step inner outer .blank inner outer
  | opening {outer : List OpenNode} {name : String} :
      Step inner outer (.opening name) (bare name (inner.depth + 1)) (inner :: outer)
  | closing {parent : OpenNode} {others : List OpenNode} :
      Step inner (parent :: others) (.closing inner.name) (parent.push inner.close) others
  | entry {outer : List OpenNode} {key : String} {value : Value}
      (accepted : checkAttribute key value = .ok ()) :
      Step inner outer (.attribute key value) (inner.put key value) outer

/-- `Run inner outer lines root`: the lines close all open nodes but the outermost one, which is then
the root. -/
inductive Run : OpenNode → List OpenNode → List (List Char) → Node → Prop where
  | done {inner : OpenNode} : Run inner [] [] inner.close
  | line {inner next : OpenNode} {outer around : List OpenNode} {line : List Char}
      {rest : List (List Char)} {root : Node} (step : Step inner outer (Line.ofChars line) next around)
      (run : Run next around rest root) : Run inner outer (line :: rest) root

variable {inner : OpenNode} {outer : List OpenNode} {lines : List (List Char)} {root : Node}

theorem run_cons_iff {line : List Char} : Run inner outer (line :: lines) root ↔
    ∃ next around, Step inner outer (Line.ofChars line) next around ∧ Run next around lines root := by
  constructor
  · intro run
    cases run with
    | line step run => exact ⟨_, _, step, run⟩
  · rintro ⟨next, around, step, run⟩
    exact .line step run

/-- Reading succeeds along runs only; the numbers of the lines have no say. -/
theorem readLines_eq_ok_iff {number : Nat} :
    readLines number inner outer lines = .ok root ↔ Run inner outer lines root := by
  induction lines generalizing number inner outer with
  | nil =>
    rw [readLines]
    constructor
    · intro read
      split at read
      · rename_i alone
        obtain rfl := List.isEmpty_iff.mp alone
        obtain rfl := Except.ok.inj read
        exact .done
      · contradiction
    · intro run
      cases run with
      | done => rfl
  | cons line rest ih =>
    rw [readLines, run_cons_iff]
    constructor
    · intro read
      cases means : Line.ofChars line with
      | blank =>
        rw [means] at read
        exact ⟨_, _, .blank, ih.mp read⟩
      | opening name =>
        rw [means] at read
        exact ⟨_, _, .opening, ih.mp read⟩
      | closing name =>
        rw [means] at read
        cases outer with
        | nil => contradiction
        | cons parent others =>
          simp only at read
          split at read
          · rename_i same
            subst same
            exact ⟨_, _, .closing, ih.mp read⟩
          · contradiction
      | «attribute» key value =>
        rw [means] at read
        cases accepted : checkAttribute key value with
        | error fault => simp [accepted] at read
        | ok =>
          simp only [accepted] at read
          exact ⟨_, _, .entry accepted, ih.mp read⟩
      | keyless => rw [means] at read; contradiction
      | unknown text => rw [means] at read; contradiction
    · rintro ⟨next, around, step, run⟩
      generalize Line.ofChars line = meaning at step
      cases step with
      | blank => exact ih.mpr run
      | opening => exact ih.mpr run
      | closing => simpa using ih.mpr run
      | entry accepted => simpa only [accepted] using ih.mpr run

theorem significant_cons (line : List Char) (rest : List (List Char)) :
    significant (line :: rest) = if line.dropWhile (· == ' ') = [] then significant rest
      else line.dropWhile (· == ' ') :: significant rest := by
  rw [significant, List.map_cons, List.filter_cons]
  cases line.dropWhile (· == ' ') <;> rfl

theorem ofChars_dropWhile (line : List Char) :
    Line.ofChars (line.dropWhile (· == ' ')) = Line.ofChars line := by
  rw [Line.ofChars, Line.ofChars, List.dropWhile_idempotent]

/-- Only the significant lines make a difference. -/
theorem run_significant_iff :
    Run inner outer (significant lines) root ↔ Run inner outer lines root := by
  induction lines generalizing inner outer with
  | nil => exact Iff.rfl
  | cons line rest ih =>
    rw [significant_cons]
    split
    · rename_i empty
      have blank : Line.ofChars line = .blank := by
        rw [Line.ofChars, empty]
        rfl
      rw [ih, run_cons_iff, blank]
      constructor
      · intro run
        exact ⟨_, _, .blank, run⟩
      · rintro ⟨next, around, step, run⟩
        cases step
        exact run
    · rw [run_cons_iff, run_cons_iff, ofChars_dropWhile]
      simp only [ih]

end Runs

section Bodies

/-- An open node after these attribute lines and these children. -/
def extend (node : OpenNode) (entries : List (String × Value)) (children : List Node) : OpenNode :=
  { node with
    attributes := node.attributes.putAll entries
    children := children.reverse ++ node.children }

theorem extend_push (node : OpenNode) (child : Node) (entries : List (String × Value))
    (children : List Node) :
    (node.push child).extend entries children = node.extend entries (child :: children) := by
  simp [extend, push]

theorem close_extend_bare (name : String) (depth : Nat) (entries : List (String × Value))
    (children : List Node) : ((bare name depth).extend entries children).close =
      ⟨name, depth, Attributes.putAll [] entries, children⟩ := by
  simp [extend, bare, close]

/-- What open nodes still demand of the lines: the body of the innermost one, then its closing
bracket, then what the nodes around it demand. -/
def Closes : OpenNode → List OpenNode → List (List Char) → Node → Prop
  | inner, [], lines, root => ∃ entries children, Body inner.depth lines entries children ∧
      root = (inner.extend entries children).close
  | inner, parent :: others, lines, root => ∃ inside rest entries children,
      lines = inside ++ ('}' :: '.' :: inner.name.toList) :: rest ∧
        Body inner.depth inside entries children ∧
        Closes (parent.push (inner.extend entries children).close) others rest root

variable {inner : OpenNode} {outer : List OpenNode} {root : Node} {rest : List (List Char)}

theorem Closes.entry {line key text : List Char} {value : Value} (shape : IsAttribute line)
    (cut : cutAt '=' line = (key, some text)) (reads : Reads text value)
    (closes : Closes (inner.put (String.ofList key) value) outer rest root) :
    Closes inner outer (line :: rest) root := by
  cases outer with
  | nil =>
    obtain ⟨entries, children, body, same⟩ := closes
    exact ⟨_, _, .entry shape cut reads body, same⟩
  | cons parent others =>
    obtain ⟨inside, later, entries, children, rfl, body, closes⟩ := closes
    exact ⟨_, later, _, _, rfl, .entry shape cut reads body, closes⟩

theorem Closes.node {name : List Char}
    (closes : Closes (bare (String.ofList name) (inner.depth + 1)) (inner :: outer) rest root) :
    Closes inner outer (('{' :: '.' :: name) :: rest) root := by
  obtain ⟨inside, later, own, below, rfl, inBody, closes⟩ := closes
  rw [close_extend_bare] at closes
  rw [show (bare (String.ofList name) (inner.depth + 1)).name.toList = name from
    String.toList_ofList]
  cases outer with
  | nil =>
    obtain ⟨entries, children, body, rfl⟩ := closes
    exact ⟨_, _, .node inBody body, by rw [extend_push]⟩
  | cons parent others =>
    obtain ⟨next, others, entries, children, rfl, body, closes⟩ := closes
    rw [extend_push] at closes
    exact ⟨_, _, _, _, by simp [push], .node inBody body, closes⟩

/-- A run demands no more of its lines than the open nodes do. -/
theorem Run.closes {lines : List (List Char)} (run : Run inner outer lines root)
    (nonempty : ∀ line ∈ lines, line ≠ []) (trimmed : ∀ line ∈ lines, line.head? ≠ some ' ') :
    Closes inner outer lines root := by
  induction run with
  | done => exact ⟨[], [], .empty, rfl⟩
  | @line inner next outer around line rest root step run ih =>
    have later := ih (fun other member => nonempty other (List.mem_cons_of_mem _ member))
      (fun other member => trimmed other (List.mem_cons_of_mem _ member))
    rw [Line.ofChars_eq_ofTrimmed (trimmed line (List.mem_cons_self ..))] at step
    generalize means : Line.ofTrimmed line = meaning at step
    cases step with
    | blank =>
      exact absurd (Line.ofTrimmed_eq_blank_iff.mp means) (nonempty line (List.mem_cons_self ..))
    | opening =>
      rw [Line.ofTrimmed_eq_opening_iff.mp means]
      apply Closes.node
      rwa [String.ofList_toList]
    | closing =>
      rw [Line.ofTrimmed_eq_closing_iff.mp means]
      exact ⟨[], _, [], [], rfl, .empty, later⟩
    | entry accepted =>
      obtain ⟨shape, text, cut, reads⟩ := Line.ofTrimmed_eq_attribute_iff.mp means
      apply Closes.entry shape cut reads
      rwa [String.ofList_toList]

/-- The lines of a body extend the innermost open node by what the body derives. -/
theorem run_append_of_body {depth : Nat} {lines : List (List Char)}
    {entries : List (String × Value)} {children : List Node}
    (body : Body depth lines entries children) (here : inner.depth = depth)
    (trimmed : ∀ line ∈ lines, line.head? ≠ some ' ') (free : ∀ line ∈ lines, '\n' ∉ line)
    (run : Run (inner.extend entries children) outer rest root) :
    Run inner outer (lines ++ rest) root := by
  induction body generalizing inner outer rest with
  | empty => exact run
  | @entry depth line key text value later entries children shape cut reads body ih =>
    have means : Line.ofTrimmed line = .attribute (String.ofList key) value := by
      apply Line.ofTrimmed_eq_attribute_iff.mpr
      rw [String.toList_ofList]
      exact ⟨shape, text, cut, reads⟩
    have accepted := Line.checkAttribute_of_ofTrimmed means (free line (List.mem_cons_self ..))
    rw [List.cons_append, run_cons_iff,
      Line.ofChars_eq_ofTrimmed (trimmed line (List.mem_cons_self ..)), means]
    exact ⟨_, _, .entry accepted, ih here
      (fun other member => trimmed other (List.mem_cons_of_mem _ member))
      (fun other member => free other (List.mem_cons_of_mem _ member)) run⟩
  | @node depth name inside later own entries below children inBody body ihInner ih =>
    rw [List.cons_append, List.forall_mem_cons, List.forall_mem_append,
      List.forall_mem_cons] at trimmed free
    have opening : Line.ofChars ('{' :: '.' :: name) = .opening (String.ofList name) := rfl
    have closing : Line.ofChars ('}' :: '.' :: name) = .closing (String.ofList name) := rfl
    rw [List.cons_append, List.cons_append, List.append_assoc, run_cons_iff, opening]
    refine ⟨_, _, .opening, ihInner (by rw [← here]; rfl) trimmed.2.1 free.2.1 ?_⟩
    rw [List.cons_append, run_cons_iff, closing]
    refine ⟨_, _, .closing, ih here trimmed.2.2.2 free.2.2.2 ?_⟩
    rw [close_extend_bare, extend_push, here]
    exact run

/-- Trimmed lines are a run of the root exactly if they are a body of it. -/
theorem run_iff_body {lines : List (List Char)} (nonempty : ∀ line ∈ lines, line ≠ [])
    (trimmed : ∀ line ∈ lines, line.head? ≠ some ' ') (free : ∀ line ∈ lines, '\n' ∉ line) :
    Run inner [] lines root ↔ ∃ entries children, Body inner.depth lines entries children ∧
      root = (inner.extend entries children).close := by
  constructor
  · intro run
    exact run.closes nonempty trimmed
  · rintro ⟨entries, children, body, rfl⟩
    have run := run_append_of_body body rfl trimmed free .done
    rwa [List.append_nil] at run

end Bodies

section Faults

/-- Lines that are not read are malformed. -/
theorem isMalformed_of_readLines {number : Nat} {inner : OpenNode} {outer : List OpenNode}
    {lines : List (List Char)} {fault : Fault}
    (refused : readLines number inner outer lines = .error fault)
    (free : ∀ line ∈ lines, '\n' ∉ line) : fault.IsMalformed := by
  induction lines generalizing number inner outer with
  | nil =>
    rw [readLines] at refused
    split at refused
    · contradiction
    · obtain rfl := Except.error.inj refused
      trivial
  | cons line rest ih =>
    have later {number : Nat} {inner : OpenNode} {outer : List OpenNode}
        (refused : readLines number inner outer rest = .error fault) : fault.IsMalformed :=
      ih refused fun other member => free other (List.mem_cons_of_mem _ member)
    rw [readLines] at refused
    cases means : Line.ofChars line with
    | blank => rw [means] at refused; exact later refused
    | opening name => rw [means] at refused; exact later refused
    | closing name =>
      rw [means] at refused
      cases outer with
      | nil => obtain rfl := Except.error.inj refused; trivial
      | cons parent others =>
        simp only at refused
        split at refused
        · exact later refused
        · obtain rfl := Except.error.inj refused
          trivial
    | «attribute» key value =>
      have accepted := Line.checkAttribute_of_ofTrimmed means
        fun lineFeed => free line (List.mem_cons_self ..) ((List.dropWhile_suffix _).mem lineFeed)
      rw [means] at refused
      simp only [accepted] at refused
      exact later refused
    | keyless => rw [means] at refused; obtain rfl := Except.error.inj refused; trivial
    | unknown text => rw [means] at refused; obtain rfl := Except.error.inj refused; trivial

end Faults

end OpenNode

section Bytes

theorem mem_significant {lines : List (List Char)} {line : List Char}
    (member : line ∈ significant lines) :
    line ≠ [] ∧ line.head? ≠ some ' ' ∧ ∃ written ∈ lines, line <:+ written := by
  obtain ⟨kept, nonempty⟩ := List.mem_filter.mp member
  obtain ⟨written, inLines, rfl⟩ := List.mem_map.mp kept
  refine ⟨by simpa using nonempty, ?_, written, inLines, List.dropWhile_suffix _⟩
  intro space
  exact absurd (Text.not_drop_of_mem_head? ' ' space) (by decide)

/-- A text is read as a tree exactly if its significant lines are the body of the root. -/
theorem Node.ofText_eq_ok_iff {text : List Char} {root : Node} :
    Node.ofText text = .ok root ↔ ∃ entries children,
      Body 0 (significant (Text.lines text)) entries children ∧
        root = ⟨"root", 0, Attributes.putAll [] entries, children⟩ := by
  have free : ∀ line ∈ significant (Text.lines text), '\n' ∉ line := by
    intro line member
    obtain ⟨-, -, written, inLines, suffix⟩ := mem_significant member
    exact fun lineFeed => Text.lineFeed_notMem_of_mem_lines inLines (suffix.mem lineFeed)
  rw [Node.ofText, OpenNode.readLines_eq_ok_iff, ← OpenNode.run_significant_iff,
    OpenNode.run_iff_body (fun line member => (mem_significant member).1)
      (fun line member => (mem_significant member).2.1) free]
  simp only [OpenNode.close_extend_bare]
  exact Iff.rfl

namespace Bundle

theorem isMalformed_of_parse {data : List UInt8} {fault : Fault}
    (refused : parse data = .error fault) : fault.IsMalformed := by
  rw [parse] at refused
  cases found : splitAtMark (encode marker) data with
  | none =>
    rw [found] at refused
    obtain rfl := Except.error.inj refused
    trivial
  | some parts =>
    obtain ⟨front, appendix⟩ := parts
    rw [found] at refused
    rcases Except.bind_eq_error_iff.mp refused with unreadable | ⟨text, -, refused⟩
    · obtain ⟨cause, -, rfl⟩ := Except.mapError_eq_error_iff.mp unreadable
      trivial
    · rcases Except.bind_eq_error_iff.mp refused with refused | ⟨root, -, done⟩
      · exact OpenNode.isMalformed_of_readLines refused
          fun line => Text.lineFeed_notMem_of_mem_lines
      · contradiction

/-- Data is read as a bundle exactly if it has the format of it; all other data is malformed, and no
attribute in any data is refused. -/
theorem parse_eq_ok_iff_format (data : List UInt8) :
    (∀ bundle, parse data = .ok bundle ↔ Format data bundle) ∧
      ((¬ ∃ bundle, Format data bundle) ↔
        ∃ fault, parse data = .error fault ∧ fault.IsMalformed) ∧
      ∀ refused, parse data ≠ .error (.attribute refused) := by
  have format : ∀ bundle, parse data = .ok bundle ↔ Format data bundle := by
    intro bundle
    rw [parse_eq_ok_iff]
    constructor
    · rintro ⟨text, found, read⟩
      obtain ⟨split, first⟩ := (splitAtMark_eq_some_iff encode_marker_ne_nil).mp found
      obtain ⟨entries, children, body, same⟩ := Node.ofText_eq_ok_iff.mp read
      obtain ⟨root, appendix⟩ := bundle
      subst same
      exact .intro split first body
    · rintro ⟨split, first, body⟩
      exact ⟨_, (splitAtMark_eq_some_iff encode_marker_ne_nil).mpr ⟨split, first⟩,
        Node.ofText_eq_ok_iff.mpr ⟨_, _, body, rfl⟩⟩
  refine ⟨format, ?_, fun refused parsed => isMalformed_of_parse parsed⟩
  simp only [← format]
  rw [Except.not_exists_ok_iff]
  constructor
  · rintro ⟨fault, refused⟩
    exact ⟨fault, refused, isMalformed_of_parse refused⟩
  · rintro ⟨fault, refused, -⟩
    exact ⟨fault, refused⟩

end Bundle

end Bytes

end Offload.Container
