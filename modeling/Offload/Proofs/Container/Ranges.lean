import Offload.Container.Reader
import Offload.Proofs.Except

/-! # Reading the range that a node describes

A node describes a range if it has the name of an attachment and holds both bounds as integers that
are not negative (`Node.Spans`), wherever the node comes from and whatever else it holds. Two such
bounds add up to less than the limit of offsets, so nothing wraps around and only the appendix decides
whether the range is there (`Node.Spans.payload_eq`). A node that describes none is refused as
malformed. `payload_and_payloads` states all outcomes, of one node and of the children of a node.
-/

namespace Offload.Container

namespace Node

/-- The node holds this number under a key, as an integer. -/
def Holds (node : Node) (key : String) (number : Nat) : Prop :=
  ∃ written : Int64, node.attribute? key = some (.int written) ∧ written.toInt = number

/-- The node describes the range of this start and size. -/
structure Spans (node : Node) (start size : Nat) : Prop where
  name : node.name = "__binary"
  start : node.Holds "start" start
  size : node.Holds "size" size

variable {node : Node} {key : String} {number : Nat}

theorem int?_eq_some_iff {written : Int64} :
    node.int? key = some written ↔ node.attribute? key = some (.int written) := by
  unfold int?
  split
  · rename_i held
    simp [held]
  · rename_i other
    exact iff_of_false (by simp) (other written)

/-- An integer has 63 bits besides its sign. -/
theorem Holds.lt (holds : node.Holds key number) : number < Nat.pow 2 63 := by
  obtain ⟨written, -, same⟩ := holds
  have bound := written.toInt_lt
  change number < 2 ^ 63
  omega

end Node

namespace Bundle

variable {bundle : Bundle} {node : Node} {key : String} {number start size : Nat}

theorem rangeBound_eq_ok_iff : rangeBound node key = .ok number ↔ node.Holds key number := by
  unfold rangeBound Node.Holds
  simp only [← Node.int?_eq_some_iff]
  cases node.int? key with
  | none => simp
  | some written =>
    dsimp only
    split
    · rename_i negative
      constructor
      · intro absurdity
        contradiction
      · rintro ⟨other, same, value⟩
        obtain rfl := Option.some.inj same
        omega
    · rename_i natural
      constructor
      · intro done
        obtain rfl := Except.ok.inj done
        exact ⟨written, rfl, by omega⟩
      · rintro ⟨other, same, value⟩
        obtain rfl := Option.some.inj same
        rw [value, Int.toNat_natCast]

/-- What is wrong with a bound is in the node, not in the appendix. -/
theorem fault_of_rangeBound {fault : Fault} (failed : rangeBound node key = .error fault) :
    fault = .lacksInteger key ∨ fault = .negative key := by
  unfold rangeBound at failed
  split at failed
  · exact .inl (Except.error.inj failed).symm
  · split at failed
    · exact .inr (Except.error.inj failed).symm
    · contradiction

end Bundle

/-- A described range is read from the appendix if it ends there. The sum of the bounds is always an
offset. -/
theorem Node.Spans.payload_eq {node : Node} {start size : Nat} (spans : node.Spans start size)
    (bundle : Bundle) : bundle.payload node =
      if start + size ≤ bundle.appendix.length then .ok ((bundle.appendix.drop start).take size)
      else .error (.outOfRange start size bundle.appendix.length) := by
  have isStart := Bundle.rangeBound_eq_ok_iff.mpr spans.start
  have isSize := Bundle.rangeBound_eq_ok_iff.mpr spans.size
  have offset : start + size < Bundle.offsetLimit := by
    have limit : Bundle.offsetLimit = Nat.pow 2 63 + Nat.pow 2 63 := rfl
    have := spans.start.lt
    have := spans.size.lt
    omega
  have named : node.name = attachmentName := spans.name
  unfold Bundle.payload
  rw [if_pos named, isStart, isSize]
  change (if _ then _ else if _ then _ else _) = _
  rw [if_neg (Nat.not_le_of_lt offset)]
  split
  · rename_i beyond
    rw [if_neg (Nat.not_le_of_lt beyond)]
  · rename_i inside
    rw [if_pos (Nat.le_of_not_lt inside)]
    rfl

namespace Bundle

variable {bundle : Bundle} {node : Node}

/-- A node that describes no range is at fault itself. -/
theorem fault_of_not_spans (bundle : Bundle) (undescribed : ∀ start size, ¬ node.Spans start size) :
    ∃ fault, bundle.payload node = .error fault ∧ fault.IsMalformed ∧ fault ≠ .rangeOverflow := by
  unfold payload
  split
  · rename_i named
    cases isStart : rangeBound node "start" with
    | error fault =>
      refine ⟨fault, rfl, ?_⟩
      rcases fault_of_rangeBound isStart with rfl | rfl <;> exact ⟨trivial, by simp⟩
    | ok start =>
      cases isSize : rangeBound node "size" with
      | error fault =>
        refine ⟨fault, rfl, ?_⟩
        rcases fault_of_rangeBound isSize with rfl | rfl <;> exact ⟨trivial, by simp⟩
      | ok size =>
        exact absurd ⟨named, rangeBound_eq_ok_iff.mp isStart, rangeBound_eq_ok_iff.mp isSize⟩
          (undescribed start size)
  · exact ⟨.notAttachment node.name, rfl, trivial, by simp⟩

/-- The bytes that a node addresses in the appendix. -/
def Addresses (bundle : Bundle) (node : Node) (slice : List UInt8) : Prop :=
  ∃ start size, node.Spans start size ∧ start + size ≤ bundle.appendix.length ∧
    slice = (bundle.appendix.drop start).take size

theorem payload_eq_ok_iff {slice : List UInt8} :
    bundle.payload node = .ok slice ↔ bundle.Addresses node slice := by
  constructor
  · intro done
    by_cases described : ∃ start size, node.Spans start size
    · obtain ⟨start, size, spans⟩ := described
      rw [spans.payload_eq] at done
      split at done
      · rename_i inside
        exact ⟨start, size, spans, inside, (Except.ok.inj done).symm⟩
      · contradiction
    · obtain ⟨fault, failed, -⟩ := fault_of_not_spans bundle
        fun start size spans => described ⟨start, size, spans⟩
      exact nomatch done.symm.trans failed
  · rintro ⟨start, size, spans, inside, rfl⟩
    rw [spans.payload_eq, if_pos inside]

theorem payload_eq_outOfRange_iff {start size length : Nat} :
    bundle.payload node = .error (.outOfRange start size length) ↔ node.Spans start size ∧
      length = bundle.appendix.length ∧ bundle.appendix.length < start + size := by
  constructor
  · intro failed
    by_cases described : ∃ start size, node.Spans start size
    · obtain ⟨start', size', spans⟩ := described
      rw [spans.payload_eq] at failed
      split at failed
      · contradiction
      · rename_i beyond
        obtain ⟨rfl, rfl, rfl⟩ := Fault.outOfRange.inj (Except.error.inj failed)
        exact ⟨spans, rfl, Nat.lt_of_not_le beyond⟩
    · obtain ⟨fault, refused, malformed, -⟩ := fault_of_not_spans bundle
        fun start size spans => described ⟨start, size, spans⟩
      obtain rfl := Except.error.inj (failed.symm.trans refused)
      exact malformed.elim
  · rintro ⟨spans, rfl, beyond⟩
    rw [spans.payload_eq, if_neg (Nat.not_le_of_lt beyond)]

theorem payload_malformed_iff :
    (∃ fault, bundle.payload node = .error fault ∧ fault.IsMalformed) ↔
      ∀ start size, ¬ node.Spans start size := by
  constructor
  · rintro ⟨fault, failed, malformed⟩ start size spans
    rw [spans.payload_eq] at failed
    split at failed
    · contradiction
    · obtain rfl := Except.error.inj failed
      exact malformed
  · intro undescribed
    obtain ⟨fault, failed, malformed, -⟩ := fault_of_not_spans bundle undescribed
    exact ⟨fault, failed, malformed⟩

theorem payload_ne_rangeOverflow : bundle.payload node ≠ .error .rangeOverflow := by
  intro failed
  have undescribed := payload_malformed_iff.mp ⟨_, failed, trivial⟩
  obtain ⟨fault, refused, -, other⟩ := fault_of_not_spans bundle undescribed
  exact other (Except.error.inj (refused.symm.trans failed))

theorem payloads_eq_ok_iff {slices : List (List UInt8)} :
    bundle.payloads node = .ok slices ↔ List.Forall₂ bundle.Addresses
      (node.children.filter (·.name == "__binary")) slices := by
  refine Except.mapM_eq_ok_iff.trans ?_
  simp only [payload_eq_ok_iff]
  rfl

theorem payloads_eq_error_iff {fault : Fault} :
    bundle.payloads node = .error fault ↔ ∃ front child back,
      node.children.filter (·.name == "__binary") = front ++ child :: back ∧
      (∀ earlier ∈ front, ∃ slice, bundle.Addresses earlier slice) ∧
      bundle.payload child = .error fault := by
  refine Except.mapM_eq_error_iff.trans ?_
  simp only [payload_eq_ok_iff]
  rfl

/-- Every outcome of reading what a node describes, whatever bundle it is read from: the addressed
bytes, a range that reaches past the appendix, or a node that describes none. Of the children of a
node that have the name, all are read in order, or the first one that is refused decides. -/
theorem payload_and_payloads (bundle : Bundle) (node : Node) :
    (∀ slice, bundle.payload node = .ok slice ↔ bundle.Addresses node slice) ∧
    (∀ start size length, bundle.payload node = .error (.outOfRange start size length) ↔
      node.Spans start size ∧ length = bundle.appendix.length ∧
        bundle.appendix.length < start + size) ∧
    ((∃ fault, bundle.payload node = .error fault ∧ fault.IsMalformed) ↔
      ∀ start size, ¬ node.Spans start size) ∧
    bundle.payload node ≠ .error .rangeOverflow ∧
    (∀ slices, bundle.payloads node = .ok slices ↔ List.Forall₂ bundle.Addresses
      (node.children.filter (·.name == "__binary")) slices) ∧
    ∀ fault, bundle.payloads node = .error fault ↔ ∃ front child back,
      node.children.filter (·.name == "__binary") = front ++ child :: back ∧
      (∀ earlier ∈ front, ∃ slice, bundle.Addresses earlier slice) ∧
      bundle.payload child = .error fault :=
  ⟨fun _ => payload_eq_ok_iff, fun _ _ _ => payload_eq_outOfRange_iff, payload_malformed_iff,
    payload_ne_rangeOverflow, fun _ => payloads_eq_ok_iff, fun _ => payloads_eq_error_iff⟩

/-- An empty range may start at the end of the appendix, and no other. -/
example :
    payload ⟨Node.root, [1, 2]⟩ (attachment 1 2 0) = .ok [] ∧
    payload ⟨Node.root, [1, 2]⟩ (attachment 1 2 1) = .error (.outOfRange 2 1 2) ∧
    payload ⟨Node.root, [1, 2]⟩ (attachment 1 (Nat.pow 2 63 - 1) (Nat.pow 2 63 - 1)) =
      .error (.outOfRange (Nat.pow 2 63 - 1) (Nat.pow 2 63 - 1) 2) := by
  decide

end Bundle

end Offload.Container
