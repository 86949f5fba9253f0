import Offload.Container.Header
import Offload.Proofs.Container.Labels

/-! # What becomes of an object id

A header's bundle holds the id as a text, and reading takes a text for an integer exactly if it denotes
a signed one of 64 bits. Payloads at the root bring in clean labels only, so the bundle is always read
back, and `Header.objectId_read_back` says as what: the id comes back as an integer below 2 ^ 63, and as
the text it was from there on.
-/

namespace Offload.Container

namespace Node

/-- A node with labels that are read back, where those of its children are their names. -/
structure Tidy (node : Node) : Prop where
  names : ∀ child ∈ node.children, CleanName child.name
  keys : ∀ entry ∈ node.attributes, CleanKey entry.1
  values : ∀ entry ∈ node.attributes, entry.2.Clean

theorem clean_iff_everywhere_tidy {node : Node} : node.Clean ↔ node.Everywhere Tidy := by
  constructor
  · intro clean below inside
    have names := forall_mem_preorderAll_children_iff.mp clean.names
    exact ⟨names below inside, clean.keys below inside, clean.values below inside⟩
  · intro tidy
    exact ⟨forall_mem_preorderAll_children_iff.mpr (tidy.imp fun _ here => here.names),
      fun below inside => (tidy below inside).keys, fun below inside => (tidy below inside).values⟩

theorem tidy_bare (name : String) (depth : Nat) : (bare name depth).Tidy :=
  ⟨fun _ member => absurd member List.not_mem_nil, fun _ member => absurd member List.not_mem_nil,
    fun _ member => absurd member List.not_mem_nil⟩

theorem Tidy.put {node : Node} (tidy : node.Tidy) {key : String} {value : Value}
    (cleanKey : CleanKey key) (clean : value.Clean) : (node.put key value).Tidy :=
  ⟨tidy.names, Attributes.forall_put tidy.keys cleanKey, Attributes.forall_put tidy.values clean⟩

theorem Tidy.push {node child : Node} (tidy : node.Tidy) (cleanName : CleanName child.name) :
    (node.push child).Tidy :=
  ⟨forall_children_push tidy.names cleanName, tidy.keys, tidy.values⟩

theorem everywhere_tidy_attachment (depth start size : Nat) :
    (Bundle.attachment depth start size).Everywhere Tidy := by
  have described : ((bare attachmentName depth).put "start" (.int (Int64.ofNat start))).Tidy :=
    (tidy_bare _ _).put (by decide) trivial
  have tidy : (Bundle.attachment depth start size).Tidy := described.put (by decide) trivial
  exact ((everywhere_bare (tidy_bare _ _)).put described).put tidy

/-- Every attribute is reread on its own. -/
theorem attribute?_reread (node : Node) (key : String) :
    node.reread.attribute? key = (node.attribute? key).map Value.reread := by
  unfold reread attribute? Attributes.lookup?
  rw [relabel_eq, List.find?_map, Option.map_map, Option.map_map]
  rfl

end Node

namespace Header

/-- The bundle of a header with this id: the id is an attribute of the root, and every label is read
back. -/
structure Carries (objectId : UInt64) (bundle : Bundle) : Prop where
  id : bundle.root.attribute? "object-id" = some (.text (toString objectId.toNat))
  sound : bundle.Sound
  tidy : bundle.root.Everywhere Node.Tidy

theorem not_marker_infix_repr (n : Nat) : ¬ Bundle.marker <:+: n.repr.toList := by
  intro inside
  have digit := (Text.Decimal.isDigits_repr n).2 'a' (inside.mem (by decide))
  contradiction

theorem cleanText_repr (n : Nat) : CleanText n.repr where
  carriageReturn := by
    intro ends
    have digit := (Text.Decimal.isDigits_repr n).2 _ (List.mem_of_mem_getLast? ends)
    contradiction
  marker := not_marker_infix_repr n

theorem carries_create (backend : String) (objectId : UInt64) :
    Carries objectId (create backend objectId).bundle := by
  have digits := (Text.Decimal.isDigits_repr objectId.toNat).2
  have accepted : checkAttribute "object-id" (.text (toString objectId.toNat)) = .ok () := by
    refine checkAttribute_eq_ok_iff.mpr ⟨by simp, ?_⟩
    rintro content ⟨⟩ lineFeed
    exact absurd (digits _ lineFeed) (by decide)
  have acceptedName : checkAttribute "generator" (.text "acpp") = .ok () := rfl
  have soundId : (Node.root.put "object-id" (.text (toString objectId.toNat))).Sound :=
    (Node.sound_bare _ _).put accepted
  have tidyId : (Node.root.put "object-id" (.text (toString objectId.toNat))).Tidy :=
    (Node.tidy_bare _ _).put (by decide) (cleanText_repr _)
  refine ⟨rfl, ⟨rfl, rfl, ?_⟩, ?_⟩
  · exact ((Node.everywhere_bare (Node.sound_bare _ _)).put soundId).put (soundId.put acceptedName)
  · exact ((Node.everywhere_bare (Node.tidy_bare _ _)).put tidyId).put
      (tidyId.put (by decide) (by decide))

/-- A payload at the root leaves the id as it is, and adds labels that are read back. -/
theorem Carries.attach {objectId : UInt64} {bundle : Bundle} (carries : Carries objectId bundle)
    (payload : List UInt8) : Carries objectId (bundle.attach [] payload) := by
  have done : bundle.apply (.attach [] payload) = .ok (bundle.attach [] payload) := rfl
  refine ⟨carries.id, carries.sound.apply done, ?_⟩
  exact carries.tidy.push (Node.everywhere_tidy_attachment _ _ _)
    (carries.tidy.self.push (show CleanName Node.attachmentName by decide))

theorem Carries.exists_applyAll {objectId : UInt64} {bundle : Bundle}
    (carries : Carries objectId bundle) (payloads : List (List UInt8)) :
    ∃ next, bundle.applyAll (payloads.map (.attach [])) = .ok next ∧ Carries objectId next := by
  induction payloads generalizing bundle with
  | nil => exact ⟨bundle, rfl, carries⟩
  | cons payload payloads ih => exact ih (carries.attach payload)

/-- A bundle that carries an id is read back, and this is what became of the id. -/
theorem Carries.parse_serialize {objectId : UInt64} {bundle : Bundle}
    (carries : Carries objectId bundle) :
    ∃ root, Bundle.parse bundle.serialize = .ok ⟨root, bundle.appendix⟩ ∧
      root.attribute? "object-id" =
        some (if objectId.toNat < Nat.pow 2 63 then .int (Int64.ofNat objectId.toNat)
          else .text (toString objectId.toNat)) := by
  refine ⟨bundle.root.reread, Bundle.parse_serialize carries.sound
    (Node.clean_iff_everywhere_tidy.mpr carries.tidy), ?_⟩
  rw [Node.attribute?_reread, carries.id, Option.map_some]
  congr 1
  change Value.ofChars objectId.toNat.repr.toList = _
  split
  · rename_i small
    have denotes := Text.Decimal.denotes_repr objectId.toNat
    rw [← Int64.toInt_ofNat_of_lt small] at denotes
    exact Value.ofChars_of_isInt64 denotes
  · rename_i large
    rw [Value.ofChars_of_not_isInt64 (mt (Text.Decimal.isInt64_repr_iff _).mp large),
      String.ofList_toList]
    rfl

/-- Whatever payloads are attached to the root of a header's bundle, the bundle is read back, and its
object id is an integer there exactly if it is below 2 ^ 63. Any other id remains a text. -/
theorem objectId_read_back (backend : String) (objectId : UInt64) (payloads : List (List UInt8)) :
    ∃ bundle root,
      (create backend objectId).bundle.applyAll (payloads.map (.attach [])) = .ok bundle ∧
      Bundle.parse bundle.serialize = .ok ⟨root, bundle.appendix⟩ ∧
      root.attribute? "object-id" =
        some (if objectId.toNat < Nat.pow 2 63 then .int (Int64.ofNat objectId.toNat)
          else .text (toString objectId.toNat)) ∧
      ((root.int? "object-id").map Int64.toInt = some (objectId.toNat : Int) ↔
        objectId.toNat < Nat.pow 2 63) := by
  obtain ⟨bundle, attached, carries⟩ := (carries_create backend objectId).exists_applyAll payloads
  obtain ⟨root, parsed, id⟩ := carries.parse_serialize
  refine ⟨bundle, root, attached, parsed, id, ?_⟩
  unfold Node.int?
  rw [id]
  by_cases small : objectId.toNat < Nat.pow 2 63
  · rw [if_pos small]
    exact iff_of_true (congrArg some (Int64.toInt_ofNat_of_lt small)) small
  · rw [if_neg small]
    exact iff_of_false (Option.some_ne_none _).symm small

/-- The smallest id with the sign bit set is read back as a text. -/
theorem objectId_read_back_signBit : ∃ root,
    Bundle.parse (create "cuda" 0x8000000000000000).bundle.serialize = .ok ⟨root, []⟩ ∧
      root.attribute? "object-id" = some (.text "9223372036854775808") ∧
      (root.int? "object-id").map Int64.toInt ≠ some (0x8000000000000000 : UInt64).toNat := by
  obtain ⟨bundle, root, attached, parsed, id, integer⟩ :=
    objectId_read_back "cuda" 0x8000000000000000 []
  obtain rfl := Except.ok.inj attached
  exact ⟨root, parsed, id, mt integer.mp (by decide)⟩

/-- Half of the ids that are drawn are read back as integers: those whose first random bit is not
set. -/
theorem drawnId_lt_iff {bits : Nat} (drawn : bits < Nat.pow 2 60) :
    (drawnId bits).toNat < Nat.pow 2 63 ↔ bits < Nat.pow 2 59 := by
  have pow60 : Nat.pow 2 60 = 0x1000000000000000 := rfl
  have pow59 : Nat.pow 2 59 = 0x800000000000000 := rfl
  have pow63 : Nat.pow 2 63 = 0x8000000000000000 := rfl
  rw [pow60] at drawn
  rw [pow59, pow63, drawnId, Nat.toUInt64, UInt64.toNat_ofNat_of_lt' (by
    change _ < 0x10000000000000000
    omega)]
  omega

end Header

end Offload.Container
