import Mathlib.Data.Bool.AllAny
import Offload.Container.Header
import Offload.Proofs.Text.Decimal
import Offload.Text.Blank

/-! # What an integration header embeds

Nothing that enters a rendered header holds a brace, a space or a line feed: names are made of letters,
digits and underscores, whatever the back end is called, ids and sizes of digits, and items of both and
commas. So the lines are the eight that were written, and the two marks around the array are first found
where they were written. Between them each byte stands as an item, and items are read back in one way
only (`Hex.bytes?_eq_some_iff`). `Header.render_embeds` says all of it of one header.
-/

namespace Offload.Text

variable {mark text front back : List Char}

/-- A text is cut where a mark first stands in it. -/
structure CutAtFirst (mark text front back : List Char) : Prop where
  split : text = front ++ (mark ++ back)
  first : ∀ earlier later, text = earlier ++ (mark ++ later) → front.length ≤ earlier.length

/-- What stands between the first of one mark and the next of another. -/
def Between (opening closing text middle : List Char) : Prop :=
  ∃ front back rest, CutAtFirst opening text front back ∧ CutAtFirst closing back middle rest

theorem CutAtFirst.unique {other rest : List Char} (cut : CutAtFirst mark text front back)
    (again : CutAtFirst mark text other rest) : other = front ∧ rest = back := by
  have same : other.length = front.length :=
    Nat.le_antisymm (again.first front back cut.split) (cut.first other rest again.split)
  obtain ⟨rfl, later⟩ := List.append_inj (again.split.symm.trans cut.split) same
  exact ⟨rfl, List.append_cancel_left later⟩

/-- A mark is first found behind a text that lacks one of its characters. -/
theorem cutAtFirst_of_notMem {c : Char} {beginning ending : List Char}
    (free : c ∉ front ++ beginning) (back : List Char) :
    CutAtFirst (beginning ++ c :: ending) (front ++ (beginning ++ c :: ending ++ back)) front back where
  split := rfl
  first := by
    intro earlier later same
    refine Nat.not_lt.mp fun shorter => ?_
    have position : (earlier ++ beginning).length < (front ++ beginning).length := by
      simp only [List.length_append]
      omega
    have whole : front ++ beginning ++ (c :: ending ++ back) =
        earlier ++ beginning ++ c :: (ending ++ later) := by simpa using same
    have here : (front ++ beginning)[(earlier ++ beginning).length]? = some c := by
      have skipped := @List.getElem?_append_left _ _ (c :: ending ++ back) _ position
      rw [← skipped, whole]
      simp
    exact free (List.mem_of_getElem? here)

theorem between_iff_of_cuts {opening closing middle rest : List Char}
    (first : CutAtFirst opening text front back) (next : CutAtFirst closing back middle rest)
    (between : List Char) : Between opening closing text between ↔ between = middle := by
  constructor
  · rintro ⟨front', back', rest', first', next'⟩
    obtain ⟨rfl, rfl⟩ := first.unique first'
    exact (next.unique next').1
  · rintro rfl
    exact ⟨front, back, rest, first, next⟩

end Offload.Text

namespace Offload.Container

section Identifiers

/-- An ASCII letter, an ASCII digit or an underscore. -/
def IsNameChar (c : Char) : Prop :=
  c.isAlphanum = true ∨ c = '_'

instance : DecidablePred IsNameChar :=
  fun c => inferInstanceAs (Decidable (c.isAlphanum = true ∨ c = '_'))

/-- Letters, digits and underscores that do not begin with a digit. -/
structure IsIdentifier (name : String) : Prop where
  characters : ∀ c ∈ name.toList, IsNameChar c
  beginning : ∃ c, name.toList.head? = some c ∧ c.isDigit = false

variable {c : Char} {text : List Char}

theorem isNameChar_of_isDigit (digit : c.isDigit = true) : IsNameChar c :=
  .inl (by rw [Char.isAlphanum, digit, Bool.or_true])

/-- No name can hold a character that is neither letter, digit nor underscore. -/
theorem notMem_of_isNameChar {mark : Char} (characters : ∀ c ∈ text, IsNameChar c)
    (other : ¬ IsNameChar mark) : mark ∉ text :=
  fun member => other (characters mark member)

/-- Letters and digits are ASCII, so what becomes of them can be looked up. -/
theorem isAlphanum_of_ascii {fold : Char → Char} (ascii : ∀ n < 128,
      (Char.ofNat n).isAlphanum = true → (fold (Char.ofNat n)).isAlphanum = true)
    (plain : c.isAlphanum = true) : (fold c).isAlphanum = true := by
  have ranges := Text.ranges_of_isAlphanum plain
  rw [← Char.ofNat_toNat c] at plain ⊢
  exact ascii c.toNat (by omega) plain

theorem Header.isNameChar_identifier {name : String} (member : c ∈ identifier name) :
    IsNameChar c := by
  obtain ⟨d, -, rfl⟩ := List.mem_map.mp member
  split
  · rename_i plain
    exact .inl plain
  · exact .inr rfl

/-- Folding the case of a name keeps to the characters of names, also with other names around it. -/
theorem Header.isNameChar_around {fold : Char → Char} {name : String} {front back : List Char}
    (keeps : ∀ c : Char, c.isAlphanum = true → (fold c).isAlphanum = true) (underscore : fold '_' = '_')
    (plainFront : ∀ c ∈ front, IsNameChar c) (plainBack : ∀ c ∈ back, IsNameChar c)
    (member : c ∈ front ++ (identifier name).map fold ++ back) : IsNameChar c := by
  rcases List.mem_append.mp member with inner | inBack
  · rcases List.mem_append.mp inner with inFront | inName
    · exact plainFront c inFront
    · obtain ⟨d, inPart, rfl⟩ := List.mem_map.mp inName
      rcases isNameChar_identifier inPart with plain | rfl
      · exact .inl (keeps d plain)
      · exact .inr underscore
  · exact plainBack c inBack

end Identifiers

namespace Hex

/-- The value of a lowercase hexadecimal digit. -/
def digit? (c : Char) : Option Nat :=
  (List.range 16).find? fun d => Nat.digitChar d == c

/-- The bytes that a text lists, each as `0x`, two lowercase digits and a comma. -/
def bytes? : List Char → Option (List UInt8)
  | [] => some []
  | zero :: x :: high :: low :: comma :: rest =>
    if zero = '0' ∧ x = 'x' ∧ comma = ',' then do
      return (16 * (← digit? high) + (← digit? low)).toUInt8 :: (← bytes? rest)
    else none
  | _ => none

theorem digit?_eq_some_iff {c : Char} {d : Nat} :
    digit? c = some d ↔ d < 16 ∧ Nat.digitChar d = c := by
  unfold digit?
  constructor
  · intro found
    have same : (Nat.digitChar d == c) = true :=
      List.find?_some (p := fun e => Nat.digitChar e == c) found
    exact ⟨List.mem_range.mp (List.mem_of_find?_eq_some found), beq_iff_eq.mp same⟩
  · rintro ⟨small, rfl⟩
    have each : ∀ d < 16, (List.range 16).find? (fun e => Nat.digitChar e == Nat.digitChar d) = some d := by
      decide
    exact each d small

theorem items_cons (byte : UInt8) (bytes : List UInt8) :
    items (byte :: bytes) = item byte ++ items bytes :=
  List.flatMap_cons

theorem bytes?_items (bytes : List UInt8) : bytes? (items bytes) = some bytes := by
  induction bytes with
  | nil => rfl
  | cons byte rest ih =>
    have bound := byte.toNat_lt
    have high := digit?_eq_some_iff.mpr ⟨show byte.toNat / 16 < 16 by omega, rfl⟩
    have low := digit?_eq_some_iff.mpr ⟨show byte.toNat % 16 < 16 by omega, rfl⟩
    rw [items_cons, item, List.cons_append, List.cons_append, List.cons_append, List.cons_append,
      List.cons_append, List.nil_append, bytes?, if_pos ⟨rfl, rfl, rfl⟩, high, low, ih]
    change some ((16 * (byte.toNat / 16) + byte.toNat % 16).toUInt8 :: rest) = _
    rw [Nat.div_add_mod, Nat.toUInt8, UInt8.ofNat_toNat]

/-- A text lists bytes in one way only: it is their items. -/
theorem bytes?_eq_some_iff {text : List Char} {bytes : List UInt8} :
    bytes? text = some bytes ↔ text = items bytes := by
  constructor
  · intro read
    fun_induction bytes? text generalizing bytes with
    | case1 =>
      obtain rfl := Option.some.inj read
      rfl
    | case2 zero x high low comma rest marks ih =>
      obtain ⟨rfl, rfl, rfl⟩ := marks
      obtain ⟨h, foundHigh, read⟩ := Option.bind_eq_some_iff.mp read
      obtain ⟨l, foundLow, read⟩ := Option.bind_eq_some_iff.mp read
      obtain ⟨later, readRest, read⟩ := Option.bind_eq_some_iff.mp read
      obtain rfl := Option.some.inj read
      obtain ⟨boundHigh, rfl⟩ := digit?_eq_some_iff.mp foundHigh
      obtain ⟨boundLow, rfl⟩ := digit?_eq_some_iff.mp foundLow
      have value : (16 * h + l).toUInt8.toNat = 16 * h + l :=
        UInt8.toNat_ofNat_of_lt' (show 16 * h + l < 256 by omega)
      rw [ih readRest, items_cons, item, value, Nat.mul_add_div (by decide),
        Nat.div_eq_of_lt boundLow, Nat.add_zero, Nat.mul_add_mod, Nat.mod_eq_of_lt boundLow]
      rfl
    | case3 => contradiction
    | case4 => contradiction
  · rintro rfl
    exact bytes?_items bytes

example : bytes? "0xff,0x0a,".toList = some [0xff, 0x0a] ∧ bytes? "0xFF,".toList = none ∧
    bytes? "0xff, 0x0a,".toList = none := by decide

theorem mem_items {c : Char} {bytes : List UInt8} (member : c ∈ items bytes) :
    IsNameChar c ∨ c = ',' := by
  obtain ⟨byte, -, inItem⟩ := List.mem_flatMap.mp member
  have digits : ∀ d < 16, IsNameChar (Nat.digitChar d) := by decide
  have bound := byte.toNat_lt
  simp only [item, List.mem_cons, List.not_mem_nil, or_false] at inItem
  rcases inItem with rfl | rfl | rfl | rfl | rfl
  · exact .inl (by decide)
  · exact .inl (by decide)
  · exact .inl (digits _ (by omega))
  · exact .inl (digits _ (by omega))
  · exact .inr rfl

end Hex

namespace Header

/-- What a rendered header is made of: the names of its guard, its constant and its array, the id, the
items of the array and their number. -/
structure Parts where
  guard : String
  constant : String
  array : String
  id : String
  items : String
  size : String

namespace Parts

/-- The lines of a header that is made of these parts. -/
def lines (parts : Parts) : List String :=
  ["#ifndef " ++ parts.guard,
    "#define " ++ parts.guard,
    "",
    "static const std::size_t " ++ parts.constant ++ " = " ++ parts.id ++ "ull;",
    "const unsigned char " ++ parts.array ++ " [] = \x7b " ++ parts.items ++ " \x7d;",
    "ACPP_STATIC_HCF_REGISTRATION(" ++ parts.id ++ "ull, " ++ parts.array ++ ", " ++ parts.size ++ ")",
    "",
    "#endif"]

/-- The text of these lines. -/
def text (parts : Parts) : String :=
  String.join (parts.lines.map (· ++ "\n"))

/-- Every part but the items is made of letters, digits and underscores, and the items of these and
commas. -/
structure Plain (parts : Parts) : Prop where
  guard : ∀ c ∈ parts.guard.toList, IsNameChar c
  constant : ∀ c ∈ parts.constant.toList, IsNameChar c
  array : ∀ c ∈ parts.array.toList, IsNameChar c
  id : ∀ c ∈ parts.id.toList, IsNameChar c
  items : ∀ c ∈ parts.items.toList, IsNameChar c ∨ c = ','
  size : ∀ c ∈ parts.size.toList, IsNameChar c

variable {parts : Parts}

theorem Plain.notMem_items {mark : Char} (plain : parts.Plain) (other : ¬ IsNameChar mark)
    (noComma : mark ≠ ',') : mark ∉ parts.items.toList :=
  fun member => (plain.items mark member).elim other noComma

theorem Plain.lineFeed_notMem (plain : parts.Plain) : ∀ line ∈ parts.lines, '\n' ∉ line.toList := by
  have other : ¬ IsNameChar '\n' := by decide
  simp [lines, notMem_of_isNameChar plain.guard other, notMem_of_isNameChar plain.constant other,
    notMem_of_isNameChar plain.array other, notMem_of_isNameChar plain.id other,
    notMem_of_isNameChar plain.size other, plain.notMem_items other (by decide)]

/-- The first mark that opens and the next that closes are those around the items. -/
theorem Plain.between_iff (plain : parts.Plain) (between : List Char) :
    Text.Between "= \x7b ".toList " \x7d;".toList parts.text.toList between ↔
      between = parts.items.toList := by
  -- No part holds a brace, so each mark is first found where its brace was written.
  have opening : ¬ IsNameChar '\x7b' := by decide
  have closing : ¬ IsNameChar '\x7d' := by decide
  let front := (String.join ((parts.lines.take 4).map (· ++ "\n"))).toList ++
    ("const unsigned char " ++ parts.array ++ " [] ").toList
  let rest := ("\n" ++ String.join ((parts.lines.drop 5).map (· ++ "\n"))).toList
  have free : '\x7b' ∉ front ++ "= ".toList := by
    simp [front, lines, notMem_of_isNameChar plain.guard opening,
      notMem_of_isNameChar plain.constant opening, notMem_of_isNameChar plain.array opening,
      notMem_of_isNameChar plain.id opening]
  have freeItems : '\x7d' ∉ parts.items.toList ++ " ".toList := by
    simp [plain.notMem_items closing (by decide)]
  have next : Text.CutAtFirst " \x7d;".toList (parts.items.toList ++ (" \x7d;".toList ++ rest))
      parts.items.toList rest :=
    Text.cutAtFirst_of_notMem freeItems rest
  have first : Text.CutAtFirst "= \x7b ".toList
      (front ++ ("= \x7b ".toList ++ (parts.items.toList ++ (" \x7d;".toList ++ rest)))) front
      (parts.items.toList ++ (" \x7d;".toList ++ rest)) :=
    Text.cutAtFirst_of_notMem free _
  have whole : parts.text.toList =
      front ++ ("= \x7b ".toList ++ (parts.items.toList ++ (" \x7d;".toList ++ rest))) := by
    simp [text, lines, front, rest]
  rw [whole]
  exact Text.between_iff_of_cuts first next between

end Parts

/-- The parts of a header. -/
def parts (header : Header) : Parts where
  guard := "ACPP_" ++ String.ofList ((identifier header.backend).map Char.toUpper) ++
    "_INTEGRATION_HEADER"
  constant := "__acpp_local_" ++ String.ofList ((identifier header.backend).map Char.toLower) ++
    "_hcf_object_id"
  array := "__acpp_hcf_object_" ++ toString header.objectId.toNat
  id := toString header.objectId.toNat
  items := String.ofList (Hex.items header.bundle.serialize)
  size := toString header.bundle.serialize.length

theorem render_eq_text_parts (header : Header) : header.render = header.parts.text := by
  apply String.toList_inj.mp
  simp [render, lines, Parts.text, Parts.lines, parts]

theorem isIdentifier_guard (header : Header) : IsIdentifier header.parts.guard where
  characters := by
    simpa only [parts, String.toList_append, String.toList_ofList] using fun _ =>
      isNameChar_around (fun _ => isAlphanum_of_ascii (by decide)) rfl
        (List.all_iff_forall_prop.mp (by decide)) (List.all_iff_forall_prop.mp (by decide))
  beginning := ⟨'A', by simp [parts], rfl⟩

theorem isIdentifier_constant (header : Header) : IsIdentifier header.parts.constant where
  characters := by
    simpa only [parts, String.toList_append, String.toList_ofList] using fun _ =>
      isNameChar_around (fun _ => isAlphanum_of_ascii (by decide)) rfl
        (List.all_iff_forall_prop.mp (by decide)) (List.all_iff_forall_prop.mp (by decide))
  beginning := ⟨'_', by simp [parts], rfl⟩

theorem isNameChar_toString {n : Nat} {c : Char} (member : c ∈ (toString n).toList) :
    IsNameChar c :=
  isNameChar_of_isDigit ((Text.Decimal.isDigits_repr n).2 c member)

theorem isIdentifier_array (header : Header) : IsIdentifier header.parts.array where
  characters := by
    have front : ∀ c ∈ "__acpp_hcf_object_".toList, IsNameChar c :=
      List.all_iff_forall_prop.mp (by decide)
    intro c member
    rw [parts, String.toList_append] at member
    exact (List.mem_append.mp member).elim (front c) isNameChar_toString
  beginning := ⟨'_', by simp [parts], rfl⟩

theorem plain_parts (header : Header) : header.parts.Plain where
  guard := header.isIdentifier_guard.characters
  constant := header.isIdentifier_constant.characters
  array := header.isIdentifier_array.characters
  id := fun _ => isNameChar_toString
  items := fun _ member => Hex.mem_items (by rwa [parts, String.toList_ofList] at member)
  size := fun _ => isNameChar_toString

/-- A rendered header embeds exactly the serialized bundle, whatever its back end is called. -/
theorem render_embeds (header : Header) : ∃ parts : Parts,
    header.render = String.join (parts.lines.map (· ++ "\n")) ∧
    (parts.lines.length = 8 ∧ ∀ line ∈ parts.lines, '\n' ∉ line.toList) ∧
    (IsIdentifier parts.guard ∧ IsIdentifier parts.constant ∧ IsIdentifier parts.array) ∧
    Text.Decimal.natural? parts.id.toList = some header.objectId.toNat ∧
    (∀ between, Text.Between "= \x7b ".toList " \x7d;".toList header.render.toList between ↔
      between = parts.items.toList) ∧
    Hex.bytes? parts.items.toList = some header.bundle.serialize ∧
    parts.items.toList.length = 5 * header.bundle.serialize.length ∧
    Text.Decimal.natural? parts.size.toList = some header.bundle.serialize.length := by
  have plain := header.plain_parts
  have text := header.render_eq_text_parts
  have items : header.parts.items.toList = Hex.items header.bundle.serialize := String.toList_ofList
  refine ⟨header.parts, text, ⟨rfl, plain.lineFeed_notMem⟩,
    ⟨header.isIdentifier_guard, header.isIdentifier_constant, header.isIdentifier_array⟩,
    Text.Decimal.natural?_repr _, ?_, Hex.bytes?_eq_some_iff.mpr items, ?_,
    Text.Decimal.natural?_repr _⟩
  · rw [text]
    exact plain.between_iff
  · rw [items]
    exact Hex.length_items _

end Header

end Offload.Container
