import Mathlib.Data.List.Basic
import Offload.Text.Utf8

/-! # Decoding undoes encoding

The bytes behind the first one of a character are exactly what the automaton still owes when it has
read that first byte, and the code points agree; this is checked once per range of first bytes and
serves both directions. `decode_eq_ok_iff` then says that decoding succeeds on encoded text and
nothing else.
-/

namespace Offload.Text.Utf8

section Continuation

/-- Bytes that end the character a pending state has begun. -/
structure Pending.Completes (pending : Pending) (tail : List UInt8) : Prop where
  length : tail.length = pending.owed
  first : ∀ byte ∈ tail.head?, pending.low ≤ byte.toNat ∧ byte.toNat ≤ pending.high
  later : ∀ byte ∈ tail.tail, 0x80 ≤ byte.toNat ∧ byte.toNat ≤ 0xBF

/-- The code point that such bytes complete. -/
def Pending.total (pending : Pending) (tail : List UInt8) : Nat :=
  tail.foldl (fun code byte => code * 64 + (byte.toNat - 0x80)) pending.code

/-- The state behind a byte that leaves the character unfinished. -/
def Pending.next (pending : Pending) (byte : UInt8) : Pending :=
  ⟨pending.owed - 1, 0x80, 0xBF, pending.code * 64 + (byte.toNat - 0x80), pending.seen + 1⟩

theorem Pending.step_of_bounds {pending : Pending} {byte : UInt8}
    (bounds : pending.low ≤ byte.toNat ∧ byte.toNat ≤ pending.high) :
    pending.step byte =
      if pending.owed ≤ 1 then .char (Char.ofNat (pending.next byte).code)
      else .more (pending.next byte) := by
  unfold Pending.step
  rw [if_pos bounds]
  rfl

theorem Pending.step_of_not_bounds {pending : Pending} {byte : UInt8}
    (outside : ¬ (pending.low ≤ byte.toNat ∧ byte.toNat ≤ pending.high)) :
    pending.step byte = .refused := by
  simp only [Pending.step, if_neg outside]

theorem Pending.total_cons (pending : Pending) (byte : UInt8) (tail : List UInt8) :
    pending.total (byte :: tail) = (pending.next byte).total tail := by
  unfold Pending.total Pending.next
  rw [List.foldl_cons]

theorem Pending.completes_cons_iff {pending : Pending} {byte : UInt8} {tail : List UInt8}
    (owes : 1 < pending.owed) : pending.Completes (byte :: tail) ↔
      (pending.low ≤ byte.toNat ∧ byte.toNat ≤ pending.high) ∧
        (pending.next byte).Completes tail := by
  constructor
  · rintro ⟨length, first, later⟩
    refine ⟨first byte rfl, ?_, ?_, ?_⟩
    · simp only [List.length_cons] at length
      change tail.length = pending.owed - 1
      omega
    · intro other member
      exact later other (List.mem_of_mem_head? member)
    · intro other member
      exact later other (List.mem_of_mem_tail member)
  · rintro ⟨bounds, length, first, later⟩
    refine ⟨?_, ?_, ?_⟩
    · change tail.length = pending.owed - 1 at length
      simp only [List.length_cons]
      omega
    · rintro _ ⟨⟩
      exact bounds
    · intro other member
      cases tail with
      | nil => exact absurd member List.not_mem_nil
      | cons second tail =>
        rcases List.mem_cons.mp member with rfl | inTail
        · exact first other rfl
        · exact later other inTail

/-- The automaton takes completing bytes and comes out at their code point. -/
theorem decodeFrom_completes (offset : Nat) {pending : Pending} {tail : List UInt8}
    (owes : 0 < pending.owed) (completes : pending.Completes tail) (rest : List UInt8) :
    ∃ next, decodeFrom offset (some pending) (tail ++ rest) =
      (decodeFrom next none rest).map (Char.ofNat (pending.total tail) :: ·) := by
  induction tail generalizing pending offset with
  | nil => exact absurd completes.length (Nat.ne_of_lt owes)
  | cons byte tail ih =>
    have bounds := completes.first byte rfl
    rw [List.cons_append, decodeFrom, Pending.step_of_bounds bounds]
    by_cases last : pending.owed ≤ 1
    · have length := completes.length
      rw [List.length_cons] at length
      obtain rfl : tail = [] := List.length_eq_zero_iff.mp (by omega)
      exact ⟨offset + pending.seen + 1, by rw [if_pos last, Pending.total_cons]; rfl⟩
    · have continues := (Pending.completes_cons_iff (by omega)).mp completes
      have owed : 0 < (pending.next byte).owed := by change 0 < pending.owed - 1; omega
      obtain ⟨next, taken⟩ := ih offset owed continues.2
      exact ⟨next, by rw [if_neg last, Pending.total_cons]; exact taken⟩

/-- Where the automaton comes out of a character, it took completing bytes. -/
theorem completes_of_decodeFrom {pending : Pending} {bytes : List UInt8} {offset : Nat}
    {text : List Char} (owes : 0 < pending.owed)
    (decoded : decodeFrom offset (some pending) bytes = .ok text) :
    ∃ tail rest next others, bytes = tail ++ rest ∧ pending.Completes tail ∧
      text = Char.ofNat (pending.total tail) :: others ∧ decodeFrom next none rest = .ok others := by
  induction bytes generalizing pending offset with
  | nil => contradiction
  | cons byte bytes ih =>
    rw [decodeFrom] at decoded
    by_cases bounds : pending.low ≤ byte.toNat ∧ byte.toNat ≤ pending.high
    · rw [Pending.step_of_bounds bounds] at decoded
      by_cases last : pending.owed ≤ 1
      · rw [if_pos last] at decoded
        cases later : decodeFrom (offset + pending.seen + 1) none bytes with
        | error fault => simp [later, Except.map] at decoded
        | ok others =>
          simp only [later, Except.map, Except.ok.injEq] at decoded
          refine ⟨[byte], bytes, _, others, rfl, ⟨?_, ?_, by simp⟩, decoded.symm, later⟩
          · exact Nat.le_antisymm owes last
          · rintro _ ⟨⟩
            exact bounds
      · rw [if_neg last] at decoded
        have owed : 0 < (pending.next byte).owed := by change 0 < pending.owed - 1; omega
        obtain ⟨tail, rest, next, others, rfl, completes, rfl, later⟩ := ih owed decoded
        exact ⟨byte :: tail, rest, next, others, rfl,
          (Pending.completes_cons_iff (by omega)).mpr ⟨bounds, completes⟩,
          by rw [Pending.total_cons], later⟩
    · rw [Pending.step_of_not_bounds bounds] at decoded
      contradiction

end Continuation

section Character

private theorem toNat_toUInt8 {n : Nat} (small : n < 256) : n.toUInt8.toNat = n := by
  simp [Nat.mod_eq_of_lt small]

private theorem toUInt8_eq {n : Nat} (byte : UInt8) (same : n = byte.toNat) :
    n.toUInt8 = byte := by
  subst same
  exact UInt8.ofNat_toNat

/-- The code points that are characters. -/
private theorem toNat_bounds (c : Char) :
    c.toNat < 0xD800 ∨ 0xDFFF < c.toNat ∧ c.toNat < 0x110000 := c.valid

private theorem toNat_ofNat {n : Nat} (valid : n < 0xD800 ∨ 0xDFFF < n ∧ n < 0x110000) :
    (Char.ofNat n).toNat = n := by
  unfold Char.ofNat
  rw [dif_pos valid]
  rfl

theorem encodeChar_ascii {c : Char} (ascii : c.toNat < 0x80) :
    encodeChar c = [c.toNat.toUInt8] := by
  simp only [encodeChar, if_pos ascii]

/-- First bytes by the number of bytes they announce. Only the bounds on the second byte tell the
bytes of one length apart. -/
theorem start_eq (byte : UInt8) : start byte =
    if byte.toNat < 0x80 then .char (Char.ofNat byte.toNat)
    else if byte.toNat < 0xC2 then .refused
    else if byte.toNat < 0xE0 then .more ⟨1, 0x80, 0xBF, byte.toNat - 0xC0, 1⟩
    else if byte.toNat < 0xF0 then
      .more ⟨2, if byte.toNat = 0xE0 then 0xA0 else 0x80,
        if byte.toNat = 0xED then 0x9F else 0xBF, byte.toNat - 0xE0, 1⟩
    else if byte.toNat < 0xF5 then
      .more ⟨3, if byte.toNat = 0xF0 then 0x90 else 0x80,
        if byte.toNat = 0xF4 then 0x8F else 0xBF, byte.toNat - 0xF0, 1⟩
    else .refused := by
  unfold start
  generalize byte.toNat = b
  dsimp only
  grind

private theorem start_ascii {byte : UInt8} (ascii : byte.toNat < 0x80) :
    start byte = .char (Char.ofNat byte.toNat) := by
  rw [start_eq, if_pos ascii]

/-- What a byte begins that is not a character of its own. -/
private theorem start_more_cases {byte : UInt8} {pending : Pending}
    (begun : start byte = .more pending) :
    (0xC2 ≤ byte.toNat ∧ byte.toNat < 0xE0 ∧
      pending = ⟨1, 0x80, 0xBF, byte.toNat - 0xC0, 1⟩) ∨
    (0xE0 ≤ byte.toNat ∧ byte.toNat < 0xF0 ∧
      pending = ⟨2, if byte.toNat = 0xE0 then 0xA0 else 0x80,
        if byte.toNat = 0xED then 0x9F else 0xBF, byte.toNat - 0xE0, 1⟩) ∨
    (0xF0 ≤ byte.toNat ∧ byte.toNat < 0xF5 ∧
      pending = ⟨3, if byte.toNat = 0xF0 then 0x90 else 0x80,
        if byte.toNat = 0xF4 then 0x8F else 0xBF, byte.toNat - 0xF0, 1⟩) := by
  rw [start_eq] at begun
  grind

/-- A character past ASCII is a first byte and bytes that complete what it begins. -/
theorem encodeChar_multibyte {c : Char} (past : 0x80 ≤ c.toNat) :
    ∃ byte tail pending, encodeChar c = byte :: tail ∧ start byte = .more pending ∧
      0 < pending.owed ∧ pending.Completes tail ∧ pending.total tail = c.toNat := by
  have bounds := toNat_bounds c
  generalize code : c.toNat = n at past bounds
  have last : (0x80 + n % 64).toUInt8.toNat = 0x80 + n % 64 := toNat_toUInt8 (by omega)
  have middle : (0x80 + n / 64 % 64).toUInt8.toNat = 0x80 + n / 64 % 64 := toNat_toUInt8 (by omega)
  simp only [encodeChar, code, if_neg (Nat.not_lt.mpr past)]
  by_cases two : n < 0x800
  · have first : (0xC0 + n / 64).toUInt8.toNat = 0xC0 + n / 64 := toNat_toUInt8 (by omega)
    rw [if_pos two]
    refine ⟨_, _, ⟨1, 0x80, 0xBF, n / 64, 1⟩, rfl, ?_, Nat.one_pos, ⟨rfl, ?_, by simp⟩, ?_⟩
    · rw [start_eq, first]
      grind
    · rintro _ ⟨⟩
      rw [last]
      dsimp only
      omega
    · simp only [Pending.total, List.foldl_cons, List.foldl_nil, last]
      omega
  by_cases three : n < 0x10000
  · have first : (0xE0 + n / 4096).toUInt8.toNat = 0xE0 + n / 4096 := toNat_toUInt8 (by omega)
    rw [if_neg two, if_pos three]
    refine ⟨_, _, ⟨2, if n / 4096 = 0 then 0xA0 else 0x80, if n / 4096 = 13 then 0x9F else 0xBF,
      n / 4096, 1⟩, rfl, ?_, Nat.two_pos, ⟨rfl, ?_, ?_⟩, ?_⟩
    · rw [start_eq, first]
      grind
    · rintro _ ⟨⟩
      rw [middle]
      grind
    · intro byte member
      obtain rfl := List.mem_singleton.mp member
      rw [last]
      omega
    · simp only [Pending.total, List.foldl_cons, List.foldl_nil, middle, last]
      omega
  · have first : (0xF0 + n / 262144).toUInt8.toNat = 0xF0 + n / 262144 := toNat_toUInt8 (by omega)
    have second : (0x80 + n / 4096 % 64).toUInt8.toNat = 0x80 + n / 4096 % 64 :=
      toNat_toUInt8 (by omega)
    rw [if_neg two, if_neg three]
    refine ⟨_, _, ⟨3, if n / 262144 = 0 then 0x90 else 0x80, if n / 262144 = 4 then 0x8F else 0xBF,
      n / 262144, 1⟩, rfl, ?_, Nat.succ_pos _, ⟨rfl, ?_, ?_⟩, ?_⟩
    · rw [start_eq, first]
      grind
    · rintro _ ⟨⟩
      rw [second]
      grind
    · intro byte member
      simp only [List.tail_cons, List.mem_cons, List.not_mem_nil, or_false] at member
      rcases member with rfl | rfl
      · rw [middle]
        omega
      · rw [last]
        omega
    · simp only [Pending.total, List.foldl_cons, List.foldl_nil, second, middle, last]
      omega

/-- Completing bytes behind a first byte are the character of their code point. -/
theorem encodeChar_ofNat_total {byte : UInt8} {tail : List UInt8} {pending : Pending}
    (begun : start byte = .more pending) (completes : pending.Completes tail) :
    encodeChar (Char.ofNat (pending.total tail)) = byte :: tail := by
  obtain ⟨length, first, later⟩ := completes
  rcases start_more_cases begun with ⟨low, high, rfl⟩ | ⟨low, high, rfl⟩ | ⟨low, high, rfl⟩
  · obtain ⟨b, rfl⟩ := List.length_eq_one_iff.mp length
    have second := first b rfl
    dsimp only at second
    simp only [Pending.total, List.foldl_cons, List.foldl_nil]
    generalize code : (byte.toNat - 0xC0) * 64 + (b.toNat - 0x80) = n
    simp only [encodeChar, toNat_ofNat (n := n) (by omega)]
    rw [if_neg (by omega), if_pos (by omega), toUInt8_eq byte (by omega), toUInt8_eq b (by omega)]
  · obtain ⟨b, c, rfl⟩ := List.length_eq_two.mp length
    have second := first b rfl
    have third := later c (by simp)
    dsimp only at second
    simp only [Pending.total, List.foldl_cons, List.foldl_nil]
    generalize code : ((byte.toNat - 0xE0) * 64 + (b.toNat - 0x80)) * 64 + (c.toNat - 0x80) = n
    have bounds : 0x800 ≤ n ∧ n < 0x10000 ∧ (n < 0xD800 ∨ 0xDFFF < n) := by grind
    have continuation : 0x80 ≤ b.toNat ∧ b.toNat ≤ 0xBF := by grind
    simp only [encodeChar, toNat_ofNat (n := n) (by omega)]
    rw [if_neg (by omega), if_neg (by omega), if_pos (by omega), toUInt8_eq byte (by omega),
      toUInt8_eq b (by omega), toUInt8_eq c (by omega)]
  · obtain ⟨b, c, d, rfl⟩ := List.length_eq_three.mp length
    have second := first b rfl
    have third := later c (by simp)
    have fourth := later d (by simp)
    dsimp only at second
    simp only [Pending.total, List.foldl_cons, List.foldl_nil]
    generalize code : (((byte.toNat - 0xF0) * 64 + (b.toNat - 0x80)) * 64 + (c.toNat - 0x80)) * 64 +
      (d.toNat - 0x80) = n
    have bounds : 0x10000 ≤ n ∧ n < 0x110000 := by grind
    have continuation : 0x80 ≤ b.toNat ∧ b.toNat ≤ 0xBF := by grind
    simp only [encodeChar, toNat_ofNat (n := n) (by omega)]
    rw [if_neg (by omega), if_neg (by omega), if_neg (by omega), toUInt8_eq byte (by omega),
      toUInt8_eq b (by omega), toUInt8_eq c (by omega), toUInt8_eq d (by omega)]

/-- The automaton takes the bytes of one character and comes out at that character. -/
theorem decodeFrom_encodeChar (offset : Nat) (c : Char) (rest : List UInt8) :
    ∃ next, decodeFrom offset none (encodeChar c ++ rest) =
      (decodeFrom next none rest).map (c :: ·) := by
  by_cases ascii : c.toNat < 0x80
  · have same : c.toNat.toUInt8.toNat = c.toNat := toNat_toUInt8 (by omega)
    refine ⟨offset + 1, ?_⟩
    rw [encodeChar_ascii ascii, List.singleton_append, decodeFrom, start_ascii (by omega), same,
      Char.ofNat_toNat]
  · obtain ⟨byte, tail, pending, bytes, begun, owes, completes, total⟩ :=
      encodeChar_multibyte (Nat.not_lt.mp ascii)
    obtain ⟨next, taken⟩ := decodeFrom_completes offset owes completes rest
    refine ⟨next, ?_⟩
    rw [bytes, List.cons_append, decodeFrom, begun]
    dsimp only
    rw [taken, total, Char.ofNat_toNat]

/-- Bytes that decode begin with the bytes of their first character. -/
theorem encodeChar_of_decodeFrom {offset : Nat} {byte : UInt8} {bytes : List UInt8}
    {text : List Char} (decoded : decodeFrom offset none (byte :: bytes) = .ok text) :
    ∃ c rest next others, byte :: bytes = encodeChar c ++ rest ∧ text = c :: others ∧
      decodeFrom next none rest = .ok others := by
  rw [decodeFrom] at decoded
  cases begun : start byte with
  | refused => simp [begun] at decoded
  | char c =>
    have single : encodeChar c = [byte] := by
      rw [start_eq] at begun
      have ascii : byte.toNat < 0x80 ∧ c = Char.ofNat byte.toNat := by grind
      obtain ⟨small, rfl⟩ := ascii
      have code : (Char.ofNat byte.toNat).toNat = byte.toNat := toNat_ofNat (by omega)
      rw [encodeChar_ascii (by omega), toUInt8_eq byte code]
    simp only [begun] at decoded
    cases later : decodeFrom (offset + 1) none bytes with
    | error fault => simp [later, Except.map] at decoded
    | ok others =>
      simp only [later, Except.map, Except.ok.injEq] at decoded
      exact ⟨c, bytes, _, others, by rw [single, List.singleton_append], decoded.symm, later⟩
  | more pending =>
    have owes : 0 < pending.owed := by
      rcases start_more_cases begun with ⟨-, -, rfl⟩ | ⟨-, -, rfl⟩ | ⟨-, -, rfl⟩ <;>
        exact Nat.succ_pos _
    simp only [begun] at decoded
    obtain ⟨tail, rest, next, others, rfl, completes, rfl, later⟩ :=
      completes_of_decodeFrom owes decoded
    refine ⟨_, rest, next, others, ?_, rfl, later⟩
    rw [encodeChar_ofNat_total begun completes, List.cons_append]

end Character

section Text

theorem decodeFrom_encode (offset : Nat) (text : List Char) :
    decodeFrom offset none (encode text) = .ok text := by
  induction text generalizing offset with
  | nil => rfl
  | cons c rest ih =>
    obtain ⟨next, taken⟩ := decodeFrom_encodeChar offset c (encode rest)
    rw [encode_cons, taken, ih]
    rfl

theorem encode_of_decodeFrom {offset : Nat} {bytes : List UInt8} {text : List Char}
    (decoded : decodeFrom offset none bytes = .ok text) : encode text = bytes := by
  induction text generalizing offset bytes with
  | nil =>
    cases bytes with
    | nil => rfl
    | cons byte bytes =>
      obtain ⟨c, rest, next, others, _, absurdity, _⟩ := encodeChar_of_decodeFrom decoded
      contradiction
  | cons c others ih =>
    cases bytes with
    | nil => simp [decodeFrom] at decoded
    | cons byte bytes =>
      obtain ⟨first, rest, next, later, split, same, decodedRest⟩ :=
        encodeChar_of_decodeFrom decoded
      obtain ⟨rfl, rfl⟩ := List.cons.inj same
      rw [split, encode_cons, ih decodedRest]

/-- Bytes decode to a text exactly when they are its encoding. -/
theorem decode_eq_ok_iff {bytes : List UInt8} {text : List Char} :
    decode bytes = .ok text ↔ bytes = encode text :=
  ⟨fun decoded => (encode_of_decodeFrom decoded).symm, fun same => same ▸ decodeFrom_encode 0 text⟩

end Text

section Ascii

theorem past_ascii_of_mem_encodeChar {c : Char} (past : 0x80 ≤ c.toNat) :
    ∀ byte ∈ encodeChar c, 0x80 ≤ byte.toNat := by
  obtain ⟨first, tail, pending, bytes, begun, owes, completes, -⟩ := encodeChar_multibyte past
  rw [bytes]
  intro byte member
  rcases List.mem_cons.mp member with rfl | inTail
  · rcases start_more_cases begun with ⟨low, -, -⟩ | ⟨low, -, -⟩ | ⟨low, -, -⟩ <;> omega
  · have least : 0x80 ≤ pending.low := by
      rcases start_more_cases begun with ⟨-, -, rfl⟩ | ⟨-, -, rfl⟩ | ⟨-, -, rfl⟩ <;> grind
    cases tail with
    | nil => contradiction
    | cons second tail =>
      rcases List.mem_cons.mp inTail with rfl | later
      · exact Nat.le_trans least (completes.first byte rfl).1
      · exact (completes.later byte later).1

/-- A byte of ASCII is never part of a longer character. -/
theorem encodeChar_of_mem {c m : Char} (ascii : m.toNat < 0x80)
    (member : m.toNat.toUInt8 ∈ encodeChar c) : c = m := by
  have byte : m.toNat.toUInt8.toNat = m.toNat := toNat_toUInt8 (by omega)
  by_cases small : c.toNat < 0x80
  · rw [encodeChar_ascii small] at member
    have same := congrArg UInt8.toNat (List.mem_singleton.mp member)
    rw [byte, toNat_toUInt8 (by omega)] at same
    exact (Char.toNat_inj.mp same).symm
  · have past := past_ascii_of_mem_encodeChar (Nat.not_lt.mp small) _ member
    omega

theorem encodeChar_ne_nil (c : Char) : encodeChar c ≠ [] := by
  by_cases ascii : c.toNat < 0x80
  · rw [encodeChar_ascii ascii]
    exact List.cons_ne_nil _ _
  · obtain ⟨byte, tail, _, bytes, -⟩ := encodeChar_multibyte (Nat.not_lt.mp ascii)
    rw [bytes]
    exact List.cons_ne_nil _ _

/-- ASCII text at the front of encoded text is at the front of the text. -/
theorem prefix_of_encode {mark text : List Char} (ascii : ∀ c ∈ mark, c.toNat < 0x80)
    (front : encode mark <+: encode text) : mark <+: text := by
  induction mark generalizing text with
  | nil => exact List.nil_prefix
  | cons m mark ih =>
    have small := ascii m (List.mem_cons_self ..)
    rw [encode_cons, encodeChar_ascii small, List.singleton_append] at front
    cases text with
    | nil => simp at front
    | cons c text =>
      obtain ⟨byte, tail, bytes⟩ := List.exists_cons_of_ne_nil (encodeChar_ne_nil c)
      have first : m.toNat.toUInt8 = byte := by
        rw [encode_cons, bytes, List.cons_append, List.cons_prefix_cons] at front
        exact front.1
      obtain rfl := encodeChar_of_mem small (by rw [bytes, first]; exact List.mem_cons_self ..)
      rw [encode_cons, encodeChar_ascii small, List.singleton_append, List.cons_prefix_cons] at front
      rw [List.cons_prefix_cons]
      exact ⟨rfl, ih (fun other member => ascii other (List.mem_cons_of_mem _ member)) front.2⟩

/-- ASCII text inside encoded text is inside the text. -/
theorem infix_of_encode {mark text : List Char} (ascii : ∀ c ∈ mark, c.toNat < 0x80)
    (inside : encode mark <:+: encode text) : mark <:+: text := by
  cases mark with
  | nil => exact List.nil_infix
  | cons m mark =>
    have small := ascii m (List.mem_cons_self ..)
    obtain ⟨before, after, split⟩ := inside
    induction text generalizing before with
    | nil => simp [encodeChar_ascii small] at split
    | cons c text ih =>
      rw [encode_cons c text, List.append_assoc] at split
      rcases List.append_eq_append_iff.mp split with ⟨more, here, later⟩ | ⟨more, here, later⟩
      · cases more with
        | nil => exact List.infix_cons (ih [] (by simpa using later))
        | cons byte more =>
          -- The mark begins inside this character, which is then the first of the mark.
          have begins : m.toNat.toUInt8 = byte := by
            rw [encode_cons, encodeChar_ascii small] at later
            exact (List.cons.inj later).1
          obtain rfl := encodeChar_of_mem small (by rw [here, begins]; simp)
          rw [encodeChar_ascii small] at here
          obtain rfl : before = [] := by
            cases before with
            | nil => rfl
            | cons first before => simp at here
          rw [List.nil_append, ← encode_cons] at split
          exact (prefix_of_encode ascii ⟨after, split⟩).isInfix
      · exact List.infix_cons (ih more (by rw [later, List.append_assoc]))

end Ascii

end Offload.Text.Utf8
