import Offload.Text.Decimal

/-! # What decimal text denotes

`Denotes` is the grammar of written integers: an optional sign and one or more ASCII digits.
`int64?_eq_some_iff` says that reading finds exactly the integers of 64 bits that a text denotes, so
the early refusal of long digit runs is invisible; `int64?_ofInt64` says that a written integer is
read back.
-/

namespace Offload.Text.Decimal

/-- One or more ASCII digits. -/
def IsDigits (digits : List Char) : Prop :=
  digits ≠ [] ∧ ∀ c ∈ digits, c.isDigit = true

/-- The integer that a text denotes: digits, alone or behind one sign. -/
inductive Denotes : List Char → Int → Prop where
  | plain {digits : List Char} (run : IsDigits digits) :
    Denotes digits (Nat.ofDigitChars 10 digits 0)
  | plus {digits : List Char} (run : IsDigits digits) :
    Denotes ('+' :: digits) (Nat.ofDigitChars 10 digits 0)
  | minus {digits : List Char} (run : IsDigits digits) :
    Denotes ('-' :: digits) (-(Nat.ofDigitChars 10 digits 0 : Int))

/-- Whether a text denotes a signed integer of 64 bits. -/
def IsInt64 (text : List Char) : Prop :=
  ∃ n : Int64, Denotes text n.toInt

section Digits

theorem natural?_eq_some_iff {digits : List Char} {n : Nat} :
    natural? digits = some n ↔ IsDigits digits ∧ Nat.ofDigitChars 10 digits 0 = n := by
  have value : digits.foldl (fun total c => total * 10 + (c.toNat - '0'.toNat)) 0 =
      Nat.ofDigitChars 10 digits 0 := by
    simp only [Nat.ofDigitChars_eq_foldl, Nat.mul_comm]
  unfold natural? IsDigits
  rw [value]
  cases digits with
  | nil => simp
  | cons c rest => by_cases all : (c :: rest).all Char.isDigit = true <;> simp_all

private theorem sign_notMem {sign : Char} {digits : List Char} (run : IsDigits digits)
    (noDigit : sign.isDigit = false) : sign ∉ digits := by
  intro member
  have digit := run.2 sign member
  rw [noDigit] at digit
  exact Bool.false_ne_true digit

/-- Without a sign in front, all of a text has to be digits. -/
private theorem integer?_plain {digits : List Char} (minus : digits.head? ≠ some '-')
    (plus : digits.head? ≠ some '+') : integer? digits = (natural? digits).map Int.ofNat := by
  unfold integer?
  split
  · simp at minus
  · simp at plus
  · rfl

private theorem integer?_minus (digits : List Char) :
    integer? ('-' :: digits) = (natural? digits).map fun n : Nat => -(n : Int) := by
  simp only [integer?]
  cases natural? digits <;> rfl

theorem integer?_eq_some_iff {text : List Char} {n : Int} :
    integer? text = some n ↔ Denotes text n := by
  constructor
  · intro read
    by_cases minus : text.head? = some '-'
    · obtain ⟨digits, rfl⟩ := List.head?_eq_some_iff.mp minus
      rw [integer?_minus] at read
      obtain ⟨value, found, rfl⟩ := Option.map_eq_some_iff.mp read
      obtain ⟨run, rfl⟩ := natural?_eq_some_iff.mp found
      exact .minus run
    · by_cases plus : text.head? = some '+'
      · obtain ⟨digits, rfl⟩ := List.head?_eq_some_iff.mp plus
        obtain ⟨value, found, rfl⟩ := Option.map_eq_some_iff.mp read
        obtain ⟨run, rfl⟩ := natural?_eq_some_iff.mp found
        exact .plus run
      · rw [integer?_plain minus plus] at read
        obtain ⟨value, found, rfl⟩ := Option.map_eq_some_iff.mp read
        obtain ⟨run, rfl⟩ := natural?_eq_some_iff.mp found
        exact .plain run
  · intro denotes
    cases denotes with
    | plain run =>
      have unsigned {sign : Char} (noDigit : sign.isDigit = false) : text.head? ≠ some sign :=
        fun first => sign_notMem run noDigit (List.mem_of_head? first)
      rw [integer?_plain (unsigned rfl) (unsigned rfl), natural?_eq_some_iff.mpr ⟨run, rfl⟩]
      rfl
    | plus run => simp only [integer?, natural?_eq_some_iff.mpr ⟨run, rfl⟩, Option.map_some]; rfl
    | minus run => rw [integer?_minus, natural?_eq_some_iff.mpr ⟨run, rfl⟩, Option.map_some]

/-- No text denotes two integers. -/
theorem Denotes.unique {text : List Char} {m n : Int} (first : Denotes text m)
    (second : Denotes text n) : m = n :=
  Option.some.inj ((integer?_eq_some_iff.mpr first).symm.trans (integer?_eq_some_iff.mpr second))

/-- Zeros in front add nothing to the value. -/
theorem ofDigitChars_dropWhile_zero (digits : List Char) :
    Nat.ofDigitChars 10 (digits.dropWhile (· == '0')) 0 = Nat.ofDigitChars 10 digits 0 := by
  induction digits with
  | nil => rfl
  | cons c rest ih =>
    by_cases zero : c = '0'
    · subst zero
      simp only [List.dropWhile_cons, beq_self_eq_true, if_true, ih, Nat.ofDigitChars_cons]
      rfl
    · simp [zero]

/-- Digits that do not begin with a zero denote at least the power of ten of their number. -/
theorem pow_le_ofDigitChars {c : Char} {rest : List Char} (digit : c.isDigit = true)
    (nonzero : c ≠ '0') : Nat.pow 10 rest.length ≤ Nat.ofDigitChars 10 (c :: rest) 0 := by
  have first : 1 ≤ c.toNat - '0'.toNat := by
    have differs : c.toNat ≠ '0'.toNat := fun same => nonzero (Char.toNat_inj.mp same)
    have low : '0'.toNat ≤ c.toNat := by
      simp only [Char.isDigit, Bool.and_eq_true, decide_eq_true_eq] at digit
      exact digit.1
    omega
  rw [Nat.ofDigitChars_cons, Nat.ofDigitChars_eq_ofDigitChars_zero, Nat.mul_zero, Nat.zero_add]
  calc Nat.pow 10 rest.length
      = Nat.pow 10 rest.length * 1 := (Nat.mul_one _).symm
    _ ≤ Nat.pow 10 rest.length * (c.toNat - '0'.toNat) := Nat.mul_le_mul_left _ first
    _ ≤ _ := Nat.le_add_right _ _

/-- A number below a power of ten has no more significant digits than the exponent. -/
theorem length_dropWhile_zero_le {digits : List Char} (run : IsDigits digits) {width : Nat}
    (bound : Nat.ofDigitChars 10 digits 0 < Nat.pow 10 width) :
    (digits.dropWhile (· == '0')).length ≤ width := by
  rw [← ofDigitChars_dropWhile_zero] at bound
  cases kept : digits.dropWhile (· == '0') with
  | nil => exact Nat.zero_le _
  | cons c rest =>
    rw [kept] at bound
    have digit : c.isDigit = true := by
      have member : c ∈ digits.dropWhile (· == '0') := by rw [kept]; exact List.mem_cons_self ..
      exact run.2 c ((List.dropWhile_sublist _).mem member)
    have nonzero : c ≠ '0' := by
      have head := List.head?_dropWhile_not (· == '0') digits
      rw [kept] at head
      simpa using head
    have smaller := Nat.lt_of_le_of_lt (pow_le_ofDigitChars digit nonzero) bound
    exact (Nat.pow_lt_pow_iff_right (by decide)).mp smaller

end Digits

section Int64

private theorem abs_lt_of_int64 (n : Int64) : n.toInt.natAbs < Nat.pow 10 int64Width := by
  have low := n.minValue_le_toInt
  have high := n.toInt_le
  have bound : Nat.pow 10 int64Width = 10000000000000000000 := rfl
  have least : Int64.minValue.toInt = -9223372036854775808 := rfl
  have greatest : Int64.maxValue.toInt = 9223372036854775807 := rfl
  omega

/-- Without a sign in front, every digit but the zeros in front counts. -/
private theorem significant_plain {digits : List Char} (minus : digits.head? ≠ some '-')
    (plus : digits.head? ≠ some '+') : significant digits = digits.dropWhile (· == '0') := by
  unfold significant
  split
  · simp at minus
  · simp at plus
  · rfl

/-- No text of an integer of 64 bits is refused for its length. -/
theorem length_significant_le {text : List Char} {n : Int64} (denotes : Denotes text n.toInt) :
    (significant text).length ≤ int64Width := by
  have bound := abs_lt_of_int64 n
  generalize n.toInt = value at denotes bound
  cases denotes with
  | plain run =>
    have unsigned {sign : Char} (noDigit : sign.isDigit = false) : text.head? ≠ some sign :=
      fun first => sign_notMem run noDigit (List.mem_of_head? first)
    rw [significant_plain (unsigned rfl) (unsigned rfl)]
    exact length_dropWhile_zero_le run (by simpa using bound)
  | plus run => exact length_dropWhile_zero_le run (by simpa using bound)
  | minus run => exact length_dropWhile_zero_le run (by simpa using bound)

/-- Reading finds exactly the integers of 64 bits that a text denotes. -/
theorem int64?_eq_some_iff {text : List Char} {n : Int64} :
    int64? text = some n ↔ Denotes text n.toInt := by
  constructor
  · intro read
    unfold int64? at read
    split at read
    · contradiction
    · obtain ⟨value, found, inRange⟩ := Option.bind_eq_some_iff.mp read
      split at inRange
      · rename_i bounds
        obtain rfl := Option.some.inj inRange
        rw [Int64.toInt_ofInt_of_le bounds.1 (by have := bounds.2; change value ≤ 2 ^ 63 - 1 at this; omega)]
        exact integer?_eq_some_iff.mp found
      · contradiction
  · intro denotes
    unfold int64?
    rw [if_neg (Nat.not_lt.mpr (length_significant_le denotes)),
      integer?_eq_some_iff.mpr denotes, Option.bind_some,
      if_pos ⟨n.minValue_le_toInt, n.toInt_le⟩, Int64.ofInt_toInt]

theorem int64?_eq_none_iff {text : List Char} : int64? text = none ↔ ¬ IsInt64 text := by
  rw [Option.eq_none_iff_forall_ne_some]
  simp only [ne_eq, int64?_eq_some_iff, IsInt64, not_exists]

instance : DecidablePred IsInt64 := fun text =>
  decidable_of_iff (¬ int64? text = none) ((not_congr int64?_eq_none_iff).trans Classical.not_not)

theorem isDigits_repr (n : Nat) : IsDigits n.repr.toList := by
  rw [Nat.toList_repr]
  exact ⟨Nat.toDigits_ne_nil, fun c member =>
    Nat.isDigit_of_mem_toDigits (by decide) (by decide) member⟩

theorem ofDigitChars_repr (n : Nat) : Nat.ofDigitChars 10 n.repr.toList 0 = n := by
  rw [Nat.toList_repr, Nat.ofDigitChars_ten_toDigits]

/-- A written natural number is read back. -/
theorem natural?_repr (n : Nat) : natural? n.repr.toList = some n :=
  natural?_eq_some_iff.mpr ⟨isDigits_repr n, ofDigitChars_repr n⟩

theorem denotes_repr (n : Nat) : Denotes n.repr.toList n := by
  have run := Denotes.plain (isDigits_repr n)
  rwa [ofDigitChars_repr] at run

/-- A written natural number denotes an integer of 64 bits if it leaves the sign bit free. -/
theorem isInt64_repr_iff (n : Nat) : IsInt64 n.repr.toList ↔ n < Nat.pow 2 63 := by
  constructor
  · rintro ⟨i, denotes⟩
    have same := denotes.unique (denotes_repr n)
    have bound := i.toInt_lt
    rw [same] at bound
    exact_mod_cast bound
  · intro small
    refine ⟨Int64.ofNat n, ?_⟩
    rw [Int64.toInt_ofNat_of_lt small]
    exact denotes_repr n

/-- A written integer denotes itself. -/
theorem denotes_ofInt64 (n : Int64) : Denotes (ofInt64 n) n.toInt := by
  unfold ofInt64
  rw [Int.toString_eq_repr, Int.repr_eq_if]
  split
  · rename_i nonneg
    have run := denotes_repr n.toInt.toNat
    rwa [Int.toNat_of_nonneg nonneg] at run
  · rename_i negative
    have run := Denotes.minus (isDigits_repr (-n.toInt).toNat)
    rw [ofDigitChars_repr, Int.toNat_of_nonneg (by omega), Int.neg_neg] at run
    simpa using run

@[simp] theorem int64?_ofInt64 (n : Int64) : int64? (ofInt64 n) = some n :=
  int64?_eq_some_iff.mpr (denotes_ofInt64 n)

/-- An integer is text of digits and at most a minus sign. -/
theorem mem_ofInt64 {n : Int64} {c : Char} (member : c ∈ ofInt64 n) :
    c = '-' ∨ c.isDigit = true := by
  unfold ofInt64 at member
  rw [Int.toString_eq_repr, Int.repr_eq_if] at member
  split at member
  · exact .inr ((isDigits_repr _).2 c member)
  · rw [String.toList_append, List.mem_append] at member
    exact member.imp (by simp) ((isDigits_repr _).2 c)

end Int64

end Offload.Text.Decimal
