/-! # UTF-8

Encoding and decoding of characters, with the exact place and extent of a fault. A faulty sequence
extends over the bytes that could still have begun a character: the sequence is *invalid* when
another byte refutes it, and *cut short* when the text ends inside it. `decode` stops at the first
fault; `decodeLossy` puts U+FFFD in place of each and goes on with the byte that refuted it.
-/

namespace Offload.Text.Utf8

/-- The bytes of one character. -/
def encodeChar (c : Char) : List UInt8 :=
  let code := c.toNat
  if code < 0x80 then [code.toUInt8]
  else if code < 0x800 then [(0xC0 + code / 64).toUInt8, (0x80 + code % 64).toUInt8]
  else if code < 0x10000 then
    [(0xE0 + code / 4096).toUInt8, (0x80 + code / 64 % 64).toUInt8, (0x80 + code % 64).toUInt8]
  else
    [(0xF0 + code / 262144).toUInt8, (0x80 + code / 4096 % 64).toUInt8,
      (0x80 + code / 64 % 64).toUInt8, (0x80 + code % 64).toUInt8]

/-- The bytes of a text. -/
def encode (text : List Char) : List UInt8 :=
  text.flatMap encodeChar

@[simp] theorem encode_nil : encode [] = [] := rfl

@[simp] theorem encode_cons (c : Char) (rest : List Char) :
    encode (c :: rest) = encodeChar c ++ encode rest := rfl

@[simp] theorem encode_append (front back : List Char) :
    encode (front ++ back) = encode front ++ encode back :=
  List.flatMap_append

/-- A character whose bytes have been read in part. -/
structure Pending where
  /-- Continuation bytes still owed. -/
  owed : Nat
  /-- The least value of the next of them. -/
  low : Nat := 0x80
  /-- The greatest value of the next of them. -/
  high : Nat := 0xBF
  /-- The bits of the code point read so far. -/
  code : Nat
  /-- Bytes read so far. -/
  seen : Nat := 1
deriving DecidableEq, Repr

/-- What one byte does: it ends a character, leaves it unfinished, or cannot stand where it is. -/
inductive Step where
  | char (c : Char)
  | more (pending : Pending)
  | refused
deriving DecidableEq, Repr

/-- A byte at the start of a character. The bounds on the second byte exclude overlong forms,
surrogates and code points past U+10FFFF. -/
def start (byte : UInt8) : Step :=
  let b := byte.toNat
  if b < 0x80 then .char (Char.ofNat b)
  else if b < 0xC2 then .refused
  else if b < 0xE0 then .more ⟨1, 0x80, 0xBF, b - 0xC0, 1⟩
  else if b = 0xE0 then .more ⟨2, 0xA0, 0xBF, 0, 1⟩
  else if b = 0xED then .more ⟨2, 0x80, 0x9F, 13, 1⟩
  else if b < 0xF0 then .more ⟨2, 0x80, 0xBF, b - 0xE0, 1⟩
  else if b = 0xF0 then .more ⟨3, 0x90, 0xBF, 0, 1⟩
  else if b < 0xF4 then .more ⟨3, 0x80, 0xBF, b - 0xF0, 1⟩
  else if b = 0xF4 then .more ⟨3, 0x80, 0x8F, 4, 1⟩
  else .refused

/-- A byte inside a character. -/
def Pending.step (pending : Pending) (byte : UInt8) : Step :=
  let b := byte.toNat
  if pending.low ≤ b ∧ b ≤ pending.high then
    let code := pending.code * 64 + (b - 0x80)
    if pending.owed ≤ 1 then .char (Char.ofNat code)
    else .more ⟨pending.owed - 1, 0x80, 0xBF, code, pending.seen + 1⟩
  else .refused

/-- Where text stops being UTF-8. -/
inductive Fault where
  /-- A sequence of `length` bytes at `offset` that the next byte refutes. -/
  | invalid (length offset : Nat)
  /-- The text ends inside the sequence at `offset`. -/
  | cutShort (offset : Nat)
deriving DecidableEq, Repr

/-- The fault in words. -/
def Fault.message : Fault → String
  | .invalid length offset => s!"invalid utf-8 sequence of {length} bytes from index {offset}"
  | .cutShort offset => s!"incomplete utf-8 byte sequence from index {offset}"

/-- Decode from `offset`, where `pending` began if a character is unfinished. -/
def decodeFrom (offset : Nat) : Option Pending → List UInt8 → Except Fault (List Char)
  | none, [] => .ok []
  | some _, [] => .error (.cutShort offset)
  | none, byte :: rest =>
    match start byte with
    | .char c => (decodeFrom (offset + 1) none rest).map (c :: ·)
    | .more pending => decodeFrom offset (some pending) rest
    | .refused => .error (.invalid 1 offset)
  | some pending, byte :: rest =>
    match pending.step byte with
    | .char c => (decodeFrom (offset + pending.seen + 1) none rest).map (c :: ·)
    | .more next => decodeFrom offset (some next) rest
    | .refused => .error (.invalid pending.seen offset)

/-- The text of a byte sequence, or its first fault. -/
def decode (bytes : List UInt8) : Except Fault (List Char) :=
  decodeFrom 0 none bytes

/-- The character that stands for a faulty sequence. -/
def replacement : Char := '\uFFFD'

/-- Decode with every faulty sequence replaced. -/
def decodeLossyFrom : Option Pending → List UInt8 → List Char
  | none, [] => []
  | some _, [] => [replacement]
  | none, byte :: rest =>
    match start byte with
    | .char c => c :: decodeLossyFrom none rest
    | .more pending => decodeLossyFrom (some pending) rest
    | .refused => replacement :: decodeLossyFrom none rest
  | some pending, byte :: rest =>
    match pending.step byte with
    | .char c => c :: decodeLossyFrom none rest
    | .more next => decodeLossyFrom (some next) rest
    | .refused =>
      match start byte with
      | .char c => replacement :: c :: decodeLossyFrom none rest
      | .more next => replacement :: decodeLossyFrom (some next) rest
      | .refused => replacement :: replacement :: decodeLossyFrom none rest

/-- The text of a byte sequence, with U+FFFD for each faulty sequence. -/
def decodeLossy (bytes : List UInt8) : List Char :=
  decodeLossyFrom none bytes

/-- Two readings of a text agree wherever there is no fault. -/
theorem decodeLossyFrom_eq_of_decodeFrom {offset : Nat} {pending : Option Pending}
    {bytes : List UInt8} {text : List Char} (decoded : decodeFrom offset pending bytes = .ok text) :
    decodeLossyFrom pending bytes = text := by
  induction bytes generalizing offset pending text with
  | nil => cases pending <;> simp_all [decodeFrom, decodeLossyFrom]
  | cons byte rest ih =>
    cases pending with
    | none =>
      unfold decodeFrom at decoded
      unfold decodeLossyFrom
      cases first : start byte with
      | char c =>
        simp only [first] at decoded
        cases later : decodeFrom (offset + 1) none rest with
        | error fault => simp [later, Except.map] at decoded
        | ok tail =>
          simp only [later, Except.map, Except.ok.injEq] at decoded
          simp only [ih later, ← decoded]
      | more next =>
        simp only [first] at decoded
        exact ih decoded
      | refused => simp [first] at decoded
    | some begun =>
      unfold decodeFrom at decoded
      unfold decodeLossyFrom
      cases first : begun.step byte with
      | char c =>
        simp only [first] at decoded
        cases later : decodeFrom (offset + begun.seen + 1) none rest with
        | error fault => simp [later, Except.map] at decoded
        | ok tail =>
          simp only [later, Except.map, Except.ok.injEq] at decoded
          simp only [ih later, ← decoded]
      | more next =>
        simp only [first] at decoded
        exact ih decoded
      | refused => simp [first] at decoded

end Offload.Text.Utf8
