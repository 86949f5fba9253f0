/-! # Bytes as hexadecimal items

The body of a byte array initializer: each byte is `0x`, two lowercase digits and a comma, so the
text has exactly five characters for every byte.
-/

namespace Offload.Container.Hex

/-- The item of one byte. -/
def item (byte : UInt8) : List Char :=
  ['0', 'x', Nat.digitChar (byte.toNat / 16), Nat.digitChar (byte.toNat % 16), ',']

/-- The items of a byte sequence, in order. -/
def items (bytes : List UInt8) : List Char :=
  bytes.flatMap item

theorem length_items (bytes : List UInt8) : (items bytes).length = 5 * bytes.length := by
  induction bytes with
  | nil => rfl
  | cons byte rest ih =>
    simp only [items, List.flatMap_cons, List.length_append, item, List.length_cons,
      List.length_nil] at ih ⊢
    omega

end Offload.Container.Hex
