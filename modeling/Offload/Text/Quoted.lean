import Offload.Text.Unprintable

/-! # Text between double quotes

How a message shows a text whose extent the reader must see: between double quotes, with quotes and
backslashes escaped, and every character that does not show written as an escape.
-/

namespace Offload.Text.Quoted

/-- One character as it stands between double quotes. -/
def escape (c : Char) : List Char :=
  match c with
  | '"' => ['\\', '"']
  | '\\' => ['\\', '\\']
  | '\n' => ['\\', 'n']
  | '\r' => ['\\', 'r']
  | '\t' => ['\\', 't']
  | '\x00' => ['\\', '0']
  | _ =>
    if isUnprintable c then "\\u\x7b".toList ++ Nat.toDigits 16 c.toNat ++ ['\x7d'] else [c]

/-- A text between double quotes. -/
def quote (text : String) : String :=
  String.ofList ('"' :: text.toList.flatMap escape ++ ['"'])

example : quote "it's \"q\"\n" = "\"it's \\\"q\\\"\\n\"" := by decide +kernel

end Offload.Text.Quoted
