import Offload.Text.Blank

/-! # Words of a displayed command

A command is displayed as words with one space between each two. A word that is empty or that holds
a blank or a quotation mark is written between single quotes; a single quote inside it then ends the
quotes, stands behind a backslash, and begins them again. Every other word is written as it is.
-/

namespace Offload.Text.ShellWord

/-- Whether a character cannot be written in a word without quotes. -/
def needsQuotes (c : Char) : Bool :=
  isBlank c || c == '\'' || c == '"'

/-- A character between single quotes. -/
def escape (c : Char) : List Char :=
  if c = '\'' then ['\'', '\\', '\'', '\''] else [c]

/-- A word as it is displayed. -/
def quote (word : List Char) : List Char :=
  if word.isEmpty || word.any needsQuotes then '\'' :: word.flatMap escape ++ ['\'']
  else word

/-- Words as they are displayed. -/
def display (words : List (List Char)) : List Char :=
  joinFields ' ' (words.map quote)

/-- No word is displayed as nothing. -/
theorem quote_ne_nil (word : List Char) : quote word ≠ [] := by
  unfold quote
  split
  · simp
  · rename_i plain
    intro nothing
    simp [nothing] at plain

end Offload.Text.ShellWord
