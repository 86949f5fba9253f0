import Offload.Command
import Mathlib.Data.List.Basic

/-! # Telling displayed commands apart, and reading them in a shell

Every word of a displayed command ends where a space or nothing follows, so what was written can be
told from it: `display_inj` says that commands are displayed alike only if they are the same.

A shell reads it by rules of its own (`read`). Outside quotes a backslash is a mark to it, and other
characters are operators or begin expansions, while words are displayed in quotes only for their
blanks and quotation marks. `read_display_iff` says which displayed commands a shell reads back: those
whose every word either holds none of these characters or stands in quotes for another reason.
-/

namespace Offload.Text.ShellWord

section Telling

/-- What may stand behind a word: nothing, or the space before the next one. -/
def Follows (rest : List Char) : Prop :=
  ∀ c ∈ rest.head?, c = ' '

/-- A word that is displayed as it is. -/
def Bare (word : List Char) : Prop :=
  word ≠ [] ∧ ∀ c ∈ word, needsQuotes c = false

variable {word other rest rest' : List Char} {words others : List (List Char)}

/-- The words behind the first one, as they are displayed. -/
def following (words : List (List Char)) : List Char :=
  words.flatMap fun word => ' ' :: quote word

theorem display_cons (word : List Char) (words : List (List Char)) :
    display (word :: words) = quote word ++ following words := by
  induction words generalizing word with
  | nil => exact (List.append_nil _).symm
  | cons next words ih =>
    change quote word ++ ' ' :: display (next :: words) = _
    rw [ih next]
    rfl

theorem follows_following (words : List (List Char)) : Follows (following words) := by
  cases words with
  | nil => simp [Follows, following]
  | cons word words => simp [Follows, following]

theorem quote_of_bare (bare : Bare word) : quote word = word := by
  obtain ⟨filled, plain⟩ := bare
  have noneNeeds : word.any needsQuotes = false := by simpa using plain
  simp [quote, filled, noneNeeds]

theorem quote_of_not_bare (quoted : ¬ Bare word) :
    quote word = '\'' :: (word.flatMap escape ++ ['\'']) := by
  unfold quote
  rw [if_pos]
  · rfl
  · by_contra plain
    apply quoted
    simpa [Bare] using plain

/-- A character is written as itself, a quotation mark with more behind it. -/
theorem escape_eq (c : Char) :
    escape c = c :: if c = '\'' then ['\\', '\'', '\''] else [] := by
  unfold escape
  split
  · rename_i mark
    rw [mark]
  · rfl

theorem escape_append_inj {c d : Char} (same : escape c ++ rest = escape d ++ rest') :
    c = d ∧ rest = rest' := by
  have first := same
  rw [escape_eq, escape_eq d] at first
  obtain rfl := (List.cons.inj first).1
  exact ⟨rfl, List.append_cancel_left same⟩

/-- A closing mark does not begin a character, for a backslash would follow. -/
theorem closing_ne_escape (follows : Follows rest) (c : Char) (more : List Char) :
    '\'' :: rest ≠ escape c ++ more := by
  intro same
  rw [escape_eq] at same
  obtain ⟨rfl, later⟩ := List.cons.inj same
  rw [if_pos rfl] at later
  subst later
  exact absurd (follows '\\' rfl) (by decide)

/-- A quoted word ends at its closing mark. -/
theorem escaped_append_inj (follows : Follows rest) (follows' : Follows rest')
    (same : word.flatMap escape ++ '\'' :: rest = other.flatMap escape ++ '\'' :: rest') :
    word = other ∧ rest = rest' := by
  induction word generalizing other with
  | nil =>
    cases other with
    | nil => exact ⟨rfl, (List.cons.inj same).2⟩
    | cons d other =>
      rw [List.flatMap_cons, List.append_assoc] at same
      exact absurd same (closing_ne_escape follows d _)
  | cons c word ih =>
    rw [List.flatMap_cons, List.append_assoc] at same
    cases other with
    | nil => exact absurd same.symm (closing_ne_escape follows' c _)
    | cons d other =>
      rw [List.flatMap_cons, List.append_assoc] at same
      obtain ⟨rfl, later⟩ := escape_append_inj same
      obtain ⟨rfl, sameRest⟩ := ih later
      exact ⟨rfl, sameRest⟩

/-- A bare word ends at the first character that could not stand in it. -/
theorem bare_append_inj (plain : ∀ c ∈ word, needsQuotes c = false)
    (plain' : ∀ c ∈ other, needsQuotes c = false) (follows : Follows rest) (follows' : Follows rest')
    (same : word ++ rest = other ++ rest') : word = other ∧ rest = rest' := by
  have ends {part back : List Char} (plain : ∀ c ∈ part, needsQuotes c = false)
      (follows : Follows back) : (part ++ back).dropWhile (!needsQuotes ·) = back := by
    apply dropWhile_append_of_forall
    · exact fun c member => by rw [plain c member]; rfl
    · exact fun c first => by rw [follows c first]; decide
  have sameRest : rest = rest' := by rw [← ends plain follows, same, ends plain' follows']
  subst sameRest
  exact ⟨List.append_cancel_right same, rfl⟩

/-- No bare word begins as a quoted one does. -/
theorem bare_append_ne (bare : Bare word) (more : List Char) : word ++ rest ≠ '\'' :: more := by
  obtain ⟨filled, plain⟩ := bare
  intro same
  cases word with
  | nil => exact filled rfl
  | cons c word =>
    obtain ⟨rfl, -⟩ := List.cons.inj same
    exact absurd (plain '\'' (List.mem_cons_self ..)) (by decide)

/-- A displayed word and what follows it are told from the text. -/
theorem quote_append_inj (follows : Follows rest) (follows' : Follows rest')
    (same : quote word ++ rest = quote other ++ rest') : word = other ∧ rest = rest' := by
  by_cases bare : Bare word
  · rw [quote_of_bare bare] at same
    by_cases bare' : Bare other
    · rw [quote_of_bare bare'] at same
      exact bare_append_inj bare.2 bare'.2 follows follows' same
    · rw [quote_of_not_bare bare'] at same
      exact absurd same (bare_append_ne bare _)
  · rw [quote_of_not_bare bare] at same
    by_cases bare' : Bare other
    · rw [quote_of_bare bare'] at same
      exact absurd same.symm (bare_append_ne bare' _)
    · rw [quote_of_not_bare bare'] at same
      apply escaped_append_inj follows follows'
      simpa using same

theorem following_inj (same : following words = following others) : words = others := by
  induction words generalizing others with
  | nil =>
    cases others with
    | nil => rfl
    | cons other others => contradiction
  | cons word words ih =>
    cases others with
    | nil => contradiction
    | cons other others =>
      have behindSpace : quote word ++ following words = quote other ++ following others :=
        (List.cons.inj same).2
      obtain ⟨rfl, later⟩ :=
        quote_append_inj (follows_following words) (follows_following others) behindSpace
      rw [ih later]

/-- Words are displayed alike only if they are the same. -/
theorem words_eq_of_display (same : display words = display others) : words = others := by
  cases words with
  | nil =>
    cases others with
    | nil => rfl
    | cons other others =>
      rw [display_cons] at same
      exact absurd (List.append_eq_nil_iff.mp same.symm).1 (quote_ne_nil other)
  | cons word words =>
    rw [display_cons] at same
    cases others with
    | nil => exact absurd (List.append_eq_nil_iff.mp same).1 (quote_ne_nil word)
    | cons other others =>
      rw [display_cons] at same
      obtain ⟨rfl, behind⟩ :=
        quote_append_inj (follows_following words) (follows_following others) same
      rw [following_inj behind]

end Telling

section Reading

/-- Where in a text a shell is. -/
inductive Context where
  /-- Between two words. -/
  | between
  /-- In a word, outside quotes. -/
  | word
  /-- Behind a backslash outside quotes. -/
  | escaped
  | single
  | double
  /-- Behind a backslash in double quotes. -/
  | doubleEscaped

/-- A character in front of the first word. -/
def push (c : Char) (words : List (List Char)) : List (List Char) :=
  (c :: words.headD []) :: words.tail

/-- An empty word in front of others. -/
def close (words : List (List Char)) : List (List Char) :=
  [] :: words

/-- Whether a character separates words. -/
def isSeparator (c : Char) : Bool :=
  c == ' ' || c == '\t'

/-- What keeps its meaning in double quotes: expansions begin with these. -/
def isExpansion (c : Char) : Bool :=
  c == '$' || c == '\x60'

/-- The step at a character outside quotes that separates no words. A line feed would end the
command. -/
def stepUnquoted (active : Char → Bool) (c : Char) :
    Option (Context × (List (List Char) → List (List Char))) :=
  if c = '\'' then some (.single, id)
  else if c = '"' then some (.double, id)
  else if c = '\\' then some (.escaped, id)
  else if c = '\n' ∨ active c then none
  else some (.word, push c)

/-- One step of a shell over a command on one line: the place behind a character, and what the
character adds to the words that are read from there. The `active` characters are those that mean
something else to the shell, such as operators; where quotes do not prevent that, nothing is read. -/
def step (active : Char → Bool) :
    Context → Char → Option (Context × (List (List Char) → List (List Char)))
  | .between, c => if isSeparator c then some (.between, id) else stepUnquoted active c
  | .word, c => if isSeparator c then some (.between, close) else stepUnquoted active c
  | .escaped, c => if c = '\n' then none else some (.word, push c)
  | .single, c => if c = '\'' then some (.word, id) else some (.single, push c)
  | .double, c =>
    if c = '"' then some (.word, id)
    else if c = '\\' then some (.doubleEscaped, id)
    else if active c && isExpansion c then none
    else some (.double, push c)
  | .doubleEscaped, c =>
    if c = '\n' then some (.double, id)
    else if isExpansion c || c == '"' || c == '\\' then some (.double, push c)
    else some (.double, push '\\' ∘ push c)

/-- What was read at the end of the text: a command ends between words or behind one. -/
def finish : Context → Option (List (List Char))
  | .between => some []
  | .word => some [[]]
  | .escaped | .single | .double | .doubleEscaped => none

/-- The words that a shell reads from a place on. -/
def readFrom (active : Char → Bool) : Context → List Char → Option (List (List Char))
  | context, [] => finish context
  | context, c :: rest =>
    (step active context c).bind fun (later, adds) => (readFrom active later rest).map adds

/-- The words that a shell reads in a text. -/
def read (active : Char → Bool) (text : List Char) : Option (List (List Char)) :=
  readFrom active .between text

example : read (· == ';') "g++ -DX=\"a \\$b\"'c;d' e\\ f".toList =
      some ["g++".toList, "-DX=a $bc;d".toList, "e f".toList] ∧
    read (· == ';') "g++ a;b".toList = none ∧ read (· == ';') "g++ 'a".toList = none := by
  decide

variable {active : Char → Bool} {word rest : List Char} {words others : List (List Char)}

/-- A word is guarded if it stands in quotes for a blank or a quotation mark, or holds nothing that
means something else outside of them. -/
def Guarded (active : Char → Bool) (word : List Char) : Prop :=
  (∃ c ∈ word, isBlank c = true ∨ c = '\'' ∨ c = '"') ∨ ∀ c ∈ word, c ≠ '\\' ∧ active c = false

theorem guarded_iff :
    Guarded active word ↔ (Bare word → ∀ c ∈ word, c ≠ '\\' ∧ active c = false) := by
  have quoted (c : Char) : needsQuotes c = true ↔ isBlank c = true ∨ c = '\'' ∨ c = '"' := by
    simp [needsQuotes, or_assoc]
  unfold Guarded Bare
  simp only [← quoted]
  constructor
  · rintro (⟨c, member, needs⟩ | literal) ⟨-, plain⟩
    · exact absurd (needs.symm.trans (plain c member)) (by decide)
    · exact literal
  · intro literal
    by_cases plain : ∀ c ∈ word, needsQuotes c = false
    · refine .inr fun c member => literal ⟨List.ne_nil_of_mem member, plain⟩ c member
    · obtain ⟨c, member, needs⟩ : ∃ c ∈ word, needsQuotes c = true := by simpa using plain
      exact .inl ⟨c, member, needs⟩

theorem readFrom_cons {context : Context} {c : Char} (later : Context)
    (adds : List (List Char) → List (List Char)) (stepped : step active context c = some (later, adds))
    (rest : List Char) :
    readFrom active context (c :: rest) = (readFrom active later rest).map adds := by
  rw [readFrom, stepped]
  rfl

section Steps

variable {c : Char}

theorem ne_of_plain {d : Char} (plain : needsQuotes c = false) (needs : needsQuotes d = true) :
    c ≠ d := by
  rintro rfl
  exact absurd (needs.symm.trans plain) (by decide)

theorem not_isSeparator_of_plain (plain : needsQuotes c = false) : isSeparator c = false := by
  have space : c ≠ ' ' := ne_of_plain plain (by decide)
  have tab : c ≠ '\t' := ne_of_plain plain (by decide)
  simp [isSeparator, space, tab]

/-- Outside quotes a word is begun as it is continued. -/
theorem readFrom_between_of_plain (plain : needsQuotes c = false) (rest : List Char) :
    readFrom active .between (c :: rest) = readFrom active .word (c :: rest) := by
  simp only [readFrom, step, not_isSeparator_of_plain plain, Bool.false_eq_true, if_false]

theorem readFrom_word_backslash (rest : List Char) :
    readFrom active .word ('\\' :: rest) = readFrom active .escaped rest := by
  rw [readFrom_cons .escaped id rfl, Option.map_id, id]

theorem readFrom_word_of_plain (plain : needsQuotes c = false) (notMark : c ≠ '\\')
    (rest : List Char) : readFrom active .word (c :: rest) =
      if active c then none else (readFrom active .word rest).map (push c) := by
  have lineFeed : c ≠ '\n' := ne_of_plain plain (by decide)
  have single : c ≠ '\'' := ne_of_plain plain (by decide)
  have double : c ≠ '"' := ne_of_plain plain (by decide)
  simp only [readFrom, step, not_isSeparator_of_plain plain, stepUnquoted, lineFeed, single, double,
    notMark, false_or, if_false]
  cases active c <;> rfl

theorem readFrom_escaped_of_plain (plain : needsQuotes c = false) (rest : List Char) :
    readFrom active .escaped (c :: rest) = (readFrom active .word rest).map (push c) := by
  have lineFeed : c ≠ '\n' := ne_of_plain plain (by decide)
  have stepped : step active .escaped c = some (.word, push c) := if_neg lineFeed
  exact readFrom_cons .word (push c) stepped rest

end Steps

/-- What follows a word ends it. -/
theorem readFrom_of_follows (follows : Follows rest) :
    readFrom active .word rest = (readFrom active .between rest).map close := by
  cases rest with
  | nil => rfl
  | cons c rest =>
    obtain rfl : c = ' ' := follows c rfl
    rw [readFrom_cons .between close rfl, readFrom_cons .between id rfl, Option.map_id, id]

/-- A text in front of the first word. -/
def prepend (text : List Char) (words : List (List Char)) : List (List Char) :=
  text.foldr push words

theorem prepend_close (word : List Char) (words : List (List Char)) :
    prepend word (close words) = word :: words := by
  induction word with
  | nil => rfl
  | cons c word ih =>
    rw [prepend, List.foldr_cons, ← prepend, ih]
    rfl

theorem readFrom_escape (c : Char) (rest : List Char) :
    readFrom active .single (escape c ++ rest) = (readFrom active .single rest).map (push c) := by
  by_cases mark : c = '\''
  · subst mark
    change readFrom active .single ('\'' :: '\\' :: '\'' :: '\'' :: rest) = _
    rw [readFrom_cons .word id rfl, readFrom_word_backslash, readFrom_cons .word (push '\'') rfl,
      readFrom_cons .single id rfl]
    simp only [Option.map_id, id]
  · rw [escape, if_neg mark]
    apply readFrom_cons
    simp [step, mark]

theorem readFrom_flatMap_escape (word rest : List Char) :
    readFrom active .single (word.flatMap escape ++ rest) =
      (readFrom active .single rest).map (prepend word) := by
  induction word with
  | nil => exact (congrFun Option.map_id _).symm
  | cons c word ih =>
    rw [List.flatMap_cons, List.append_assoc, readFrom_escape, ih, Option.map_map]
    rfl

/-- A quoted word is always read back. -/
theorem readFrom_quoted (quoted : ¬ Bare word) (follows : Follows rest) :
    readFrom active .between (quote word ++ rest) =
      (readFrom active .between rest).map (word :: ·) := by
  rw [quote_of_not_bare quoted, List.cons_append, List.append_assoc,
    readFrom_cons .single id rfl, readFrom_flatMap_escape, List.cons_append,
    readFrom_cons .word id rfl, List.nil_append, readFrom_of_follows follows]
  simp only [Option.map_map]
  apply congrArg fun adds => (readFrom active .between rest).map adds
  funext words
  exact prepend_close word words

/-- A bare word without marks is read as it stands. -/
theorem readFrom_literal (plain : ∀ c ∈ word, needsQuotes c = false)
    (literal : ∀ c ∈ word, c ≠ '\\' ∧ active c = false) (rest : List Char) :
    readFrom active .word (word ++ rest) = (readFrom active .word rest).map (prepend word) := by
  induction word with
  | nil => exact (congrFun Option.map_id _).symm
  | cons c word ih =>
    obtain ⟨plainFirst, plainRest⟩ := List.forall_mem_cons.mp plain
    obtain ⟨⟨notMark, inactive⟩, literalRest⟩ := List.forall_mem_cons.mp literal
    rw [List.cons_append, readFrom_word_of_plain plainFirst notMark, inactive, ih plainRest literalRest]
    exact Option.map_map ..

/-- A shell reads no more characters into a word than stand there, unless a backslash at its end takes
in the space behind it. -/
theorem length_le_of_readFrom (plain : ∀ c ∈ word, needsQuotes c = false) (follows : Follows rest)
    {context : Context} (inside : context = .word ∨ context = .escaped)
    (done : readFrom active context (word ++ rest) = some words) :
    ' ' ∈ words.headD [] ∨ (words.headD []).length ≤ word.length := by
  induction word generalizing context words with
  | nil =>
    rcases inside with rfl | rfl
    · rw [List.nil_append, readFrom_of_follows follows] at done
      obtain ⟨later, -, rfl⟩ := Option.map_eq_some_iff.mp done
      exact .inr (Nat.le_refl 0)
    · cases rest with
      | nil => exact (Option.some_ne_none words done.symm).elim
      | cons c rest =>
        obtain rfl : c = ' ' := follows c rfl
        rw [List.nil_append, readFrom_cons .word (push ' ') rfl] at done
        obtain ⟨later, -, rfl⟩ := Option.map_eq_some_iff.mp done
        exact .inl (List.mem_cons_self ..)
  | cons c word ih =>
    obtain ⟨plainFirst, plainRest⟩ := List.forall_mem_cons.mp plain
    have added (onward : (readFrom active .word (word ++ rest)).map (push c) = some words) :
        ' ' ∈ words.headD [] ∨ (words.headD []).length ≤ word.length + 1 := by
      obtain ⟨later, read, rfl⟩ := Option.map_eq_some_iff.mp onward
      exact (ih plainRest (.inl rfl) read).imp (List.mem_cons_of_mem c) Nat.succ_le_succ
    rw [List.cons_append] at done
    rcases inside with rfl | rfl
    · by_cases mark : c = '\\'
      · rw [mark, readFrom_word_backslash] at done
        exact (ih plainRest (.inr rfl) done).imp_right Nat.le_succ_of_le
      · rw [readFrom_word_of_plain plainFirst mark] at done
        split at done
        · contradiction
        · exact added done
    · exact added ((readFrom_escaped_of_plain plainFirst _).symm.trans done)

/-- A bare word that is read as it stands holds no marks: a backslash would be missing. -/
theorem literal_of_readFrom (plain : ∀ c ∈ word, needsQuotes c = false) (follows : Follows rest)
    (done : readFrom active .word (word ++ rest) = some words) (same : words.headD [] = word) :
    ∀ c ∈ word, c ≠ '\\' ∧ active c = false := by
  induction word generalizing words with
  | nil => simp
  | cons c word ih =>
    obtain ⟨plainFirst, plainRest⟩ := List.forall_mem_cons.mp plain
    rw [List.cons_append] at done
    by_cases mark : c = '\\'
    · rw [mark, readFrom_word_backslash] at done
      rcases length_le_of_readFrom plainRest follows (.inr rfl) done with space | short
      · rw [same] at space
        exact absurd (plain ' ' space) (by decide)
      · rw [same] at short
        exact absurd short (Nat.not_succ_le_self word.length)
    · rw [readFrom_word_of_plain plainFirst mark] at done
      split at done
      · contradiction
      · rename_i inactive
        obtain ⟨later, read, rfl⟩ := Option.map_eq_some_iff.mp done
        exact List.forall_mem_cons.mpr
          ⟨⟨mark, Bool.eq_false_iff.mpr inactive⟩, ih plainRest read (List.cons.inj same).2⟩

theorem readFrom_bare (bare : Bare word) (rest : List Char) :
    readFrom active .between (word ++ rest) = readFrom active .word (word ++ rest) := by
  obtain ⟨filled, plain⟩ := bare
  cases word with
  | nil => contradiction
  | cons c word => exact readFrom_between_of_plain (plain c (List.mem_cons_self ..)) (word ++ rest)

theorem readFrom_guarded (guarded : Guarded active word) (follows : Follows rest) :
    readFrom active .between (quote word ++ rest) =
      (readFrom active .between rest).map (word :: ·) := by
  by_cases bare : Bare word
  · have ends : prepend word ∘ close = (word :: ·) := funext (prepend_close word)
    rw [quote_of_bare bare, readFrom_bare bare,
      readFrom_literal bare.2 (guarded_iff.mp guarded bare), readFrom_of_follows follows,
      Option.map_map, ends]
  · exact readFrom_quoted bare follows

/-- A displayed word is read back exactly if it is guarded. -/
theorem readFrom_quote_iff (follows : Follows rest) :
    readFrom active .between (quote word ++ rest) = some (word :: words) ↔
      Guarded active word ∧ readFrom active .between rest = some words := by
  constructor
  · intro done
    have guarded : Guarded active word := by
      refine guarded_iff.mpr fun bare => ?_
      rw [quote_of_bare bare, readFrom_bare bare] at done
      exact literal_of_readFrom bare.2 follows done rfl
    rw [readFrom_guarded guarded follows] at done
    obtain ⟨later, read, same⟩ := Option.map_eq_some_iff.mp done
    obtain rfl := (List.cons.inj same).2
    exact ⟨guarded, read⟩
  · rintro ⟨guarded, later⟩
    rw [readFrom_guarded guarded follows, later]
    rfl

theorem readFrom_following_iff :
    readFrom active .between (following words) = some words ↔
      ∀ word ∈ words, Guarded active word := by
  induction words with
  | nil => exact iff_of_true rfl (by simp)
  | cons word words ih =>
    have behindSpace : readFrom active .between (following (word :: words)) =
        (readFrom active .between (quote word ++ following words)).map id :=
      readFrom_cons .between id rfl _
    rw [behindSpace, Option.map_id, id, readFrom_quote_iff (follows_following words), ih,
      List.forall_mem_cons]

/-- Displayed words are read back exactly if all of them are guarded. -/
theorem read_words_iff :
    read active (display words) = some words ↔ ∀ word ∈ words, Guarded active word := by
  cases words with
  | nil => exact iff_of_true rfl (by simp)
  | cons word words =>
    rw [read, display_cons, readFrom_quote_iff (follows_following words), readFrom_following_iff,
      List.forall_mem_cons]

end Reading

end Offload.Text.ShellWord

namespace Offload.Command

open Text.ShellWord (read Guarded)

variable {command other : Command} {active : Char → Bool}

/-- The words of a command: the program and its arguments. -/
def words (command : Command) : List String :=
  command.program :: command.arguments

theorem toList_display (command : Command) :
    command.display.toList = Text.ShellWord.display (command.words.map String.toList) :=
  String.toList_ofList

/-- Commands are displayed alike only if they are the same. -/
theorem display_inj : command.display = other.display ↔ command = other := by
  constructor
  · intro same
    have texts := congrArg String.toList same
    rw [toList_display, toList_display] at texts
    have sameWords : command.words = other.words :=
      List.map_injective_iff.mpr (fun _ _ => String.toList_injective)
        (Text.ShellWord.words_eq_of_display texts)
    obtain ⟨program, arguments⟩ := command
    obtain ⟨rfl, rfl⟩ := List.cons.inj sameWords
    rfl
  · exact congrArg display

/-- A shell reads a displayed command back, program and arguments, exactly if every one of its words
is guarded. This holds of the rules of quoting alone, where no character is active, and of every set
of characters that mean something else to the shell. -/
theorem read_display_iff : read active command.display.toList = some (command.words.map String.toList) ↔
    ∀ word ∈ command.words, Guarded active word.toList := by
  rw [toList_display, Text.ShellWord.read_words_iff, List.forall_mem_map]

/-- An argument with a backslash and nothing that forces quotes loses it in the shell. -/
theorem read_display_backslash :
    read (fun _ => false) (display ⟨"g++", ["a\\b"]⟩).toList = some ["g++".toList, "ab".toList] ∧
    ¬ ∀ command : Command,
      read (fun _ => false) command.display.toList = some (command.words.map String.toList) := by
  have lost : read (fun _ => false) (display ⟨"g++", ["a\\b"]⟩).toList =
      some ["g++".toList, "ab".toList] := by
    decide
  refine ⟨lost, fun always => ?_⟩
  have kept := lost.symm.trans (always ⟨"g++", ["a\\b"]⟩)
  exact absurd kept (by decide)

end Offload.Command
