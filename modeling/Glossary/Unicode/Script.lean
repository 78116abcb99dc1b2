import Glossary.Unicode.Runs
import Glossary.Unicode.Script.Table

/-!
# Scripts

Which script a character is of, and which scripts use it. Most characters are used by the script
they are of and by no other; the table of shared characters lists where that is not so.

## Main results

* `usesScript_of_lookup_eq_none` — a script that shares nothing uses its own characters.
-/

namespace Glossary.Unicode

/-- The scripts of all characters, each by its code of four letters. -/
def scriptTable : Runs := .ofText 4 scriptRuns

/-- The code of the script that a character is of. -/
def scriptCode (c : Char) : String := scriptTable.label c

/-- Whether a script uses a character. -/
def usesScript (code : String) (c : Char) : Bool :=
  (scriptCode c == code) != (sharedCharacters.lookup code).any (·.contains c)

theorem usesScript_of_lookup_eq_none {code : String} (h : sharedCharacters.lookup code = none)
    (c : Char) : usesScript code c = (scriptCode c == code) := by
  simp [usesScript, h]

end Glossary.Unicode
