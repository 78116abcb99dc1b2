import Glossary.Unicode.Casing
import Glossary.Unicode.GeneralCategory
import Glossary.Unicode.Script

/-!
# Sets of characters

Sets of characters as expressions over ranges, general categories and scripts. An expression says
how a set is made up and stays small even when the set does not.

## Main results

* `contains_not`, `contains_combine` — a set is asked by asking its parts.
* `contains_and_comm` — the order of the parts of an intersection does not matter.
-/

namespace Glossary.Unicode

/-- How two sets make a third. -/
inductive SetOperation where
  | union
  | intersection
  | difference
  | symmetricDifference
  deriving DecidableEq, Repr

/-- Whether what is in the first set, in the second, or in both is in the third. -/
def SetOperation.keeps : SetOperation → Bool → Bool → Bool
  | .union, a, b => a || b
  | .intersection, a, b => a && b
  | .difference, a, b => a && !b
  | .symmetricDifference, a, b => a != b

/-- A set of characters. -/
inductive CharSet where
  | ranges (r : Ranges)
  /-- The characters of some general categories. -/
  | categories (gs : List GeneralCategory)
  /-- The characters of a script, by its code. -/
  | script (code : String)
  /-- The characters that a script uses, by its code. -/
  | scriptUse (code : String)
  | not (s : CharSet)
  | combine (op : SetOperation) (s t : CharSet)
  /-- With each character all its spellings. -/
  | caseless (s : CharSet)
  /-- With each letter of ASCII the same letter in the other case. -/
  | asciiCaseless (s : CharSet)
  deriving DecidableEq, Repr

namespace CharSet

/-- The set that ranges in hexadecimal digits write. -/
def ofText (text : String) : CharSet := .ranges (.ofText [text])

/-- The set of one character. -/
def single (c : Char) : CharSet := .ranges ⟨#[(c.toNat, c.toNat)]⟩

def empty : CharSet := .ranges ⟨#[]⟩

/-- The set of all characters. -/
def all : CharSet := .not empty

instance : OrOp CharSet := ⟨combine .union⟩

instance : AndOp CharSet := ⟨combine .intersection⟩

instance : SDiff CharSet := ⟨combine .difference⟩

/-- The letter of ASCII in the other case; all other characters are kept. -/
def otherCase (c : Char) : Char := if c.isUpper then c.toLower else c.toUpper

/-- Whether a character is in the set. -/
def contains : CharSet → Char → Bool
  | .ranges r, c => r.contains c
  | .categories gs, c => gs.contains (generalCategory c)
  | .script code, c => scriptCode c == code
  | .scriptUse code, c => usesScript code c
  | .not s, c => !s.contains c
  | .combine op s t, c => op.keeps (s.contains c) (t.contains c)
  | .caseless s, c => (spellings c).any s.contains
  | .asciiCaseless s, c => s.contains c || s.contains (otherCase c)

@[simp] theorem contains_not (s : CharSet) (c : Char) : s.not.contains c = !s.contains c := rfl

@[simp] theorem contains_combine (op : SetOperation) (s t : CharSet) (c : Char) :
    (combine op s t).contains c = op.keeps (s.contains c) (t.contains c) := rfl

@[simp] theorem contains_or (s t : CharSet) (c : Char) :
    (s ||| t).contains c = (s.contains c || t.contains c) := rfl

@[simp] theorem contains_and (s t : CharSet) (c : Char) :
    (s &&& t).contains c = (s.contains c && t.contains c) := rfl

@[simp] theorem contains_sdiff (s t : CharSet) (c : Char) :
    (s \ t).contains c = (s.contains c && !t.contains c) := rfl

theorem contains_and_comm (s t : CharSet) (c : Char) :
    (s &&& t).contains c = (t &&& s).contains c := by
  simp [Bool.and_comm]

/-- About how many ranges the set consists of. Where sets are put together, some ranges grow into
one another. -/
def breadth : CharSet → Nat
  | .ranges r => r.ends.size
  | .categories gs => categoryTable.breadth fun l => gs.any (·.abbreviation == l)
  | .script code | .scriptUse code => scriptTable.breadth (· == code)
  | .not s | .caseless s | .asciiCaseless s => s.breadth + 1
  | .combine _ s t => max s.breadth t.breadth + min s.breadth t.breadth / 4

/-- Whether the set is one of ASCII, as far as its parts show. -/
def isAscii : CharSet → Bool
  | .ranges r => r.ends.all (·.2 < 128)
  | .categories _ | .script _ | .scriptUse _ | .not _ => false
  | .combine .intersection s t => s.isAscii || t.isAscii
  | .combine .difference s _ => s.isAscii
  | .combine _ s t => s.isAscii && t.isAscii
  | .caseless s => s.isAscii && ['k', 'K', 's', 'S'].all fun c => !s.contains c
  | .asciiCaseless s => s.isAscii

end CharSet

end Glossary.Unicode
