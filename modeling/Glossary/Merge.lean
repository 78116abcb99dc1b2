import Glossary.Entry
import Glossary.FirstSeen
import Std.Data.HashSet

/-!
# Merging entries

A reference may explain a token several times. Merging leaves one entry for each token: the kind
with the highest rank wins, and among entries of that kind the longest description and the
longest example are kept, each for itself. Tokens stay in the order in which they first appear.

A builtin constant that loses to a keyword is not looked up any more, but a reference still lists
it among the builtins: it is shadowed.
-/

namespace Glossary

namespace Entry

/-- Length of the example in bytes; no example counts as an empty one. -/
def exampleLength (e : Entry) : Nat := (e.example?.map String.utf8ByteSize).getD 0

/-- What is kept of an entry when another with the same token comes after it. -/
def absorb (e later : Entry) : Entry :=
  if e.category.kind.rank < later.category.kind.rank then later
  else if e.category.kind.rank = later.category.kind.rank then
    { e with
      description :=
        if e.description.utf8ByteSize < later.description.utf8ByteSize then later.description
        else e.description
      example? := if e.exampleLength < later.exampleLength then later.example? else e.example? }
  else e

theorem token_absorb {e later : Entry} (h : e.token = later.token) :
    (e.absorb later).token = e.token := by
  unfold absorb
  split
  · exact h.symm
  · split <;> rfl

end Entry

/-- Adds one entry to those merged before. An entry without a token is left out. -/
def mergeEntry (merged : FirstSeen String Entry) (e : Entry) : FirstSeen String Entry :=
  if e.token = "" then merged else merged.note e.token e (·.absorb e)

/-- One entry for each token, in order of first appearance. -/
def merge (es : List Entry) : List Entry := (es.foldl mergeEntry .empty).toList

/-- Of the entries with one token, the first. -/
def firstPerToken (es : List Entry) : List Entry :=
  (es.foldl (fun seen e => seen.note e.token e id)
    (FirstSeen.empty : FirstSeen String Entry)).toList

/-- The builtin constants among the parsed entries whose token is a keyword after merging, one
for each token. -/
def shadowedConstants (parsed merged : List Entry) : List Entry :=
  let keywords := Std.HashSet.ofList ((merged.filter (·.category == .keyword)).map (·.token))
  firstPerToken (parsed.filter fun e => e.category == .builtinConstant && keywords.contains e.token)

end Glossary
