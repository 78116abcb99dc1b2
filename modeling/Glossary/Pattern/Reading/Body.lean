import Glossary.Pattern.Reading.Group

/-!
# Whole patterns

Reading a pattern from its first character to its last: items side by side, branches with bars
between them, and groups in one another.

## Main results

* `close_nothing` — where nothing stands, the pattern is empty.
-/

namespace Glossary.Pattern

/-- What has been read of a group, or of the whole pattern. -/
structure Body where
  start : Position
  /-- The branches that have ended, last first. -/
  branches : List Expr
  /-- Where the branch being read starts. -/
  branchStart : Position
  /-- The items of the branch being read, last first. -/
  items : List (Expr × Span)

namespace Body

/-- Nothing, at a place. -/
def nothing (p : Position) : Body := ⟨p, [], p, []⟩

def push (b : Body) (e : Expr) (span : Span) : Body := { b with items := (e, span) :: b.items }

/-- The branch being read, up to a place. -/
def branch (b : Body) (stop : Position) : Expr :=
  match b.items.reverse with
  | [] => .empty
  | [(e, _)] => e
  | es => .level ⟨b.branchStart, stop⟩ (es.foldr (fun e rest => .seq e.1 rest) .empty)

/-- Ends a branch. -/
def bar (b : Body) (stop next : Position) : Body :=
  { b with branches := b.branch stop :: b.branches, branchStart := next, items := [] }

/-- All branches, up to a place. -/
def close (b : Body) (stop : Position) : Expr :=
  match b.branches with
  | [] => b.branch stop
  | es => .level ⟨b.start, stop⟩ (es.foldl (fun rest e => .either e rest) (b.branch stop))

theorem close_nothing (p stop : Position) : (nothing p).close stop = .empty := rfl

end Body

/-- A group that is open. -/
structure OpenGroup where
  /-- What stands before the group. -/
  outer : Body
  change : FlagChange
  remembered : Bool
  paren : Span
  /-- Whether blanks and comments around the group are passed over. -/
  spaced : Bool

namespace Reading

/-- Sets whether blanks and comments are passed over. -/
def setSpaced (spaced : Bool) : Reading Unit := modify fun r => { r with spaced }

/-- The last item, which is to be repeated, and the body without it. The reader stands at what
repeats it. Neither flags nor nothing can be repeated. -/
def lastItem (b : Body) : Reading (Expr × Span × Body) :=
  match b.items with
  | [] | (.flags _, _) :: _ => failHere .repetitionMissing
  | (e, span) :: items => pure (e, span, { b with items })

/-- A sign that says how often the last item is repeated. -/
def sign (b : Body) (least : Nat) (most? : Option Nat) : Reading Body := do
  let (e, span, b) ← lastItem b
  skip 1
  let _ ← accept "?"
  let span : Span := ⟨span.start, ← here⟩
  pure (b.push (.level span (.times e least most?)) span)

/-- Braces that say how often the last item is repeated. -/
def braces (b : Body) : Reading Body := do
  let (e, span, b) ← lastItem b
  let (least, most?) ← count
  let span : Span := ⟨span.start, ← here⟩
  pure (b.push (.level span (.times e least most?)) span)

/-- Reads a pattern to its end. `outer` holds the open groups, the innermost first. Every step
takes a character, so the number of characters is fuel enough. -/
def body (fuel : Nat) (outer : List OpenGroup) (b : Body) : Reading Expr :=
  match fuel with
  | 0 => do pure (b.close (← here))
  | fuel + 1 => do
      skipBlanks
      let start ← here
      match ← peek with
      | none =>
          match outer with
          | [] => pure (b.close start)
          | g :: _ => fail .groupUnclosed g.paren
      | some '(' =>
          match ← groupStart with
          | .flags change span =>
              setSpaced (change.apply .spaced (← get).spaced)
              body fuel outer (b.push (.flags change) span)
          | .opened change remembered paren =>
              let spaced := (← get).spaced
              setSpaced (change.apply .spaced spaced)
              body fuel (⟨b, change, remembered, paren, spaced⟩ :: outer) (.nothing (← here))
      | some ')' =>
          match outer with
          | [] => failNext .groupUnopened
          | g :: outer =>
              setSpaced g.spaced
              skip 1
              let span : Span := ⟨g.paren.start, ← here⟩
              let e := Expr.level span (.group g.change g.remembered (b.close start))
              body fuel outer (g.outer.push e span)
      | some '|' =>
          skip 1
          body fuel outer (b.bar start (← here))
      | some '[' =>
          let (e, span) ← bracketSet
          body fuel outer (b.push (.set e) span)
      | some '?' => body fuel outer (← sign b 0 (some 1))
      | some '*' => body fuel outer (← sign b 0 none)
      | some '+' => body fuel outer (← sign b 1 none)
      | some '\x7b' => body fuel outer (← braces b)
      | some _ =>
          let a ← atom
          body fuel outer (b.push (.atom a) ⟨start, ← here⟩)

end Reading

/-- Reads a pattern. -/
def Expr.read (pattern : String) : Except Finding Expr := do
  let s := pattern.toList
  let (e, _) ← (Reading.body (s.length + 1) [] (.nothing .first)).run ⟨s, .first, false, []⟩
  match e.tooDeep? depthLimit with
  | some span => throw ⟨.nestedTooDeep, span, none⟩
  | none => pure e

end Glossary.Pattern
