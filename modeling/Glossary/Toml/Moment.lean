import Glossary.Text.Digit

/-!
# Dates and times in TOML

A date, a time of day, or a date with a time and perhaps an offset from universal time. Dates are
those of the Gregorian calendar; a minute may have a leap second.
-/

namespace Glossary.Toml

/-- A number of a fixed count of digits, between bounds, and what follows. -/
def field (count low high : Nat) (s : List Char) : Option (Nat × List Char) :=
  let ds := s.take count
  let n := Text.ofDigits 10 ds
  if ds.length = count ∧ ds.all Char.isDigit ∧ low ≤ n ∧ n ≤ high then some (n, s.drop count)
  else none

/-- What follows a given character. -/
def after (c : Char) : List Char → Option (List Char)
  | d :: rest => if d = c then some rest else none
  | [] => none

def isLeapYear (year : Nat) : Bool := year % 4 = 0 && (year % 100 ≠ 0 || year % 400 = 0)

def daysInMonth (year month : Nat) : Nat :=
  if month = 2 then if isLeapYear year then 29 else 28
  else if month = 4 ∨ month = 6 ∨ month = 9 ∨ month = 11 then 30
  else 31

/-- What follows a date. -/
def date (s : List Char) : Option (List Char) := do
  let (year, s) ← field 4 0 9999 s
  let (month, s) ← field 2 1 12 (← after '-' s)
  let (_, s) ← field 2 1 (daysInMonth year month) (← after '-' s)
  pure s

/-- What follows a fraction of a second, if there is a point. -/
def secondFraction (s : List Char) : Option (List Char) :=
  match s with
  | '.' :: rest => if rest.head?.any Char.isDigit then some (rest.dropWhile Char.isDigit) else none
  | _ => some s

/-- What follows a time of day. -/
def timeOfDay (s : List Char) : Option (List Char) := do
  let (_, s) ← field 2 0 23 s
  let (_, s) ← field 2 0 59 (← after ':' s)
  let (_, s) ← field 2 0 60 (← after ':' s)
  secondFraction s

/-- What follows an offset from universal time, if there is one. -/
def offset (s : List Char) : Option (List Char) :=
  match s with
  | 'Z' :: rest | 'z' :: rest => some rest
  | '+' :: rest | '-' :: rest => do
      let (_, s) ← field 2 0 23 rest
      let (_, s) ← field 2 0 59 (← after ':' s)
      pure s
  | _ => some s

/-- Whether a text starts with a time, as far as its first colon. -/
def startsTime (s : List Char) : Bool :=
  match field 2 0 23 s with
  | some (_, ':' :: _) => true
  | _ => false

/-- Whether a text starts with a date, as far as its first hyphen. -/
def startsDate (s : List Char) : Bool :=
  match field 4 0 9999 s with
  | some (_, '-' :: _) => true
  | _ => false

/-- What follows a date, and its time if one stands behind a letter or a blank. -/
def dateAndTime (s : List Char) : Option (List Char) := do
  let rest ← date s
  match rest with
  | 'T' :: r | 't' :: r | ' ' :: r => if startsTime r then timeOfDay r >>= offset else pure rest
  | _ => pure rest

/-- What follows a date or a time, when the text starts with one. Its first part decides what is
read, so the outer answer says whether there is one at all. -/
def moment? (s : List Char) : Option (Option (List Char)) :=
  if startsDate s then some (dateAndTime s)
  else if startsTime s then some (timeOfDay s)
  else none

end Glossary.Toml
