import Glossary.Text.Digit

/-!
# Strings in TOML

The four kinds of strings: on one line or on several, with escapes or literal. Each reader starts
behind the opening quotes and gives the text and what follows the closing quotes.

## Main results

* `length_skipBreaks_le`, `length_lt_of_afterBreak?` — passing over blanks never lengthens a text.
-/

namespace Glossary.Toml

/-- Spaces and tabs. -/
def isSpace (c : Char) : Bool := c == ' ' || c == '\t'

/-- The characters that may stand in a comment or a string. -/
def isPrintable (c : Char) : Bool := c == '\t' || (0x20 ≤ c.toNat && c.toNat ≠ 0x7F)

/-- What follows a line break. -/
def dropBreak? : List Char → Option (List Char)
  | '\n' :: rest => some rest
  | '\r' :: '\n' :: rest => some rest
  | _ => none

/-- Drops blanks and line breaks. -/
def skipBreaks : List Char → List Char
  | '\r' :: '\n' :: rest => skipBreaks rest
  | c :: rest => if isSpace c ∨ c = '\n' then skipBreaks rest else c :: rest
  | [] => []

theorem length_skipBreaks_le (s : List Char) : (skipBreaks s).length ≤ s.length := by
  fun_induction skipBreaks s with
  | case1 rest ih => exact Nat.le_succ_of_le (Nat.le_succ_of_le ih)
  | case2 c rest _ _ ih => exact Nat.le_succ_of_le ih
  | case3 => exact Nat.le_refl _
  | case4 => exact Nat.le_refl _

theorem length_lt_of_dropBreak? {s r : List Char} (h : dropBreak? s = some r) :
    r.length < s.length := by
  unfold dropBreak? at h
  split at h
  · rw [← Option.some.inj h]
    exact Nat.lt_succ_self _
  · rw [← Option.some.inj h]
    exact Nat.lt_succ_of_lt (Nat.lt_succ_self _)
  · exact nomatch h

/-- What follows a line break behind blanks, and all blanks and line breaks after it. -/
def afterBreak? (s : List Char) : Option (List Char) :=
  (dropBreak? (s.dropWhile isSpace)).map skipBreaks

theorem length_lt_of_afterBreak? {s r : List Char} (h : afterBreak? s = some r) :
    r.length < s.length := by
  obtain ⟨t, ht, rfl⟩ := Option.map_eq_some_iff.1 h
  have h1 := length_lt_of_dropBreak? ht
  have h2 := length_skipBreaks_le t
  have h3 := (List.dropWhile_sublist isSpace (l := s)).length_le
  omega

/-- The character that a backslash and a letter write. -/
def escaped? : Char → Option Char
  | 'b' => some '\x08'
  | 'f' => some '\x0c'
  | 'n' => some '\n'
  | 'r' => some '\r'
  | 't' => some '\t'
  | '"' => some '"'
  | '\\' => some '\\'
  | _ => none

/-- The character whose number hexadecimal digits write. -/
def numbered? (digits : List Char) : Option Char :=
  let n := Text.ofDigits 16 digits
  if digits.all (Text.isDigitOf 16) ∧ n.isValidChar then some (Char.ofNat n) else none

/-- An escape behind its backslash: the character and what follows. -/
def escape? : List Char → Option (Char × List Char)
  | 'u' :: rest =>
      if rest.length < 4 then none else (numbered? (rest.take 4)).map (·, rest.drop 4)
  | 'U' :: rest =>
      if rest.length < 8 then none else (numbered? (rest.take 8)).map (·, rest.drop 8)
  | c :: rest => (escaped? c).map (·, rest)
  | [] => none

theorem length_lt_of_escape? {s r : List Char} {c : Char} (h : escape? s = some (c, r)) :
    r.length < s.length := by
  have drop (rest : List Char) (n : Nat) {d : Option Char} {a : Char}
      (h : d.map (·, rest.drop n) = some (c, r)) : r.length < (a :: rest).length := by
    obtain ⟨e, _, he⟩ := Option.map_eq_some_iff.1 h
    rw [← (Prod.mk.inj he).2, List.length_drop, List.length_cons]
    omega
  unfold escape? at h
  split at h
  · split at h
    · exact nomatch h
    · exact drop _ 4 h
  · split at h
    · exact nomatch h
    · exact drop _ 8 h
  · exact drop _ 0 h
  · exact nomatch h

/-- A string with escapes on one line. -/
def quoted (s : List Char) (found : Array Char) : Option (List Char × List Char) :=
  match s with
  | [] => none
  | '"' :: rest => some (found.toList, rest)
  | '\\' :: rest =>
      match _h : escape? rest with
      | some (c, r) => quoted r (found.push c)
      | none => none
  | c :: rest => if isPrintable c then quoted rest (found.push c) else none
termination_by s.length
decreasing_by
  · exact Nat.lt_succ_of_lt (length_lt_of_escape? _h)
  · exact Nat.lt_succ_self _

/-- A string with escapes on several lines. A backslash at the end of a line drops the line break
and all blanks after it. Up to two quotes may stand in front of the closing three. -/
def quotedBlock (s : List Char) (found : Array Char) : Option (List Char × List Char) :=
  match s with
  | [] => none
  | '"' :: '"' :: '"' :: '"' :: '"' :: rest => some ((found.push '"').push '"' |>.toList, rest)
  | '"' :: '"' :: '"' :: '"' :: rest => some (found.push '"' |>.toList, rest)
  | '"' :: '"' :: '"' :: rest => some (found.toList, rest)
  | '\r' :: '\n' :: rest => quotedBlock rest (found.push '\n')
  | '\n' :: rest => quotedBlock rest (found.push '\n')
  | '\\' :: rest =>
      match _h : afterBreak? rest with
      | some r => quotedBlock r found
      | none =>
          match _h' : escape? rest with
          | some (c, r) => quotedBlock r (found.push c)
          | none => none
  | c :: rest => if isPrintable c then quotedBlock rest (found.push c) else none
termination_by s.length
decreasing_by
  · exact Nat.lt_succ_of_lt (Nat.lt_succ_self _)
  · exact Nat.lt_succ_self _
  · exact Nat.lt_succ_of_lt (length_lt_of_afterBreak? _h)
  · exact Nat.lt_succ_of_lt (length_lt_of_escape? _h')
  · exact Nat.lt_succ_self _

/-- A literal string on one line. -/
def literal : List Char → Array Char → Option (List Char × List Char)
  | [], _ => none
  | '\'' :: rest, found => some (found.toList, rest)
  | c :: rest, found => if isPrintable c then literal rest (found.push c) else none

/-- A literal string on several lines. Up to two quotes may stand in front of the closing
three. -/
def literalBlock : List Char → Array Char → Option (List Char × List Char)
  | [], _ => none
  | '\'' :: '\'' :: '\'' :: '\'' :: '\'' :: rest, found =>
      some ((found.push '\'').push '\'' |>.toList, rest)
  | '\'' :: '\'' :: '\'' :: '\'' :: rest, found => some (found.push '\'' |>.toList, rest)
  | '\'' :: '\'' :: '\'' :: rest, found => some (found.toList, rest)
  | '\r' :: '\n' :: rest, found => literalBlock rest (found.push '\n')
  | '\n' :: rest, found => literalBlock rest (found.push '\n')
  | c :: rest, found => if isPrintable c then literalBlock rest (found.push c) else none

/-- A string of any kind. A line break right behind three opening quotes is dropped. -/
def quotation (s : List Char) : Option (List Char × List Char) :=
  match s with
  | '"' :: '"' :: '"' :: rest => quotedBlock ((dropBreak? rest).getD rest) #[]
  | '"' :: rest => quoted rest #[]
  | '\'' :: '\'' :: '\'' :: rest => literalBlock ((dropBreak? rest).getD rest) #[]
  | '\'' :: rest => literal rest #[]
  | _ => none

end Glossary.Toml
