import Glossary.Json.Value
import Glossary.Text.Digit

/-!
# Reading JSON

A reader for whole JSON texts: nothing but one value with blanks around it, no trailing commas,
no leading zeros. The strings are read in two steps, first as pieces, each a character or an
escaped unit of sixteen bits, then as text, where two units may make one character.
-/

namespace Glossary.Json

namespace Reader

/-- The four blanks of JSON. -/
def isBlank (c : Char) : Bool := c == ' ' || c == '\n' || c == '\r' || c == '\t'

def skipBlanks (s : List Char) : List Char := s.dropWhile isBlank

/-- What a string is made of. -/
inductive Piece where
  | char (c : Char)
  /-- An escaped unit of sixteen bits. -/
  | unit (n : Nat)
  deriving DecidableEq, Repr

/-- The number that four hexadecimal digits write. -/
def unit? (a b c d : Char) : Option Nat :=
  if [a, b, c, d].all (Text.isDigitOf 16) then some (Text.ofDigits 16 [a, b, c, d]) else none

/-- The character that a backslash and a letter write. -/
def escaped? : Char → Option Char
  | '"' => some '"'
  | '\\' => some '\\'
  | '/' => some '/'
  | 'b' => some '\x08'
  | 'f' => some '\x0c'
  | 'n' => some '\n'
  | 'r' => some '\r'
  | 't' => some '\t'
  | _ => none

/-- The pieces of a string up to its closing quote, and what follows. -/
def pieces : List Char → Array Piece → Option (List Piece × List Char)
  | [], _ => none
  | '"' :: rest, found => some (found.toList, rest)
  | '\\' :: 'u' :: a :: b :: c :: d :: rest, found =>
      match unit? a b c d with
      | some n => pieces rest (found.push (.unit n))
      | none => none
  | '\\' :: c :: rest, found =>
      match escaped? c with
      | some e => pieces rest (found.push (.char e))
      | none => none
  | c :: rest, found =>
      if c.toNat < 0x20 ∨ c = '\\' then none else pieces rest (found.push (.char c))

def isHighUnit (n : Nat) : Bool := 0xD800 ≤ n && n < 0xDC00

def isLowUnit (n : Nat) : Bool := 0xDC00 ≤ n && n < 0xE000

/-- The text that pieces make: a high unit and the low one behind it are one character. Nothing
when either stands alone. -/
def text? : List Piece → Array Char → Option (List Char)
  | [], out => some out.toList
  | .char c :: rest, out => text? rest (out.push c)
  | .unit n :: .unit m :: rest, out =>
      if isHighUnit n then
        if isLowUnit m then
          text? rest (out.push (Char.ofNat (0x10000 + (n - 0xD800) * 0x400 + (m - 0xDC00))))
        else none
      else if isLowUnit n then none
      else text? (.unit m :: rest) (out.push (Char.ofNat n))
  | .unit n :: rest, out =>
      if isHighUnit n || isLowUnit n then none else text? rest (out.push (Char.ofNat n))
termination_by ps => ps.length

/-- A string behind its opening quote: the text, if its pieces make one, and what follows. -/
def string (s : List Char) : Option (Option String × List Char) :=
  (pieces s #[]).map fun (ps, rest) => ((text? ps #[]).map String.ofList, rest)

/-- The digits at the start of a text, which must be there. -/
def digits (s : List Char) : Option (List Char × List Char) :=
  let ds := s.takeWhile Char.isDigit
  if ds = [] then none else some (ds, s.dropWhile Char.isDigit)

/-- An integer part: no zero in front of other digits. -/
def whole (s : List Char) : Option (List Char × List Char) :=
  match s with
  | '0' :: rest => if rest.head?.any Char.isDigit then none else some (['0'], rest)
  | _ => digits s

/-- A fraction, if there is a point. -/
def fraction (s : List Char) : Option (List Char × List Char) :=
  match s with
  | '.' :: rest => (digits rest).map fun (ds, r) => ('.' :: ds, r)
  | _ => some ([], s)

/-- An exponent, if there is its letter. -/
def exponent (s : List Char) : Option (List Char × List Char) :=
  match s with
  | e :: rest =>
      if e = 'e' ∨ e = 'E' then
        let (sign, rest) :=
          match rest with
          | '+' :: r => (['+'], r)
          | '-' :: r => (['-'], r)
          | r => ([], r)
        (digits rest).map fun (ds, r) => (e :: sign ++ ds, r)
      else some ([], s)
  | [] => some ([], s)

/-- A number, by its digits, and what follows. -/
def number (s : List Char) : Option (List Char × List Char) := do
  let (sign, s) :=
    match s with
    | '-' :: rest => (['-'], rest)
    | s => ([], s)
  let (w, s) ← whole s
  let (f, s) ← fraction s
  let (e, s) ← exponent s
  pure (sign ++ w ++ f ++ e, s)

/-- What follows a given word. -/
def word (w : String) (v : Value) (s : List Char) : Option (Value × List Char) :=
  if w.toList.isPrefixOf s then some (v, s.drop w.length) else none

mutual

/-- A value and what follows it. Every call hands on less fuel; twice the length of the text is
always enough. -/
def value (fuel : Nat) (s : List Char) : Option (Value × List Char) :=
  match fuel with
  | 0 => none
  | fuel + 1 =>
      match skipBlanks s with
      | [] => none
      | c :: rest =>
          if c = '"' then
            (string rest).map fun (t, r) => ((t.map Value.string).getD .unpaired, r)
          else if c = '[' then
            match skipBlanks rest with
            | ']' :: r => some (.array [], r)
            | r => items fuel r []
          else if c = '\x7b' then
            match skipBlanks rest with
            | '\x7d' :: r => some (.object [], r)
            | r => members fuel r [] true
          else if c = 'n' then word "null" .null (c :: rest)
          else if c = 't' then word "true" (.bool true) (c :: rest)
          else if c = 'f' then word "false" (.bool false) (c :: rest)
          else (number (c :: rest)).map fun (ds, r) => (.number (String.ofList ds), r)

/-- The items of an array up to its end; `found` holds those read, last first. -/
def items (fuel : Nat) (s : List Char) (found : List Value) : Option (Value × List Char) :=
  match fuel with
  | 0 => none
  | fuel + 1 =>
      match value fuel s with
      | none => none
      | some (v, rest) =>
          match skipBlanks rest with
          | ',' :: r => items fuel r (v :: found)
          | ']' :: r => some (.array (v :: found).reverse, r)
          | _ => none

/-- The members of an object up to its end; `found` holds those read, last first, and `keyed`
says whether all keys so far are texts. -/
def members (fuel : Nat) (s : List Char) (found : List (String × Value)) (keyed : Bool) :
    Option (Value × List Char) :=
  match fuel with
  | 0 => none
  | fuel + 1 =>
      match skipBlanks s with
      | '"' :: r =>
          match string r with
          | none => none
          | some (key?, r) =>
              match skipBlanks r with
              | ':' :: r =>
                  match value fuel r with
                  | none => none
                  | some (v, rest) =>
                      let found := (key?.getD "", v) :: found
                      let keyed := keyed && key?.isSome
                      match skipBlanks rest with
                      | ',' :: r => members fuel r found keyed
                      | '\x7d' :: r => some (if keyed then .object found.reverse else .unpaired, r)
                      | _ => none
              | _ => none
      | _ => none

end

end Reader

/-- The value that a JSON text denotes. -/
def Value.read? (text : String) : Option Value :=
  let s := text.toList
  match Reader.value (2 * s.length + 2) s with
  | some (v, rest) => if Reader.skipBlanks rest = [] then some v else none
  | none => none

end Glossary.Json
