import Glossary.Text.Digit

/-!
# Numbers in TOML

Integers in four radices and floats. A single underscore may stand between two digits. Integers
have 64 bits; a float must not be too large for a double.
-/

namespace Glossary.Toml

/-- What a number denotes: an integer, or the characters of a float. -/
inductive Number where
  | integer (n : Int)
  | float (literal : List Char)
  deriving DecidableEq, Repr

/-- Digits with single underscores between them: the digits and what follows. The flag says
whether a digit must come next. -/
def digits (isDigit : Char → Bool) : Bool → List Char → Option (List Char × List Char)
  | true, [] => none
  | false, [] => some ([], [])
  | expected, c :: rest =>
      if isDigit c then (digits isDigit false rest).map fun (ds, r) => (c :: ds, r)
      else if expected then none
      else if c = '_' then digits isDigit true rest
      else some ([], c :: rest)

/-- An integer of 64 bits. -/
def integer? (n : Int) : Option Number :=
  if -9223372036854775808 ≤ n ∧ n ≤ 9223372036854775807 then some (.integer n) else none

/-- The digits of an integer behind the sign of its radix. -/
def inRadix (radix : Nat) (s : List Char) : Option (Number × List Char) := do
  let (ds, rest) ← digits (Text.isDigitOf radix) true s
  let n ← integer? (Text.ofDigits radix ds)
  pure (n, rest)

/-- A whole part: no zero in front of other digits. -/
def whole (s : List Char) : Option (List Char × List Char) :=
  match s with
  | '0' :: rest => some (['0'], rest)
  | _ => digits Char.isDigit true s

/-- A fraction, if there is a point. -/
def fraction (s : List Char) : Option (List Char × List Char) :=
  match s with
  | '.' :: rest => digits Char.isDigit true rest
  | _ => some ([], s)

/-- A sign, if there is one: whether it is a minus, and what follows. -/
def sign (s : List Char) : Bool × List Char :=
  match s with
  | '+' :: rest => (false, rest)
  | '-' :: rest => (true, rest)
  | _ => (false, s)

/-- An exponent, if there is its letter. -/
def exponent (s : List Char) : Option (Int × List Char) :=
  match s with
  | 'e' :: rest | 'E' :: rest => do
      let (negative, rest) := sign rest
      let (ds, rest) ← digits Char.isDigit true rest
      let n := Text.ofDigits 10 ds
      pure (if negative then -n else n, rest)
  | _ => some (0, s)

/-- Whether a decimal rounds to infinity as a double: it is at least halfway between the largest
double and the next power of two. -/
def overflows (digits : List Char) (exponent : Int) : Bool :=
  let significant := digits.dropWhile (· == '0')
  let bound := Nat.pow 2 1024 - Nat.pow 2 970
  let top := significant.length + exponent
  if significant = [] ∨ top < 309 then false
  else if 309 < top then true
  else
    bound * Nat.pow 10 (-exponent).toNat ≤ Text.ofDigits 10 significant * Nat.pow 10 exponent.toNat

/-- A number in radix ten, with or without a sign, and what follows. -/
def decimal (s : List Char) : Option (Number × List Char) := do
  let (negative, digitsOn) := sign s
  let (w, afterWhole) ← whole digitsOn
  let (f, afterFraction) ← fraction afterWhole
  let (e, rest) ← exponent afterFraction
  if rest.length = afterWhole.length then
    let n : Int := Text.ofDigits 10 w
    pure (← integer? (if negative then -n else n), rest)
  else if !negative && overflows (w ++ f) (e - f.length) then none
  else pure (.float (s.take (s.length - rest.length)), rest)

/-- A number of any kind and what follows. -/
def number (s : List Char) : Option (Number × List Char) :=
  match s with
  | '0' :: 'x' :: rest => inRadix 16 rest
  | '0' :: 'o' :: rest => inRadix 8 rest
  | '0' :: 'b' :: rest => inRadix 2 rest
  | _ =>
      let (_, unsigned) := sign s
      match unsigned with
      | 'i' :: 'n' :: 'f' :: rest | 'n' :: 'a' :: 'n' :: rest =>
          some (.float (s.take (s.length - rest.length)), rest)
      | _ => decimal s

end Glossary.Toml
