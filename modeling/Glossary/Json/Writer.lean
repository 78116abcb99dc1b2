import Glossary.Json.Value

/-!
# Writing JSON

Two layouts: everything on one line without blanks, or one item a line, two spaces deeper for
each level, with empty arrays and objects kept closed. Strings escape what JSON requires, that
is quotes, backslashes and control characters; all else stands as it is.

## Main results

* `Writer.noControl_encode` — a written string holds no control character.
-/

namespace Glossary.Json

namespace Writer

/-- One of the sixteen digits, in small letters. -/
def hexDigit (n : Nat) : Char := Nat.digitChar n

/-- One character of a written string. -/
def encodeChar (c : Char) : List Char :=
  match c with
  | '"' => ['\\', '"']
  | '\\' => ['\\', '\\']
  | '\n' => ['\\', 'n']
  | '\r' => ['\\', 'r']
  | '\t' => ['\\', 't']
  | '\x08' => ['\\', 'b']
  | '\x0c' => ['\\', 'f']
  | c =>
      if c.toNat < 0x20 then ['\\', 'u', '0', '0', hexDigit (c.toNat / 16), hexDigit (c.toNat % 16)]
      else [c]

/-- A string between quotes. -/
def encode (s : String) : List Char := '"' :: s.toList.flatMap encodeChar ++ ['"']

theorem noControl_encodeChar {c d : Char} (h : d ∈ encodeChar c) : 0x20 ≤ d.toNat := by
  unfold encodeChar at h
  split at h
  case h_8 =>
      split at h
      · next hc =>
          have hq : c.toNat / 16 < 16 := by omega
          have hr : c.toNat % 16 < 16 := by omega
          have hex : ∀ n, n < 16 → 0x20 ≤ (hexDigit n).toNat := by decide
          simp only [List.mem_cons, List.not_mem_nil, or_false] at h
          rcases h with rfl | rfl | rfl | rfl | rfl | rfl
          · decide
          · decide
          · decide
          · decide
          · exact hex _ hq
          · exact hex _ hr
      · next hc =>
          simp only [List.mem_singleton] at h
          subst h
          omega
  all_goals
    simp only [List.mem_cons, List.not_mem_nil, or_false] at h
    rcases h with rfl | rfl <;> decide

theorem noControl_encode {s : String} {d : Char} (h : d ∈ encode s) : 0x20 ≤ d.toNat := by
  simp only [encode, List.cons_append, List.mem_cons, List.mem_append, List.mem_flatMap,
    List.not_mem_nil, or_false] at h
  rcases h with rfl | ⟨c, -, h⟩ | rfl
  · decide
  · exact noControl_encodeChar h
  · decide

/-- Where line ends go. -/
inductive Layout where
  /-- All on one line. -/
  | compact
  /-- One item a line, at the given depth. -/
  | pretty (depth : Nat)
  deriving DecidableEq, Repr

namespace Layout

/-- The layout of the items inside. -/
def inner : Layout → Layout
  | .compact => .compact
  | .pretty depth => .pretty (depth + 1)

/-- The end of a line and the indentation of the next. -/
def newline : Layout → List Char
  | .compact => []
  | .pretty depth => '\n' :: List.replicate (2 * depth) ' '

/-- What stands between a key and its value. -/
def colon : Layout → List Char
  | .compact => [':']
  | .pretty _ => [':', ' ']

/-- Items between brackets, parted by commas. -/
def wrap (l : Layout) (opening closing : Char) (items : List (List Char)) : List Char :=
  if items = [] then [opening, closing]
  else
    opening :: l.inner.newline ++ (',' :: l.inner.newline).intercalate items ++ l.newline ++
      [closing]

end Layout

/-- The text of a value. -/
def render (l : Layout) : Value → List Char
  | .null | .unpaired => "null".toList
  | .bool b => if b then "true".toList else "false".toList
  | .number literal => literal.toList
  | .string s => encode s
  | .array items => l.wrap '[' ']' (items.attach.map fun ⟨v, _⟩ => render l.inner v)
  | .object members =>
      l.wrap '\x7b' '\x7d' (members.attach.map fun ⟨m, _⟩ =>
        encode m.1 ++ l.colon ++ render l.inner m.2)
termination_by v => sizeOf v
decreasing_by
  · have := List.sizeOf_lt_of_mem ‹v ∈ items›
    simp only [Value.array.sizeOf_spec]
    omega
  · have := List.sizeOf_lt_of_mem ‹m ∈ members›
    obtain ⟨k, v⟩ := m
    simp only [Value.object.sizeOf_spec, Prod.mk.sizeOf_spec] at *
    omega

end Writer

/-- A value on one line. -/
def Value.compact (v : Value) : String := String.ofList (Writer.render .compact v)

/-- A value with one item a line. -/
def Value.pretty (v : Value) : String := String.ofList (Writer.render (.pretty 0) v)

end Glossary.Json
