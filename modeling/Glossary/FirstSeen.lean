import Std.Data.HashMap

/-!
# Tables in order of first appearance

A table from keys to values that remembers in which order its keys were first seen. Changing the
value of a key does not move it.

## Main results

* `get?_note` — noting a key changes the value of that key only.
* `keys_note` — a new key comes last, a known one stays where it is.
-/

namespace Glossary

/-- Keys in order of first appearance, each with its value. -/
structure FirstSeen (κ α : Type) [BEq κ] [Hashable κ] where
  order : Array κ
  values : Std.HashMap κ α

namespace FirstSeen

variable {κ α : Type} [BEq κ] [Hashable κ]

/-- No key seen yet. -/
def empty : FirstSeen κ α := ⟨#[], ∅⟩

/-- The value of a key. -/
def get? (t : FirstSeen κ α) (k : κ) : Option α := t.values[k]?

/-- Gives a key that was not seen yet the value `fresh`, and changes the value of one that was. -/
def note (t : FirstSeen κ α) (k : κ) (fresh : α) (change : α → α) : FirstSeen κ α :=
  match t.values[k]? with
  | none => ⟨t.order.push k, t.values.insert k fresh⟩
  | some v => ⟨t.order, t.values.insert k (change v)⟩

/-- The keys in order of first appearance. -/
def keys (t : FirstSeen κ α) : List κ := t.order.toList

/-- The values, in the order of their keys. -/
def toList (t : FirstSeen κ α) : List α := t.keys.filterMap t.get?

theorem get?_note [EquivBEq κ] [LawfulHashable κ] (t : FirstSeen κ α) (k l : κ) (fresh : α)
    (change : α → α) :
    (t.note k fresh change).get? l =
      if k == l then some (((t.get? k).map change).getD fresh) else t.get? l := by
  unfold note get?
  split <;> simp_all [Std.HashMap.getElem?_insert]

theorem keys_note (t : FirstSeen κ α) (k : κ) (fresh : α) (change : α → α) :
    (t.note k fresh change).keys = if (t.get? k).isSome then t.keys else t.keys ++ [k] := by
  unfold note get? keys
  split <;> simp_all

end FirstSeen

end Glossary
