import Glossary.Json.Value
import Glossary.Proofs.Json.Count

/-!
# Members of objects

An object gives the value of a key if the key stands there once. So where all keys stand once,
every member can be found, and a key that is missing is known to be missing. A reader that takes
its values one after the other gets through when each of them is found and can be read.

## Main results

* `Value.required?_of_mem`, `Value.optional?_of_mem` — a member is found.
* `Value.bind_required?`, `Value.bind_optional?` — what is read from it is handed on.
* `Value.count?_count`, `Value.texts?_object` — counts and texts are read back.
-/

namespace Glossary.Json.Value

/-- The count that a number writes. -/
def count? : Value → Option Nat
  | .number literal => Text.decimal? literal.toList
  | _ => none

theorem count?_count (n : Nat) : (count n).count? = some n := Text.decimal?_toString n

/-- A key that does not stand in an object has no value. -/
theorem valuesOf_of_not_mem {key : String} {members : List (String × Value)}
    (h : key ∉ members.map (·.1)) : valuesOf [key] members = [] := by
  rw [valuesOf, List.map_eq_nil_iff, List.filter_eq_nil_iff]
  intro m hm hkey
  have hsame : m.1 = key := by simpa using hkey
  exact h (List.mem_map.2 ⟨m, hm, hsame⟩)

/-- Where keys stand once, a member is the only one with its key. -/
theorem valuesOf_of_mem {key : String} {v : Value} {members : List (String × Value)}
    (honce : (members.map (·.1)).Nodup) (h : (key, v) ∈ members) :
    valuesOf [key] members = [v] := by
  induction members with
  | nil => cases h
  | cons m members ih =>
      rw [List.map_cons, List.nodup_cons] at honce
      rcases List.mem_cons.1 h with rfl | h
      · have hnone := valuesOf_of_not_mem honce.1
        rw [valuesOf] at hnone ⊢
        rw [List.filter_cons_of_pos (by simp), List.map_cons, hnone]
      · have hne : m.1 ≠ key := by
          rintro rfl
          exact honce.1 (List.mem_map.2 ⟨_, h, rfl⟩)
        have hrest := ih honce.2 h
        rw [valuesOf] at hrest ⊢
        rw [List.filter_cons_of_neg (by simpa using hne), hrest]

theorem required?_of_mem {key : String} {v : Value} {members : List (String × Value)}
    (honce : (members.map (·.1)).Nodup) (h : (key, v) ∈ members) :
    required? [key] members = some v := by
  rw [required?, valuesOf_of_mem honce h]

theorem optional?_of_mem {key : String} {v : Value} {members : List (String × Value)}
    (honce : (members.map (·.1)).Nodup) (h : (key, v) ∈ members) :
    optional? [key] members = some (some v) := by
  rw [optional?, valuesOf_of_mem honce h]

theorem optional?_of_not_mem {key : String} {members : List (String × Value)}
    (h : key ∉ members.map (·.1)) : optional? [key] members = some none := by
  rw [optional?, valuesOf_of_not_mem h]

section Lookups

variable {α β : Type} {key : String} {members : List (String × Value)}

/-- What is read from a member that has to be there is handed on. -/
theorem bind_required? (read : Value → Option α) {v : Value} {a : α}
    (h : required? [key] members = some v) (hread : read v = some a) (f : α → Option β) :
    (required? [key] members >>= fun v => read v >>= f) = f a := by
  rw [h]
  show (read v >>= f) = f a
  rw [hread]
  rfl

/-- So is what is read from a member that may be missing. -/
theorem bind_optional? (read : Value → Option α) {v? : Option Value} {a? : Option α}
    (h : optional? [key] members = some v?) (hread : v?.mapM read = some a?)
    (f : Option α → Option β) :
    (optional? [key] members >>= fun v? => v?.mapM read >>= f) = f a? := by
  rw [h]
  show (v?.mapM read >>= f) = f a?
  rw [hread]
  rfl

end Lookups

/-- The members of an object. -/
def members? : Value → Option (List (String × Value))
  | .object members => some members
  | _ => none

/-- The members of an object whose values are texts. -/
def texts? (v : Value) : Option (List (String × String)) := do
  (← v.members?).mapM fun m => m.2.string?.map fun text => (m.1, text)

theorem texts?_object (pairs : List (String × String)) :
    texts? (.object (pairs.map fun p => (p.1, .string p.2))) = some pairs := by
  show (pairs.map _).mapM _ = some pairs
  induction pairs with
  | nil => rfl
  | cons p pairs ih =>
      rw [List.map_cons, List.mapM_cons, ih]
      rfl

end Glossary.Json.Value
