import Glossary.Log.Event
import Glossary.Proofs.Distinct
import Mathlib.Data.String.Basic

/-!
# What the context of an event holds

Pairs are put into the context of an event one after the other. A context has room for
so many keys only: a new key is dropped when it is full, but a key that it holds is
given its new value all the same. So which keys are held is decided by the order in
which they first come, and which values by the order in which they come last.

The context is kept in the order of its keys, and an event is written in this order.

## Main results

* `Context.ascending_insert` — setting a value keeps the order of the keys.
* `Context.KeepsFirst.put` — what one more pair does to a context.
* `Context.keepsFirst_putAll` — what a context holds after some pairs.
* `Event.context_of_calls` — the same for events, and how they are written.
-/

namespace Glossary

namespace Context

/-! ## Keys in order -/

/-- The keys of a context. -/
def keys (c : Context) : List String := c.map Prod.fst

/-- The keys ascend strictly. -/
def Ascending (c : Context) : Prop := c.keys.Pairwise (· < ·)

theorem Ascending.nodup {c : Context} (h : c.Ascending) : c.keys.Nodup :=
  h.imp fun hlt => ne_of_lt hlt

theorem mem_keys_insert {key value k : String} {c : Context} :
    k ∈ (insert key value c).keys ↔ k = key ∨ k ∈ c.keys := by
  fun_induction insert key value c with
  | case1 => simp [keys]
  | case2 l v rest h => simp [keys]
  | case3 l v rest h =>
      obtain rfl := Std.LawfulEqOrd.eq_of_compare h
      simp [keys]
  | case4 l v rest h ih =>
      simp only [keys, List.map_cons, List.mem_cons] at ih ⊢
      rw [ih]
      tauto

/-- Setting a value keeps the order of the keys. -/
theorem ascending_insert {c : Context} (h : c.Ascending) (key value : String) :
    (insert key value c).Ascending := by
  fun_induction insert key value c with
  | case1 => exact List.pairwise_singleton _ _
  | case2 l v rest hcompare =>
      have hlt : key < l := compare_lt_iff_lt.1 hcompare
      refine List.Pairwise.cons ?_ h
      intro k hk
      rcases List.mem_cons.1 hk with rfl | hk
      · exact hlt
      · exact lt_trans hlt (List.rel_of_pairwise_cons h hk)
  | case3 l v rest hcompare =>
      obtain rfl := Std.LawfulEqOrd.eq_of_compare hcompare
      exact h
  | case4 l v rest hcompare ih =>
      have hlt : l < key := compare_gt_iff_gt.1 hcompare
      refine List.Pairwise.cons ?_ (ih h.of_cons)
      intro k hk
      rcases mem_keys_insert.1 hk with rfl | hk
      · exact hlt
      · exact List.rel_of_pairwise_cons h hk

/-! ## Pairs that come one after the other -/

/-- The first distinct keys of some pairs, as many as a context has room for. -/
def firstKeys (pairs : List (String × String)) : List String :=
  (pairs.map Prod.fst).eraseDups.take Limits.maxContextEntries

/-- The last value of a key in some pairs. -/
def lastValue? (pairs : List (String × String)) (key : String) : Option String :=
  pairs.reverse.lookup key

theorem nodup_firstKeys (pairs : List (String × String)) : (firstKeys pairs).Nodup :=
  (nodup_eraseDups _).sublist (List.take_sublist _ _)

/-- One more pair brings its key if there is room for it. -/
theorem mem_firstKeys_concat {pairs : List (String × String)} {p : String × String} {k : String} :
    k ∈ firstKeys (pairs ++ [p]) ↔ k ∈ firstKeys pairs ∨
      k = p.1 ∧ (firstKeys pairs).length < Limits.maxContextEntries := by
  have htake := take_eraseDups_concat (pairs.map Prod.fst) Limits.maxContextEntries p.1
  rw [firstKeys, List.map_append, List.map_singleton, htake]
  show k ∈ ite (p.1 ∈ firstKeys pairs ∨ _ ≤ (firstKeys pairs).length) _ _ ↔ _
  split
  · next hfull =>
      constructor
      · exact .inl
      · rintro (hk | ⟨rfl, hlt⟩)
        · exact hk
        · exact hfull.resolve_right (Nat.not_le.2 hlt)
  · next hroom =>
      rw [not_or, Nat.not_le] at hroom
      rw [List.mem_append, List.mem_singleton]
      simp only [hroom.2, and_true]
      rfl

theorem lastValue?_concat (pairs : List (String × String)) (p : String × String) (k : String) :
    lastValue? (pairs ++ [p]) k = if k == p.1 then some p.2 else lastValue? pairs k := by
  rw [lastValue?, List.reverse_append, List.reverse_singleton, List.singleton_append,
    List.lookup_cons, lastValue?]
  split <;> simp_all

/-- The context holds the first keys of some pairs, in ascending order, each with its last
value. -/
structure KeepsFirst (c : Context) (pairs : List (String × String)) : Prop where
  ascending : c.Ascending
  mem_keys : ∀ k, k ∈ c.keys ↔ k ∈ firstKeys pairs
  lookup_eq : ∀ k, c.lookup k = if k ∈ firstKeys pairs then lastValue? pairs k else none

theorem KeepsFirst.perm {c : Context} {pairs : List (String × String)} (h : c.KeepsFirst pairs) :
    c.keys.Perm (firstKeys pairs) :=
  (List.perm_ext_iff_of_nodup h.ascending.nodup (nodup_firstKeys pairs)).2 h.mem_keys

theorem keepsFirst_nil : KeepsFirst [] [] where
  ascending := .nil
  mem_keys k := by simp [keys, firstKeys]
  lookup_eq k := by simp [firstKeys]

theorem any_key_iff {c : Context} {key : String} : c.any (·.1 == key) = true ↔ key ∈ c.keys := by
  simp [keys]

/-- One more pair changes a context as it changes the first keys and the last values. -/
theorem KeepsFirst.put {c : Context} {pairs : List (String × String)} (h : c.KeepsFirst pairs)
    (p : String × String) : (c.put p.1 p.2).KeepsFirst (pairs ++ [p]) := by
  have hlength : c.length = (firstKeys pairs).length := by
    rw [← h.perm.length_eq, keys, List.length_map]
  have hheld : c.any (·.1 == p.1) = true ↔ p.1 ∈ firstKeys pairs :=
    any_key_iff.trans (h.mem_keys p.1)
  unfold Context.put
  rw [hlength]
  split
  · next hput =>
      -- the key is held, or there is room for it
      rw [hheld] at hput
      have hkey : p.1 ∈ firstKeys (pairs ++ [p]) := by
        rw [mem_firstKeys_concat]
        exact hput.symm.imp_right fun hroom => ⟨rfl, hroom⟩
      have hother : ∀ k, k ≠ p.1 → (k ∈ firstKeys (pairs ++ [p]) ↔ k ∈ firstKeys pairs) := by
        intro k hne
        simp [mem_firstKeys_concat, hne]
      refine ⟨ascending_insert h.ascending _ _, ?_, ?_⟩
      · intro k
        rw [mem_keys_insert, h.mem_keys]
        by_cases hk : k = p.1
        · simp [hk, hkey]
        · simp [hk, hother k hk]
      · intro k
        rw [lookup_insert, lastValue?_concat, h.lookup_eq]
        by_cases hk : k = p.1
        · simp [hk, hkey]
        · simp [hk, hother k hk]
  · next hdropped =>
      rw [hheld, not_or] at hdropped
      have hsame : ∀ k, k ∈ firstKeys (pairs ++ [p]) ↔ k ∈ firstKeys pairs := by
        intro k
        simp [mem_firstKeys_concat, hdropped.1]
      refine ⟨h.ascending, ?_, ?_⟩
      · intro k
        rw [h.mem_keys, hsame]
      · intro k
        rw [h.lookup_eq, lastValue?_concat]
        simp only [hsame]
        by_cases hk : k = p.1
        · simp [hk, hdropped.2]
        · simp [hk]

/-- What a context holds after some pairs. -/
theorem keepsFirst_putAll (pairs : List (String × String)) :
    (putAll [] pairs).KeepsFirst pairs := by
  induction pairs using List.reverseRecOn with
  | nil => exact keepsFirst_nil
  | append_singleton pairs p ih =>
      rw [putAll, List.foldl_append]
      exact ih.put p

end Context

namespace Event

/-- The event with one more pair of context. -/
def withContext (e : Event) (p : String × String) : Event :=
  { e with context := e.context.put p.1 p.2 }

theorem foldl_withContext (e : Event) (pairs : List (String × String)) :
    pairs.foldl withContext e = { e with context := e.context.putAll pairs } := by
  induction pairs generalizing e with
  | nil => rfl
  | cons p pairs ih => exact ih (e.withContext p)

/-- Some pairs are given to a fresh event, one after the other. The event is the one that is made
with them at once. It holds the first distinct keys of the pairs, as many as there is room for,
and each key has the last value that any of the pairs gives it. The text of the event lists them
behind its message and place, in strictly ascending order of the keys. -/
theorem context_of_calls (level : LogLevel) (code : Code) (message : String)
    (place? : Option Span) (pairs : List (String × String)) :
    let e := pairs.foldl withContext { make level code message [] with span? := place? }
    let place := (place?.map fun s => s!" at {s.start.display}").getD ""
    e = { make level code message pairs with span? := place? } ∧
    e.context.keys.Perm (Context.firstKeys pairs) ∧
    (∀ key, e.context.lookup key =
      if key ∈ Context.firstKeys pairs then Context.lastValue? pairs key else none) ∧
    e.context.keys.Pairwise (· < ·) ∧
    e.text = s!"[{level.name}] {code.text} - {truncate message}{place}" ++
      String.join (e.context.map fun p => s!" {p.1}={p.2}") := by
  have hkeeps := Context.keepsFirst_putAll pairs
  dsimp only
  rw [foldl_withContext]
  exact ⟨rfl, hkeeps.perm, hkeeps.lookup_eq, hkeeps.ascending, rfl⟩

/-- A key that comes again has its new value, and stands where it belongs. -/
example : Context.putAll [] [("token", "if"), ("file", "a.py"), ("token", "for")] =
    [("file", "a.py"), ("token", "for")] := by
  decide

end Event

end Glossary
