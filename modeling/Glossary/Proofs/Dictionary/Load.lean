import Glossary.Proofs.Dictionary.Order
import Glossary.Store

/-!
# What loading takes in

Entries are loaded when each is sound and there are not too many of them. Of the
entries with one token a loaded store has the last. So a store that was loaded
from entries with distinct tokens has exactly these entries, and the list of its
entries, in whatever order the table yields them, is a permutation of what it was
loaded from.

## Main results

* `Loading.getElem?_fill` — the last entry for a token wins.
* `Store.exists_load_iff` — which entries are loaded.
* `Store.find?_load` — what a loaded store answers.
* `Store.toList_perm_of_load` — the entries of a loaded store.
-/

namespace Glossary

/-! ## Taking entries in -/

namespace Loading

/-- Loading goes on to the end when nothing is in the way of the first entry,
nor of the others after it. -/
theorem fill_cons_eq_none_iff {l l' : Loading} {e : Entry} {es : List Entry} :
    l.fill (e :: es) = (l', none) ↔
      l.obstacle? e = none ∧ (l.insert e).fill es = (l', none) := by
  rw [fill]
  cases l.obstacle? e with
  | none => simp
  | some error => simp

/-- Nothing is in the way of a sound entry while there is room for it. -/
theorem obstacle?_eq_none_iff {l : Loading} {e : Entry} :
    l.obstacle? e = none ↔ l.count < Limits.maxEntries ∧ e.Sound := by
  rw [obstacle?, Entry.ite_eq_right_iff_of_ne (Option.some_ne_none _), Option.map_eq_none_iff,
    Entry.flaw?_eq_none_iff, Nat.not_le]

/-- Loading goes on to the end when there is room for all entries and all are sound. -/
theorem exists_fill_iff {l : Loading} (h : l.count ≤ Limits.maxEntries) {es : List Entry} :
    (∃ l', l.fill es = (l', none)) ↔
      l.count + es.length ≤ Limits.maxEntries ∧ ∀ e ∈ es, e.Sound := by
  induction es generalizing l with
  | nil => simp [fill, h]
  | cons e es ih =>
      have hcount : (l.insert e).count = l.count + 1 := rfl
      simp only [fill_cons_eq_none_iff, exists_and_left, obstacle?_eq_none_iff,
        List.forall_mem_cons, List.length_cons]
      constructor
      · rintro ⟨⟨hroom, hsound⟩, hfill⟩
        obtain ⟨hlength, hall⟩ := (ih (hcount ▸ hroom)).1 hfill
        exact ⟨by omega, hsound, hall⟩
      · rintro ⟨hlength, hsound, hall⟩
        have hroom : l.count < Limits.maxEntries := by omega
        exact ⟨⟨hroom, hsound⟩, (ih (hcount ▸ hroom)).2 ⟨by omega, hall⟩⟩

/-- The last entry for a token wins, and what was there before stays otherwise. -/
theorem getElem?_fill {l l' : Loading} {es : List Entry} (h : l.fill es = (l', none))
    (token : String) :
    l'.entries[token]? = (es.reverse.find? (·.token == token)).or l.entries[token]? := by
  induction es generalizing l with
  | nil =>
      obtain ⟨rfl, -⟩ := Prod.mk.inj h
      rfl
  | cons e es ih =>
      obtain ⟨-, hfill⟩ := fill_cons_eq_none_iff.1 h
      have hinsert : (l.insert e).entries[token]? =
          ([e].find? (·.token == token)).or l.entries[token]? := by
        show (l.entries.insert e.token e)[token]? = _
        rw [Std.HashMap.getElem?_insert, List.find?_singleton]
        by_cases ht : e.token = token
        · simp [ht]
        · simp [ht]
      rw [ih hfill, hinsert, List.reverse_cons, List.find?_append, Option.or_assoc]

end Loading

/-! ## Loaded stores -/

namespace Store

theorem load_eq_ok_iff {es : List Entry} {s : Store} :
    load es = .ok s ↔ ∃ l, Loading.start.fill es = (l, none) ∧ s = ⟨l.entries, []⟩ := by
  rw [load]
  cases hfill : Loading.start.fill es with
  | mk l error? =>
      cases error? with
      | none =>
          simp only [Except.ok.injEq, Prod.mk.injEq, and_true, exists_eq_left']
          exact eq_comm
      | some error => simp

/-- Loading entries shadows nothing. -/
theorem shadowed_of_load {es : List Entry} {s : Store} (h : load es = .ok s) :
    s.shadowed = [] := by
  obtain ⟨l, -, rfl⟩ := load_eq_ok_iff.1 h
  rfl

theorem ofJson_eq_ok_iff {text : String} {s : Store} :
    ofJson text = .ok s ↔ ∃ es, Entry.readList? text = some es ∧ load es = .ok s := by
  rw [ofJson]
  cases Entry.readList? text with
  | none => simp
  | some es => simp

/-- Entries are loaded when each is sound and there are not too many of them. -/
theorem exists_load_iff {es : List Entry} :
    (∃ s, load es = .ok s) ↔ es.length ≤ Limits.maxEntries ∧ ∀ e ∈ es, e.Sound := by
  have hfill : (∃ s, load es = .ok s) ↔ ∃ l, Loading.start.fill es = (l, none) := by
    constructor
    · rintro ⟨s, hs⟩
      obtain ⟨l, hl, -⟩ := load_eq_ok_iff.1 hs
      exact ⟨l, hl⟩
    · rintro ⟨l, hl⟩
      exact ⟨_, load_eq_ok_iff.2 ⟨l, hl, rfl⟩⟩
  rw [hfill, Loading.exists_fill_iff (Nat.zero_le _)]
  simp [Loading.start]

/-- A loaded store answers with the last entry for a token. -/
theorem find?_load {es : List Entry} {s : Store} (h : load es = .ok s) (token : String) :
    s.find? token = es.reverse.find? (·.token == token) := by
  obtain ⟨l, hfill, rfl⟩ := load_eq_ok_iff.1 h
  show l.entries[token]? = _
  rw [Loading.getElem?_fill hfill]
  show Option.or _ (∅ : Std.HashMap String Entry)[token]? = _
  rw [Std.HashMap.getElem?_empty, Option.or_none]

/-- Every entry of the table stands under its own token. -/
def Keyed (s : Store) : Prop := ∀ token e, s.find? token = some e → e.token = token

theorem keyed_of_load {es : List Entry} {s : Store} (h : load es = .ok s) : s.Keyed := by
  intro token e he
  rw [find?_load h] at he
  simpa using List.find?_some he

theorem Keyed.mem_toList_iff {s : Store} (h : s.Keyed) {e : Entry} :
    e ∈ s.toList ↔ s.find? e.token = some e := by
  rw [toList, List.mem_map]
  constructor
  · rintro ⟨⟨token, f⟩, hmem, rfl⟩
    have hfind : s.find? token = some f :=
      Std.HashMap.mem_toList_iff_getElem?_eq_some.1 hmem
    rw [h token f hfind]
    exact hfind
  · intro hfind
    exact ⟨(e.token, e), Std.HashMap.mem_toList_iff_getElem?_eq_some.2 hfind, rfl⟩

/-- The entries of a store have tokens of their own, because its keys are distinct. -/
theorem Keyed.distinctTokens_toList {s : Store} (h : s.Keyed) : DistinctTokens s.toList := by
  have htokens : s.toList.map (·.token) = s.entries.keys := by
    rw [← Std.HashMap.map_fst_toList_eq_keys, toList, List.map_map]
    apply List.map_congr_left
    rintro ⟨token, e⟩ hmem
    exact h token e (Std.HashMap.mem_toList_iff_getElem?_eq_some.1 hmem)
  rw [DistinctTokens, htokens]
  exact Std.HashMap.nodup_keys

/-- A store that is loaded from entries with distinct tokens answers with these. -/
theorem find?_load_iff {es : List Entry} {s : Store} (h : load es = .ok s)
    (hd : DistinctTokens es) {token : String} {e : Entry} :
    s.find? token = some e ↔ e ∈ es ∧ e.token = token := by
  rw [find?_load h]
  constructor
  · intro hfind
    exact ⟨List.mem_reverse.1 (List.mem_of_find?_eq_some hfind), by
      simpa using List.find?_some hfind⟩
  · rintro ⟨hmem, rfl⟩
    cases hfind : es.reverse.find? (·.token == e.token) with
    | none =>
        have hnone := List.find?_eq_none.1 hfind e (List.mem_reverse.2 hmem)
        simp at hnone
    | some f =>
        have hf : f ∈ es := List.mem_reverse.1 (List.mem_of_find?_eq_some hfind)
        have htoken : f.token = e.token := by simpa using List.find?_some hfind
        rw [hd.eq_of_token_eq hf hmem htoken]

/-- A store that is loaded from entries with distinct tokens has these entries. -/
theorem toList_perm_of_load {es : List Entry} {s : Store} (h : load es = .ok s)
    (hd : DistinctTokens es) : s.toList.Perm es := by
  have hkeyed := keyed_of_load h
  have hstore : s.toList.Nodup := List.Nodup.of_map _ hkeyed.distinctTokens_toList
  rw [List.perm_ext_iff_of_nodup hstore (List.Nodup.of_map _ hd)]
  intro e
  rw [hkeyed.mem_toList_iff, find?_load_iff h hd]
  exact and_iff_left rfl

end Store

end Glossary
