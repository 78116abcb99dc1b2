import Glossary.Log.Report
import Glossary.Proofs.Dictionary.Load
import Mathlib.Data.Finset.Card

/-!
# The outcome of loading

Loading takes entries one by one and stops at the first that is refused: the one
behind the last for which there is room, or one that is not sound. Room is asked for
first, and an entry that displaces another one takes room like any other. What stands
behind the refused entry is never looked at.

Where no entry is refused, each entry either finds its token new, and the table grows
by one, or displaces the entry that was there, and that is reported. So the entries in
the table and those that were displaced are together as many as were taken, and this
holds after every single one.

## Main results

* `Loading.Tallied.fill` — entries taken are in the table or displaced.
* `Store.load_of_refused` — loading stops at an entry that is refused.
* `Store.size_of_load` — the size of a store is the number of tokens.
* `Store.load_outcome` — what loading comes to.
-/

namespace Glossary

/-! ## Entries that are taken -/

namespace Loading

/-- The entries taken so far are either in the table or displaced. -/
def Tallied (l : Loading) : Prop := l.displaced.size + l.entries.size = l.count

theorem tallied_start : start.Tallied := rfl

theorem Tallied.insert {l : Loading} (h : l.Tallied) (e : Entry) : (l.insert e).Tallied := by
  have hsize : (l.insert e).entries.size =
      if e.token ∈ l.entries then l.entries.size else l.entries.size + 1 :=
    Std.HashMap.size_insert
  have hcount : (l.insert e).count = l.count + 1 := rfl
  rw [Tallied] at h ⊢
  cases hold : l.entries[e.token]? with
  | none =>
      have hnew : e.token ∉ l.entries := by simpa using hold
      have hdisplaced : (l.insert e).displaced = l.displaced := by
        simp only [Loading.insert, hold]
      rw [hdisplaced, hsize, if_neg hnew, hcount]
      omega
  | some old =>
      have hknown : e.token ∈ l.entries := by
        rw [Std.HashMap.mem_iff_isSome_getElem?, hold]
        rfl
      have hdisplaced : (l.insert e).displaced = l.displaced.push old := by
        simp only [Loading.insert, hold]
      rw [hdisplaced, hsize, if_pos hknown, hcount, Array.size_push]
      omega

/-- However far loading comes, the tally is kept. -/
theorem Tallied.fill {l : Loading} (h : l.Tallied) (es : List Entry) : (l.fill es).1.Tallied := by
  -- along the entries; where loading stops, nothing more is inserted
  induction es generalizing l with
  | nil => exact h
  | cons e es ih =>
      rw [Loading.fill]
      cases l.obstacle? e with
      | some error => exact h
      | none => exact ih (h.insert e)

theorem count_fill {l l' : Loading} {es : List Entry} (h : l.fill es = (l', none)) :
    l'.count = l.count + es.length := by
  induction es generalizing l with
  | nil =>
      obtain ⟨rfl, -⟩ := Prod.mk.inj h
      rfl
  | cons e es ih =>
      obtain ⟨-, hfill⟩ := fill_cons_eq_none_iff.1 h
      have hcount : (l.insert e).count = l.count + 1 := rfl
      rw [ih hfill, hcount, List.length_cons]
      omega

/-- Where loading stops, there is no room for all entries, or one of them is flawed. -/
theorem exists_of_fill_eq_some {l l' : Loading} {es : List Entry} {error : DictionaryError}
    (h : l.fill es = (l', some error)) :
    (error = .tooManyEntries ∧ Limits.maxEntries < l.count + es.length) ∨
      ∃ e ∈ es, ∃ flaw, e.flaw? = some flaw ∧ error = .flawed flaw := by
  induction es generalizing l with
  | nil => cases h
  | cons e es ih =>
      rw [fill] at h
      cases hobstacle : l.obstacle? e with
      | none =>
          rw [hobstacle] at h
          have hcount : (l.insert e).count = l.count + 1 := rfl
          rcases ih h with ⟨herror, hroom⟩ | ⟨f, hf, hflaw⟩
          · refine .inl ⟨herror, ?_⟩
            rw [hcount] at hroom
            rw [List.length_cons]
            omega
          · exact .inr ⟨f, List.mem_cons_of_mem e hf, hflaw⟩
      | some stopped =>
          rw [hobstacle] at h
          obtain ⟨-, rfl⟩ : l = l' ∧ stopped = error := by simpa using h
          rw [obstacle?] at hobstacle
          by_cases hfull : Limits.maxEntries ≤ l.count
          · rw [if_pos hfull] at hobstacle
            refine .inl ⟨(Option.some.inj hobstacle).symm, ?_⟩
            rw [List.length_cons]
            omega
          · rw [if_neg hfull] at hobstacle
            obtain ⟨flaw, hflaw, rfl⟩ := Option.map_eq_some_iff.1 hobstacle
            exact .inr ⟨e, by simp, flaw, hflaw, rfl⟩

end Loading

namespace Store

/-! ## Entries that are refused -/

/-- Why an entry is refused behind so many others. -/
def refusal? (taken : Nat) (e : Entry) : Option DictionaryError :=
  if Limits.maxEntries ≤ taken then some .tooManyEntries else e.flaw?.map .flawed

/-- Loading stops at an entry that is refused, whatever stands behind it. -/
theorem load_of_refused {before : List Entry} (hroom : before.length ≤ Limits.maxEntries)
    (hsound : ∀ e ∈ before, e.Sound) {e : Entry} {error : DictionaryError}
    (h : refusal? before.length e = some error) (after : List Entry) :
    load (before ++ e :: after) = .error error := by
  have hlength : Loading.start.count + before.length ≤ Limits.maxEntries := by
    show 0 + before.length ≤ Limits.maxEntries
    omega
  obtain ⟨l, hfill⟩ := (Loading.exists_fill_iff (Nat.zero_le _)).2 ⟨hlength, hsound⟩
  have hcount : l.count = before.length := by
    rw [Loading.count_fill hfill]
    exact Nat.zero_add _
  have hobstacle : l.obstacle? e = some error := by
    rw [Loading.obstacle?, hcount]
    exact h
  have hstopped : Loading.start.fill (before ++ e :: after) = (l, some error) := by
    rw [Loading.fill_append, hfill]
    simp only [Loading.fill, hobstacle]
  rw [load, hstopped]

/-- Loading that fails names what was in the way: there is no room for all entries, or one of
them is flawed. -/
theorem exists_of_load_eq_error {es : List Entry} {error : DictionaryError}
    (h : load es = .error error) :
    (error = .tooManyEntries ∧ Limits.maxEntries < es.length) ∨
      ∃ e ∈ es, ∃ flaw, e.flaw? = some flaw ∧ error = .flawed flaw := by
  rw [load] at h
  cases hfill : Loading.start.fill es with
  | mk l error? =>
      rw [hfill] at h
      cases error? with
      | none => cases h
      | some stopped =>
          obtain rfl := Except.error.inj h
          simpa [Loading.start] using Loading.exists_of_fill_eq_some hfill

/-- The entry at a place is refused: it is one more than there is room for, or it is flawed. -/
def Refused (es : List Entry) (k : Nat) : Prop :=
  ∃ e, es[k]? = some e ∧ (k = Limits.maxEntries ∨ e.flaw?.isSome)

variable {es : List Entry}

theorem sound_of_not_refused {k : Nat} (h : ¬Refused es k) {e : Entry} (he : es[k]? = some e) :
    e.Sound := by
  rw [← Entry.flaw?_eq_none_iff, ← Option.not_isSome_iff_eq_none]
  intro hflaw
  exact h ⟨e, he, .inr hflaw⟩

/-- Where none of the first entries is refused, there is room for them. -/
theorem length_le_of_not_refused {n : Nat} (hn : n ≤ es.length) (h : ∀ k < n, ¬Refused es k) :
    n ≤ Limits.maxEntries := by
  by_contra hover
  have hroom : Limits.maxEntries < es.length := by omega
  apply h Limits.maxEntries (by omega)
  exact ⟨es[Limits.maxEntries], List.getElem?_eq_getElem hroom, .inl rfl⟩

/-- No entry is refused where all are sound and there is room for them. -/
theorem forall_not_refused_iff :
    (∀ k, ¬Refused es k) ↔ es.length ≤ Limits.maxEntries ∧ ∀ e ∈ es, e.Sound := by
  constructor
  · intro h
    refine ⟨length_le_of_not_refused le_rfl fun k _ => h k, ?_⟩
    intro e he
    obtain ⟨k, hk⟩ := List.mem_iff_getElem?.1 he
    exact sound_of_not_refused (h k) hk
  · rintro ⟨hroom, hsound⟩ k ⟨e, he, hfull | hflaw⟩
    · obtain ⟨hk, -⟩ := List.getElem?_eq_some_iff.1 he
      omega
    · have hnone := Entry.flaw?_eq_none_iff.2 (hsound e (List.mem_of_getElem? he))
      rw [hnone] at hflaw
      cases hflaw

/-- The first entry that is refused decides what loading fails with. -/
theorem load_of_first_refused {k : Nat} {e : Entry} (he : es[k]? = some e)
    (hfirst : ∀ j < k, ¬Refused es j) {error : DictionaryError} (h : refusal? k e = some error) :
    load es = .error error := by
  obtain ⟨hk, hget⟩ := List.getElem?_eq_some_iff.1 he
  have hsplit : es.take k ++ e :: es.drop (k + 1) = es := by
    rw [← hget, List.getElem_cons_drop, List.take_append_drop]
  have hlength : (es.take k).length = k := by
    rw [List.length_take]
    omega
  have hsound : ∀ f ∈ es.take k, f.Sound := by
    intro f hf
    obtain ⟨j, hj, rfl⟩ := List.mem_take_iff_getElem.1 hf
    exact sound_of_not_refused (hfirst j (by omega)) (List.getElem?_eq_getElem _)
  have hroom : (es.take k).length ≤ Limits.maxEntries := by
    rw [hlength]
    exact length_le_of_not_refused hk.le hfirst
  rw [← hsplit]
  exact load_of_refused hroom hsound (by rw [hlength, h]) _

/-! ## Stores that are loaded -/

/-- The size of a store is the number of its tokens. -/
theorem size_of_load {es : List Entry} {s : Store} (h : load es = .ok s) :
    s.size = (es.map (·.token)).toFinset.card := by
  -- the keys are distinct, and they are the tokens for which something is found
  have hkeys : s.entries.keys.toFinset = (es.map (·.token)).toFinset := by
    ext token
    have hfind := find?_load h token
    rw [List.mem_toFinset, List.mem_toFinset, Std.HashMap.mem_keys,
      Std.HashMap.mem_iff_isSome_getElem?]
    show (s.find? token).isSome = true ↔ _
    rw [hfind, List.find?_isSome]
    simp
  rw [← hkeys, List.toFinset_card_of_nodup Std.HashMap.nodup_keys, Std.HashMap.length_keys, size]

/-- The entries that are displaced and those that stay are together as many as were loaded. -/
theorem length_displaced_of_load {es : List Entry} {s : Store} (h : load es = .ok s) :
    (displaced es).length + s.size = es.length := by
  obtain ⟨l, hfill, rfl⟩ := load_eq_ok_iff.1 h
  have htally := Loading.tallied_start.fill es
  rw [hfill, Loading.Tallied, Loading.count_fill hfill] at htally
  rw [displaced, hfill, Array.length_toList, size]
  exact htally.trans (Nat.zero_add _)

/-- Whether an event is shown and reports a duplicate. -/
def showsDuplicate (v : Verbosity) (event : Event) : Bool :=
  v.shows event.level && event.code == .duplicateEntry

/-- Where details are shown, loading reports the entries that it displaces. -/
theorem countP_showsDuplicate {v : Verbosity} (hv : v.shows .debug = true) (es : List Entry) :
    (Report.load es).countP (showsDuplicate v) = (displaced es).length := by
  have hduplicate : ∀ context, showsDuplicate v (.debug (some .duplicateEntry)
      "Duplicate dictionary token overwritten" context) = true := by
    intro context
    simp [showsDuplicate, Event.debug, Event.make, hv]
  have hloaded : ∀ context, showsDuplicate v (.success .dictionaryLoaded
      "Dictionary loaded" context) = false := by
    intro context
    have hcode : (Code.dictionaryLoaded == Code.duplicateEntry) = false := by decide
    simp [showsDuplicate, Event.success, Event.make, hcode]
  rw [Report.load, List.countP_append, List.countP_map]
  have hall : (displaced es).countP (showsDuplicate v ∘ fun e =>
      .debug (some .duplicateEntry) "Duplicate dictionary token overwritten"
        [("token", e.token), ("previous_category", e.category.name)]) = (displaced es).length := by
    rw [List.countP_eq_length]
    intro e _
    exact hduplicate _
  rw [hall]
  cases load es with
  | error error => rfl
  | ok s => simp [hloaded]

/-- Loading fails at the first entry that is refused, for want of room or with the flaw of that
entry. If none is refused, the store answers with the last entry for each token, it shadows nothing
and holds as many entries as there are tokens, and every other entry is reported as overwritten. -/
theorem load_outcome (es : List Entry) :
    (∀ k e, es[k]? = some e → Refused es k → (∀ j < k, ¬Refused es j) →
      (k = Limits.maxEntries → load es = .error .tooManyEntries) ∧
      (k ≠ Limits.maxEntries →
        ∃ flaw, e.flaw? = some flaw ∧ load es = .error (.flawed flaw))) ∧
    ((∀ k, ¬Refused es k) →
      ∃ s, load es = .ok s ∧
        (∀ token, s.find? token = (es.filter (·.token == token)).getLast?) ∧
        s.size = (es.map (·.token)).toFinset.card ∧ s.shadowed = [] ∧
        ∀ v : Verbosity, v.shows .debug = true →
          (Report.load es).countP (showsDuplicate v) + s.size = es.length) := by
  constructor
  · intro k e he hrefused hfirst
    have hroom : k ≤ Limits.maxEntries := by
      obtain ⟨hk, -⟩ := List.getElem?_eq_some_iff.1 he
      exact length_le_of_not_refused hk.le hfirst
    constructor
    · intro hfull
      apply load_of_first_refused he hfirst
      exact if_pos hfull.ge
    · intro hleft
      obtain ⟨f, hf, hcause⟩ := hrefused
      obtain rfl : e = f := Option.some.inj (he.symm.trans hf)
      obtain ⟨flaw, hflaw⟩ := Option.isSome_iff_exists.1 (hcause.resolve_left hleft)
      refine ⟨flaw, hflaw, load_of_first_refused he hfirst ?_⟩
      rw [refusal?, if_neg (by omega), hflaw]
      rfl
  · intro hnone
    obtain ⟨s, hs⟩ := exists_load_iff.2 (forall_not_refused_iff.1 hnone)
    refine ⟨s, hs, ?_, size_of_load hs, shadowed_of_load hs, ?_⟩
    · intro token
      rw [find?_load hs, List.getLast?_filter]
    · intro v hv
      rw [countP_showsDuplicate hv]
      exact length_displaced_of_load hs

/-- A keyword that can be loaded. -/
def plainEntry : Entry := ⟨"x", .keyword, "d", none⟩

theorem sound_plainEntry : plainEntry.Sound :=
  Entry.flaw?_eq_none_iff.1 (by decide)

/-- A list that explains one token twice. -/
def explainedTwice : List Entry :=
  [plainEntry, ⟨"y", .operator, "d", none⟩, ⟨"x", .builtinType, "e", none⟩]

theorem load_outcome_plainEntry :
    load [plainEntry, ⟨"", .keyword, "d", none⟩, plainEntry] = .error (.flawed .emptyToken) ∧
    load (List.replicate (Limits.maxEntries + 1) plainEntry) = .error .tooManyEntries ∧
    ∃ s, load explainedTwice = .ok s ∧
      s.find? "x" = some ⟨"x", .builtinType, "e", none⟩ ∧ s.size = 2 ∧
      (Report.load explainedTwice).countP (showsDuplicate .debug) + 2 = 3 := by
  refine ⟨?_, ?_, ?_⟩
  · have hfirst : ∀ j < 1, ¬Refused [plainEntry, ⟨"", .keyword, "d", none⟩, plainEntry] j := by
      intro j hj
      obtain rfl : j = 0 := by omega
      rintro ⟨e, he, hfull | hflaw⟩
      · exact absurd hfull (by decide)
      · obtain rfl := Option.some.inj he
        exact absurd hflaw (by decide)
    have hleft : (1 : Nat) ≠ Limits.maxEntries := by decide
    obtain ⟨flaw, hflaw, hload⟩ := ((load_outcome _).1 1 ⟨"", .keyword, "d", none⟩ rfl
      ⟨_, rfl, .inr (by decide)⟩ hfirst).2 hleft
    obtain rfl : EntryFlaw.emptyToken = flaw := Option.some.inj hflaw
    exact hload
  · have hget : (List.replicate (Limits.maxEntries + 1) plainEntry)[Limits.maxEntries]? =
        some plainEntry := by
      rw [List.getElem?_replicate, if_pos (Nat.lt_succ_self _)]
    apply ((load_outcome _).1 Limits.maxEntries plainEntry hget ⟨_, hget, .inl rfl⟩ ?_).1 rfl
    rintro j hj ⟨e, he, hfull | hflaw⟩
    · omega
    · obtain rfl := List.eq_of_mem_replicate (List.mem_of_getElem? he)
      rw [Entry.flaw?_eq_none_iff.2 sound_plainEntry] at hflaw
      cases hflaw
  · have hsound : ∀ e ∈ explainedTwice, e.Sound := by
      intro e he
      rw [← Entry.flaw?_eq_none_iff]
      revert e
      decide
    obtain ⟨s, hs, hfind, hsize, -, hreports⟩ :=
      (load_outcome explainedTwice).2 (forall_not_refused_iff.2 ⟨by decide, hsound⟩)
    have htwo : s.size = 2 := by
      rw [hsize]
      decide
    refine ⟨s, hs, ?_, htwo, ?_⟩
    · rw [hfind]
      decide
    · rw [← htwo]
      exact hreports .debug rfl

end Store

end Glossary
