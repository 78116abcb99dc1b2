import Glossary.Proofs.Dictionary.Sections
import Glossary.Proofs.Text.ByteOrder

/-!
# One order for all lists

The table of a store yields its entries in any order, and yet what is shown of a
store is always the same. This rests on the order of tokens: it compares the bytes
of the small-letter forms, where many tokens meet, and then the bytes of the tokens
themselves, where no two do. So it is total, and only equal tokens tie.

Entries with distinct tokens then have one ascending arrangement, whichever way they
are sorted, and the sorted entries and the document of a store depend on nothing but
what the store answers and shadows.

## Main results

* `compareTokens_eq_bytes` — tokens are compared by bytes.
* `totallyOrders_compareTokens` — they are in a total order.
* `sortEntries_eq_iff` — a sorted list is the only arrangement that ascends.
* `compareTokens_settles_lists` — no list hangs on the order in which entries come.
-/

namespace Glossary

/-! ## A total order -/

/-- A comparison is a total order in which only equal things tie. -/
structure TotallyOrders {α : Type} (cmp : α → α → Ordering) : Prop where
  eq_iff : ∀ a b, cmp a b = .eq ↔ a = b
  swap : ∀ a b, cmp b a = (cmp a b).swap
  total : ∀ a b, (cmp a b).isLE = true ∨ (cmp b a).isLE = true
  antisymm : ∀ a b, (cmp a b).isLE = true → (cmp b a).isLE = true → a = b
  le_trans : ∀ a b c, (cmp a b).isLE = true → (cmp b c).isLE = true → (cmp a c).isLE = true
  lt_trans : ∀ a b c, cmp a b = .lt → cmp b c = .lt → cmp a c = .lt

/-- Tokens are compared by the bytes of their small-letter forms, and then by their own. -/
theorem compareTokens_eq_bytes (a b : String) :
    compareTokens a b =
      (compare (Text.bytes (Text.lowercase a.toList)) (Text.bytes (Text.lowercase b.toList))).then
        (compare (Text.bytes a.toList) (Text.bytes b.toList)) := by
  rw [Text.compare_bytes, Text.compare_bytes, compareTokens]

theorem totallyOrders_compareTokens : TotallyOrders compareTokens where
  eq_iff _ _ := compareTokens_eq_iff
  swap _ _ := Std.OrientedCmp.eq_swap
  total a b := by
    have hswap : compareTokens b a = (compareTokens a b).swap := Std.OrientedCmp.eq_swap
    rw [hswap]
    cases compareTokens a b with
    | lt => exact .inl rfl
    | eq => exact .inl rfl
    | gt => exact .inr rfl
  antisymm _ _ hab hba := compareTokens_eq_iff.1 (Std.OrientedCmp.isLE_antisymm hab hba)
  le_trans _ _ _ hab hbc := Std.TransCmp.isLE_trans hab hbc
  lt_trans _ _ _ hab hbc := Std.TransCmp.lt_trans hab hbc

/-! ## One ascending arrangement -/

/-- Of entries with distinct tokens the sorted list is the only arrangement that ascends. -/
theorem sortEntries_eq_iff {es fs : List Entry} (h : DistinctTokens es) :
    sortEntries es = fs ↔
      fs.Perm es ∧ fs.Pairwise fun e f => (compareTokens e.token f.token).isLE = true := by
  constructor
  · rintro rfl
    exact ⟨sortEntries_perm es, sortEntries_pairwise es⟩
  · rintro ⟨hperm, hascends⟩
    rw [← sortEntries_of_pairwise hascends]
    exact sortEntries_eq_of_perm h hperm.symm

namespace Store

/-- The entries that can be looked up, each of them once, in any order. -/
def Lists (s : Store) (es : List Entry) : Prop :=
  es.Nodup ∧ ∀ e, e ∈ es ↔ s.find? e.token = some e

/-- The table yields its entries in one such order, and the others rearrange it. -/
theorem Made.lists_iff {s : Store} (h : s.Made) {es : List Entry} :
    s.Lists es ↔ es.Perm s.toList := by
  have hnodup : s.toList.Nodup := List.Nodup.of_map _ h.keyed.distinctTokens_toList
  constructor
  · rintro ⟨hes, hmem⟩
    rw [List.perm_ext_iff_of_nodup hes hnodup]
    intro e
    rw [hmem, h.keyed.mem_toList_iff]
  · intro hperm
    refine ⟨hperm.nodup_iff.2 hnodup, fun e => ?_⟩
    rw [hperm.mem_iff, h.keyed.mem_toList_iff]

theorem Made.sortEntries_of_lists {s : Store} (h : s.Made) {es : List Entry} (hes : s.Lists es) :
    sortEntries es = s.sorted :=
  (sortEntries_eq_of_perm h.keyed.distinctTokens_toList (h.lists_iff.1 hes).symm).symm

theorem Made.ofEntries_of_lists {s : Store} (h : s.Made) {es : List Entry} (hes : s.Lists es)
    (title : String) : Document.ofEntries title (es ++ s.shadowed) = s.document title :=
  (Document.ofEntries_eq_of_perm title h.distinctTokens_select
    ((h.lists_iff.1 hes).symm.append_right _)).symm

end Store

/-- Tokens are in a total order, and only equal ones tie; it compares the bytes of the
small-letter forms and then the bytes of the tokens. So entries with distinct tokens are sorted to
one list, whatever order they come in, and no other arrangement of them ascends. The sorted entries
of a store and its document are the same in whatever order the entries of the table are yielded. -/
theorem compareTokens_settles_lists :
    TotallyOrders compareTokens ∧
    (∀ a b, compareTokens a b =
      (compare (Text.bytes (Text.lowercase a.toList)) (Text.bytes (Text.lowercase b.toList))).then
        (compare (Text.bytes a.toList) (Text.bytes b.toList))) ∧
    (∀ es fs : List Entry, DistinctTokens es →
      (fs.Perm es → sortEntries fs = sortEntries es) ∧
      (sortEntries es = fs ↔
        fs.Perm es ∧ fs.Pairwise fun e f => (compareTokens e.token f.token).isLE = true)) ∧
    ∀ (s : Store) (es : List Entry), s.Made → s.Lists es →
      sortEntries es = s.sorted ∧
      ∀ title, Document.ofEntries title (es ++ s.shadowed) = s.document title := by
  refine ⟨totallyOrders_compareTokens, compareTokens_eq_bytes, ?_, ?_⟩
  · intro es fs hdistinct
    refine ⟨fun hperm => ?_, sortEntries_eq_iff hdistinct⟩
    exact (sortEntries_eq_of_perm hdistinct hperm.symm).symm
  · intro s es hmade hlists
    exact ⟨hmade.sortEntries_of_lists hlists, hmade.ofEntries_of_lists hlists⟩

/-- Three tokens with one small-letter form. -/
def casings : List Entry :=
  [⟨"none", .keyword, "d", none⟩, ⟨"NONE", .operator, "d", none⟩, ⟨"None", .keyword, "d", none⟩]

/-- Their exact texts put them in order, and a store shows them in no other. -/
theorem compareTokens_settles_lists_casings :
    DistinctTokens casings ∧ casings.reverse.Perm casings ∧
    sortEntries casings.reverse = sortEntries casings ∧
    (sortEntries casings).map (·.token) = ["NONE", "None", "none"] ∧
    ∃ s : Store, s.Made ∧ s.Lists casings.reverse ∧
      s.sorted.map (·.token) = ["NONE", "None", "none"] ∧
      Document.ofEntries "Terms" (casings.reverse ++ s.shadowed) = s.document "Terms" := by
  obtain ⟨-, -, hsort, hstore⟩ := compareTokens_settles_lists
  have hdistinct : DistinctTokens casings := by
    unfold DistinctTokens
    decide
  have hperm : casings.reverse.Perm casings := List.reverse_perm _
  have hsame := (hsort casings casings.reverse hdistinct).1 hperm
  have hsorted : sortEntries casings =
      [⟨"NONE", .operator, "d", none⟩, ⟨"None", .keyword, "d", none⟩,
        ⟨"none", .keyword, "d", none⟩] := by
    rw [(hsort casings _ hdistinct).2]
    decide
  have hflawless : ∀ e ∈ casings, e.flaw? = none := by decide
  obtain ⟨s, hload⟩ := Store.exists_load_iff.2
    ⟨by decide, fun e he => Entry.flaw?_eq_none_iff.1 (hflawless e he)⟩
  have hmade : s.Made := .load hload
  have hlists : s.Lists casings.reverse :=
    hmade.lists_iff.2 (hperm.trans (Store.toList_perm_of_load hload hdistinct).symm)
  obtain ⟨hlisted, hdocument⟩ := hstore s _ hmade hlists
  refine ⟨hdistinct, hperm, hsame, by rw [hsorted]; rfl, s, hmade, hlists, ?_, hdocument "Terms"⟩
  rw [← hlisted, hsame, hsorted]
  rfl

end Glossary
