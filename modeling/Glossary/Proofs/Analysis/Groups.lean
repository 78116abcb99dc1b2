import Glossary.Analysis.Groups
import Glossary.Proofs.Dictionary.Precedence
import Mathlib.Algebra.BigOperators.Group.Finset.Basic
import Mathlib.Algebra.GroupWithZero.Nat

/-!
# What grouping leaves

Grouping goes through the matches once and keeps one table for all categories, in
which each category and text has its place. What is left can be said without the
table: a category has a group if it occurs, a group has a token for the first match
of each of its texts, and the token counts all matches with that category and text.

The induction is on the matches from the last one on, because that is the one which
is tallied last. It carries the value at every place, so one text in two categories
is two places, and neither changes the other.

Adding up the counts of a group gives the matches of its category again, and adding
up all groups gives all matches. Both are one lemma about lists: counting each of
some distinct values counts all members, if no member is another value.

## Main results

* `Group.get?_tallied`, `Group.keys_tallied` — what the table holds, and in which order.
* `Group.ofMatches_eq_map_filter` — the groups, told by the matches alone.
* `Group.occurrences_ofCategory` — a group counts the matches of its category.
* `Analysis.groups_eq_ofCategory` — groups, counts and sizes agree.
-/

namespace Glossary

/-! ## Counting distinct values -/

/-- Counting each of some distinct values counts all members of a list that has no others. -/
theorem sum_map_count {α : Type} [DecidableEq α] {ks l : List α} (hnodup : ks.Nodup)
    (hmem : ∀ a ∈ l, a ∈ ks) : (ks.map l.count).sum = l.length := by
  have hsum : ∑ a ∈ (⟨ks, Multiset.coe_nodup.2 hnodup⟩ : Finset α), (l : Multiset α).count a =
      Multiset.card (l : Multiset α) := Multiset.sum_count_eq_card hmem
  simpa [Finset.sum] using hsum

/-! ## First matches -/

namespace Match

/-- The first match of each text. -/
def firsts : List Match → List Match
  | [] => []
  | m :: ms => m :: (firsts ms).filter (·.text ≠ m.text)

theorem firsts_eq_nil_iff {ms : List Match} : firsts ms = [] ↔ ms = [] := by
  cases ms <;> simp [firsts]

/-- One more match is a first one if its text has not occurred. -/
theorem firsts_concat (ms : List Match) (m : Match) :
    firsts (ms ++ [m]) = if m.text ∈ ms.map (·.text) then firsts ms else firsts ms ++ [m] := by
  induction ms with
  | nil => rfl
  | cons first ms ih =>
      rw [List.cons_append, firsts, ih, firsts, List.map_cons]
      by_cases hlater : m.text ∈ ms.map (·.text)
      · rw [if_pos hlater, if_pos (List.mem_cons_of_mem _ hlater)]
      · rw [if_neg hlater, List.filter_append]
        by_cases hfirst : m.text = first.text
        · simp [hfirst]
        · rw [if_neg (by simpa [hfirst] using hlater)]
          simp [hfirst]

theorem map_text_firsts (ms : List Match) :
    (firsts ms).map (·.text) = (ms.map (·.text)).eraseDups := by
  induction ms using List.reverseRecOn with
  | nil => rfl
  | append_singleton ms m ih =>
      rw [firsts_concat, List.map_append, List.map_singleton, eraseDups_concat, ← ih]
      split
      · rfl
      · rw [List.map_append, List.map_singleton]

/-- A first match is what a search for its text finds. -/
theorem find?_of_mem_firsts {ms : List Match} {m : Match} (h : m ∈ firsts ms) :
    ms.find? (·.text == m.text) = some m := by
  induction ms with
  | nil => cases h
  | cons first ms ih =>
      rcases List.mem_cons.1 h with rfl | hlater
      · simp
      · obtain ⟨hmem, hne⟩ := List.mem_filter.1 hlater
        have hother : first.text ≠ m.text := Ne.symm (of_decide_eq_true hne)
        rw [List.find?_cons_of_neg (by simpa using hother)]
        exact ih hmem

/-- The categories of what a store knows are all but that of identifiers. -/
theorem any_filter_isKnown (ms : List Match) (c : Category) :
    (ms.filter isKnown).any (·.category == c) =
      (decide (c ≠ .identifier) && ms.any (·.category == c)) := by
  rw [List.any_filter, Bool.eq_iff_iff, Bool.and_eq_true, List.any_eq_true, List.any_eq_true,
    decide_eq_true_iff]
  simp only [isKnown, Bool.and_eq_true, bne_iff_ne, beq_iff_eq]
  constructor
  · rintro ⟨m, hm, hne, rfl⟩
    exact ⟨hne, m, hm, rfl⟩
  · rintro ⟨hne, m, hm, rfl⟩
    exact ⟨m, hm, hne, rfl⟩

end Match

namespace Group

/-! ## The table -/

/-- The category and the text of a match. -/
def place (m : Match) : Category × String := (m.category, m.text)

theorem place_beq (m n : Match) :
    (place m == place n) = (m.category == n.category && m.text == n.text) := rfl

/-- What is shown of a text: what its first match says, and the number of its matches. -/
def summary (ms : List Match) (first : Match) : GroupedToken :=
  ⟨first.text, first.description, ms.countP (place · == place first), first.start⟩

/-- One more match is counted where it belongs. -/
theorem summary_concat (ms : List Match) (m first : Match) :
    summary (ms ++ [m]) first = { summary ms first with
      count := (summary ms first).count + if place m = place first then 1 else 0 } := by
  rw [summary, List.countP_append, List.countP_singleton]
  simp only [beq_iff_eq]
  rfl

/-- The tally of some matches. -/
def tallied (ms : List Match) : FirstSeen (Category × String) GroupedToken :=
  ms.foldl tally .empty

theorem tallied_concat (ms : List Match) (m : Match) :
    tallied (ms ++ [m]) = (tallied ms).note (place m) ⟨m.text, m.description, 1, m.start⟩
      fun t => { t with count := t.count + 1 } := by
  rw [tallied, List.foldl_append]
  rfl

/-- At each place the table has what is shown of the matches there. -/
theorem get?_tallied (ms : List Match) (k : Category × String) :
    (tallied ms).get? k = (ms.find? (place · == k)).map (summary ms) := by
  induction ms using List.reverseRecOn with
  | nil => simp [tallied, FirstSeen.empty, FirstSeen.get?]
  | append_singleton ms m ih =>
      rw [tallied_concat, FirstSeen.get?_note, List.find?_append]
      by_cases hk : place m = k
      · subst hk
        rw [if_pos (beq_self_eq_true (place m)), ih]
        cases hfind : ms.find? (place · == place m) with
        | none =>
            have hnone : ms.countP (place · == place m) = 0 :=
              List.countP_eq_zero.2 (List.find?_eq_none.1 hfind)
            simp [summary, hnone]
        | some first =>
            have hplace : place first = place m := by simpa using List.find?_some hfind
            simp [summary_concat, hplace]
      · rw [if_neg (by simpa using hk), ih]
        cases hfind : ms.find? (place · == k) with
        | none => simp [hk]
        | some first =>
            have hplace : place first = k := by simpa using List.find?_some hfind
            simp [summary_concat, hplace, hk]

theorem isSome_get?_tallied (ms : List Match) (k : Category × String) :
    ((tallied ms).get? k).isSome = true ↔ ∃ m ∈ ms, place m = k := by
  rw [get?_tallied, Option.isSome_map, List.find?_isSome]
  simp only [beq_iff_eq]

/-- The places of a category, in the order in which its texts first occur. -/
theorem keys_tallied (ms : List Match) (c : Category) :
    (tallied ms).keys.filter (·.1 == c) =
      (Match.firsts (ms.filter (·.category == c))).map place := by
  induction ms using List.reverseRecOn with
  | nil => rfl
  | append_singleton ms m ih =>
      rw [tallied_concat, FirstSeen.keys_note, List.filter_append]
      by_cases hc : m.category = c
      · have hknown : ((tallied ms).get? (place m)).isSome = true ↔
            m.text ∈ (ms.filter (·.category == c)).map (·.text) := by
          rw [isSome_get?_tallied]
          simp only [place, Prod.mk.injEq, List.mem_map, List.mem_filter, beq_iff_eq, hc,
            and_assoc]
        have hplace : [place m].filter (·.1 == c) = [place m] := by simp [place, hc]
        have hown : [m].filter (·.category == c) = [m] := by simp [hc]
        rw [hown, Match.firsts_concat]
        simp only [hknown]
        split
        · exact ih
        · rw [List.filter_append, ih, hplace, List.map_append, List.map_singleton]
      · have hplace : [place m].filter (·.1 == c) = [] := by simp [place, hc]
        have hown : [m].filter (·.category == c) = [] := by simp [hc]
        rw [hown, List.append_nil, ← ih]
        split
        · rfl
        · rw [List.filter_append, hplace, List.append_nil]

/-! ## Groups -/

/-- The matches of a category. -/
def own (ms : List Match) (c : Category) : List Match := ms.filter (·.category == c)

/-- The group of a category, told by the matches alone: for the first match of each text,
what it says, and how many matches of the category have its text. -/
def ofCategory (ms : List Match) (c : Category) : Group :=
  ⟨c, (Match.firsts (own ms c)).map fun first =>
    ⟨first.text, first.description, (own ms c).countP (·.text == first.text), first.start⟩⟩

theorem find?_own (ms : List Match) (m : Match) :
    (own ms m.category).find? (·.text == m.text) = ms.find? (place · == place m) := by
  rw [own, List.find?_filter]
  congr 1
  funext n
  rw [place_beq, Bool.decide_and, Bool.decide_eq_true, Bool.decide_eq_true]

theorem countP_own (ms : List Match) (m : Match) :
    (own ms m.category).countP (·.text == m.text) = ms.countP (place · == place m) := by
  rw [own, List.countP_filter]
  congr 1
  funext n
  rw [place_beq, Bool.and_comm]

/-- What the table has for the first match of a text in its category. -/
theorem get?_tallied_of_mem_firsts {ms : List Match} {c : Category} {first : Match}
    (h : first ∈ Match.firsts (own ms c)) :
    (tallied ms).get? (place first) = some ⟨first.text, first.description,
      (own ms c).countP (·.text == first.text), first.start⟩ := by
  have hfind := Match.find?_of_mem_firsts h
  have hown := List.mem_filter.1 (List.mem_of_find?_eq_some hfind)
  obtain rfl : first.category = c := beq_iff_eq.1 hown.2
  rw [find?_own] at hfind
  rw [get?_tallied, hfind, countP_own]
  rfl

theorem ofTally_tallied (ms : List Match) (c : Category) :
    ofTally (tallied ms) c = ofCategory ms c := by
  rw [ofTally, keys_tallied, List.filterMap_map, ofCategory, Group.mk.injEq]
  refine ⟨rfl, ?_⟩
  rw [← List.filterMap_eq_map]
  apply List.filterMap_congr
  intro first hfirst
  exact get?_tallied_of_mem_firsts hfirst

/-- A group has tokens if its category occurs. -/
theorem tokens_ofCategory_ne_nil_iff {ms : List Match} {c : Category} :
    (ofCategory ms c).tokens ≠ [] ↔ ms.any (·.category == c) = true := by
  have hown : own ms c = [] ↔ ms.any (·.category == c) = false := by
    rw [own, List.filter_eq_nil_iff, List.any_eq_false]
  rw [ofCategory, Ne, List.map_eq_nil_iff, Match.firsts_eq_nil_iff, hown, Bool.not_eq_false]

/-- The groups of some matches are those of the categories that occur. -/
theorem ofMatches_eq_map_filter (ms : List Match) :
    ofMatches ms = (Category.all.filter fun c => ms.any (·.category == c)).map (ofCategory ms) := by
  have hgroups : Category.all.map (ofTally (tallied ms)) = Category.all.map (ofCategory ms) :=
    List.map_congr_left fun c _ => ofTally_tallied ms c
  show (Category.all.map (ofTally (tallied ms))).filter (·.tokens ≠ []) = _
  rw [hgroups, List.filter_map]
  congr 1
  apply List.filter_congr
  intro c _
  rw [Function.comp, Bool.eq_iff_iff, decide_eq_true_iff, tokens_ofCategory_ne_nil_iff]

/-- A group counts the matches of its category. -/
theorem occurrences_ofCategory (ms : List Match) (c : Category) :
    (ofCategory ms c).occurrences = ms.countP (·.category == c) := by
  have hcounts : ((ofCategory ms c).tokens.map (·.count)) =
      ((own ms c).map (·.text)).eraseDups.map ((own ms c).map (·.text)).count := by
    rw [← Match.map_text_firsts, ofCategory, List.map_map, List.map_map]
    apply List.map_congr_left
    intro first _
    rw [Function.comp, Function.comp, List.count, List.countP_map]
    rfl
  calc
    (ofCategory ms c).occurrences = ((ofCategory ms c).tokens.map (·.count)).sum := by
      rw [occurrences, List.sum, List.foldr_map]
    _ = ((own ms c).map (·.text)).length := by
      rw [hcounts]
      exact sum_map_count (nodup_eraseDups _) fun _ => List.mem_eraseDups.2
    _ = ms.countP (·.category == c) := by
      rw [List.length_map, own, List.countP_eq_length_filter]

/-- Matches of another category are none of the group's. -/
theorem ofCategory_filter {ms : List Match} {keep : Match → Bool} {c : Category}
    (h : ∀ m, m.category = c → keep m = true) :
    ofCategory (ms.filter keep) c = ofCategory ms c := by
  have hown : own (ms.filter keep) c = own ms c := by
    rw [own, List.filter_filter, own]
    apply List.filter_congr
    intro m _
    by_cases hm : m.category = c
    · simp [h m hm]
    · simp [hm]
  rw [ofCategory, hown, ofCategory]

/-- All groups together count all matches. -/
theorem sum_occurrences_ofMatches (ms : List Match) :
    ((ofMatches ms).map occurrences).sum = ms.length := by
  have hcounts : (ofMatches ms).map occurrences =
      (Category.all.filter fun c => ms.any (·.category == c)).map
        (ms.map (·.category)).count := by
    rw [ofMatches_eq_map_filter, List.map_map]
    apply List.map_congr_left
    intro c _
    rw [Function.comp, occurrences_ofCategory, List.count, List.countP_map]
    rfl
  have hdistinct : (Category.all.filter fun c => ms.any (·.category == c)).Nodup :=
    List.Nodup.filter _ (by decide)
  rw [hcounts, sum_map_count hdistinct, List.length_map]
  intro c hc
  obtain ⟨m, hm, rfl⟩ := List.mem_map.1 hc
  exact List.mem_filter.2
    ⟨Category.mem_all _, List.any_eq_true.2 ⟨m, hm, beq_self_eq_true _⟩⟩

/-- Without identifiers the groups of the other categories are the same. -/
theorem ofMatches_filter_isKnown (ms : List Match) :
    ofMatches (ms.filter Match.isKnown) = (ofMatches ms).filter (·.category ≠ .identifier) := by
  have hoccur : (Category.all.filter fun c => (ms.filter Match.isKnown).any (·.category == c)) =
      (Category.all.filter fun c => ms.any (·.category == c)).filter (· ≠ .identifier) := by
    rw [List.filter_filter]
    apply List.filter_congr
    intro c _
    exact Match.any_filter_isKnown ms c
  rw [ofMatches_eq_map_filter, ofMatches_eq_map_filter, hoccur, List.filter_map]
  apply List.map_congr_left
  intro c hc
  have hne : c ≠ .identifier := of_decide_eq_true (List.mem_filter.1 hc).2
  exact ofCategory_filter fun m hm => bne_iff_ne.2 (hm ▸ hne)

end Group

namespace Analysis

/-! ## Groups of an analysis -/

/-- The categories of some matches, which are counted in the counts of an analysis. -/
theorem counts_eq_map_filter (a : Analysis) :
    a.counts = (Category.all.filter fun c => a.found.toList.any (·.category == c)).map
      fun c => (c, a.found.toList.countP (·.category == c)) := by
  rw [counts, List.filter_map]
  congr 1
  apply List.filter_congr
  intro c _
  rw [Function.comp, Bool.eq_iff_iff, decide_eq_true_iff, ← Nat.pos_iff_ne_zero, count,
    List.countP_pos_iff, List.any_eq_true]

theorem groups_true_eq (a : Analysis) : a.groups true = Group.ofMatches a.found.toList := by
  rw [groups]
  simp

theorem groups_false_eq (a : Analysis) :
    a.groups false = Group.ofMatches (a.found.toList.filter Match.isKnown) := rfl

/-- The groups of an analysis are those of the categories that occur, in the order of
categories. Each has a token for the first match of each text of its category, in the order
of these matches, with what the first match says and with the number of matches that have
the category and the text. So the groups say how often each category occurs, and together
as often as there are matches; without identifiers the others are the same. -/
theorem groups_eq_ofCategory (a : Analysis) :
    a.groups true = (Category.all.filter fun c => a.found.toList.any (·.category == c)).map
      (Group.ofCategory a.found.toList) ∧
    (a.groups true).map (fun g => (g.category, g.occurrences)) = a.counts ∧
    ((a.groups true).map Group.occurrences).sum = a.size ∧
    a.groups false = (a.groups true).filter (·.category ≠ .identifier) := by
  rw [groups_true_eq, groups_false_eq]
  refine ⟨Group.ofMatches_eq_map_filter _, ?_, ?_, Group.ofMatches_filter_isKnown _⟩
  · rw [Group.ofMatches_eq_map_filter, counts_eq_map_filter, List.map_map]
    apply List.map_congr_left
    intro c _
    rw [Function.comp, Group.occurrences_ofCategory]
    rfl
  · rw [Group.sum_occurrences_ofMatches]
    rfl

end Analysis

end Glossary
