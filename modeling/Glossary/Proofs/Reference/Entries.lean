import Glossary.Proofs.Reference.Body
import Glossary.Proofs.Text.Trim

/-!
# Entries of a reference

Whatever text a reference is, the entries that are read from it have a common form.
Each clause of it comes from one place where the reader stops: a description ends at
a blank line, at the mark of an example and at a heading, so none of its further
lines is any of these; an example ends at a fence, so it holds none.

The category comes from the place where the reader stands. A group is set only while
a section is open, and it is one of that section's groups; opening another section
clears it. This holds wherever a reading comes, also while it looks ahead for a
description.

## Main results

* `Body.wellFormed_of_read` — the body of an item.
* `Reaches.keeps` — what every step keeps, a reading keeps.
* `Stands.grouped` — a group belongs to the section that is open.
* `wellFormed_of_parse` — the entries of a reference.
-/

namespace Glossary

open Text

namespace Reference

/-! ## Lines without the blanks at their end -/

/-- Blanks at the end of a line do not take part in its `#`, and what stands behind the `#` is a
blank or nothing as before. -/
theorem level_trimEnd (s : List Char) :
    level (trimEnd s) = level s ∧
      ((trimEnd s).dropWhile (· == '#')).head?.all isBlank =
        (s.dropWhile (· == '#')).head?.all isBlank := by
  obtain ⟨blanks, hs, hblanks⟩ := exists_trimEnd s
  have hstop : ∀ c, blanks.head? = some c → (c == '#') = false := by
    intro c hc
    rw [beq_eq_false_iff_ne]
    rintro rfl
    exact absurd (hblanks _ (List.mem_of_head? hc)) (by decide)
  have hlevel : level (trimEnd s ++ blanks) = level (trimEnd s) := by
    rw [level, takeWhile_append_of_stop _ hstop, level]
  have hbehind : ((trimEnd s ++ blanks).dropWhile (· == '#')).head?.all isBlank =
      ((trimEnd s).dropWhile (· == '#')).head?.all isBlank := by
    rw [dropWhile_append_of_stop _ hstop]
    cases (trimEnd s).dropWhile (· == '#') with
    | cons c rest => rfl
    | nil =>
        cases blanks with
        | nil => rfl
        | cons c rest => simpa using hblanks c (by simp)
  rw [← hs] at hlevel hbehind
  exact ⟨hlevel.symm, hbehind.symm⟩

theorem isHeading_trimEnd (l : Line) : isHeading (trimEnd l) = isHeading l := by
  obtain ⟨hlevel, hbehind⟩ := level_trimEnd (trimStart l)
  simp only [isHeading, trimStart_trimEnd, hlevel, hbehind]

theorem opensWith_of_trimEnd {opening l : List Char} (h : opensWith opening (trimEnd l) = true) :
    opensWith opening l = true := by
  obtain ⟨blanks, hblanks, -⟩ := exists_trimEnd (trimStart l)
  rw [opensWith, trimStart_trimEnd, List.isPrefixOf_iff_prefix] at h
  rw [opensWith, List.isPrefixOf_iff_prefix, hblanks]
  exact h.trans (List.prefix_append _ _)

/-! ## Descriptions -/

/-- A line that carries a description on, as it stands there. -/
structure Continues (l : Line) : Prop where
  solid : isBlankLine l = false
  trimmed : trimEnd l = l
  plain : isHeading l = false
  unmarked : isExampleMark l = false

theorem continues_trimEnd {l : Line} (h : endsDescription l = false) : Continues (trimEnd l) := by
  simp only [endsDescription, Bool.or_eq_false_iff] at h
  obtain ⟨⟨hblank, hmark⟩, hheading⟩ := h
  refine ⟨?_, ?_, ?_, ?_⟩
  · rw [isBlankLine, allBlank_trimEnd]
    exact hblank
  · exact trimEnd_eq_self_of_getLast fun c => isBlank_getLast_trimEnd
  · rw [isHeading_trimEnd]
    exact hheading
  · rw [isExampleMark, Bool.eq_false_iff]
    intro hopens
    have hmarked : isExampleMark l = true := opensWith_of_trimEnd hopens
    rw [hmark] at hmarked
    cases hmarked

theorem joinLines_singleton (l : Line) : joinLines [l] = l := by
  simp [joinLines, List.intercalate]

theorem joinLines_cons_cons (l k : Line) (ls : List Line) :
    joinLines (l :: k :: ls) = l ++ '\n' :: joinLines (k :: ls) := by
  simp [joinLines, List.intercalate]

/-- Joined lines begin as the first of them does. -/
theorem head?_joinLines {l : Line} (h : l ≠ []) (ls : List Line) :
    (joinLines (l :: ls)).head? = l.head? := by
  cases ls with
  | nil => rw [joinLines_singleton]
  | cons k ls =>
      cases l with
      | nil => exact absurd rfl h
      | cons c l => rw [joinLines_cons_cons, List.cons_append, List.head?_cons, List.head?_cons]

/-- Joined lines that do not end in blanks do not end in one either. -/
theorem isBlank_getLast_joinLines {ls : List Line} (h : ∀ l ∈ ls, l ≠ [] ∧ trimEnd l = l)
    {c : Char} (hc : (joinLines ls).getLast? = some c) : isBlank c = false := by
  induction ls with
  | nil => cases hc
  | cons l ls ih =>
      cases ls with
      | nil =>
          rw [joinLines_singleton] at hc
          exact isBlank_getLast_of_trimEnd (h l (by simp)).2 hc
      | cons k ls =>
          have hne : joinLines (k :: ls) ≠ [] := by
            intro hnil
            have hhead := head?_joinLines (h k (by simp)).1 ls
            rw [hnil] at hhead
            exact (h k (by simp)).1 (List.head?_eq_none_iff.1 hhead.symm)
          apply ih fun j hj => h j (List.mem_cons_of_mem _ hj)
          rw [joinLines_cons_cons, List.getLast?_append, List.getLast?_cons] at hc
          cases hlast : (joinLines (k :: ls)).getLast? with
          | none => exact absurd (List.getLast?_eq_none_iff.1 hlast) hne
          | some d => simpa [hlast] using hc

/-- A description is empty, or it is a trimmed line and the lines that carry it on. -/
theorem exists_describe {first : List Char} {more : List Line} (hfirst : trim first = first)
    (hmore : ∀ l ∈ more, endsDescription l = false) :
    Body.describe first more = [] ∨ ∃ (head : Line) (tail : List Line),
      Body.describe first more = joinLines (head :: tail.map trimEnd) ∧ head ≠ [] ∧
      trim head = head ∧ (head = first ∨ ∃ l ∈ more, head = trim l) ∧ ∀ l ∈ tail, l ∈ more := by
  cases first with
  | cons c first =>
      right
      exact ⟨c :: first, more, rfl, by simp, hfirst, .inl rfl, fun l hl => hl⟩
  | nil =>
      cases more with
      | nil => exact .inl rfl
      | cons l more =>
          right
          have hl : isBlankLine l = false := by
            have hends := hmore l (by simp)
            simp only [endsDescription, Bool.or_eq_false_iff] at hends
            exact hends.1.1
          refine ⟨trim l, more, rfl, ?_, trim_trim l, .inr ⟨l, by simp, rfl⟩, ?_⟩
          · exact trim_ne_nil hl
          · exact fun k hk => List.mem_cons_of_mem _ hk

/-- A description is trimmed, and its further lines are those that carry it on. -/
theorem wellFormed_describe {first : List Char} {more : List Line} (hfirst : trim first = first)
    (hnewline : '\n' ∉ first) (hmore : ∀ l ∈ more, endsDescription l = false ∧ '\n' ∉ l) :
    trim (Body.describe first more) = Body.describe first more ∧
      ∀ l ∈ (pieces (Body.describe first more)).tail, Continues l := by
  rcases exists_describe hfirst fun l hl => (hmore l hl).1 with hempty | hlines
  · rw [hempty]
    exact ⟨rfl, by simp [pieces]⟩
  · obtain ⟨head, tail, hjoin, hne, htrim, hhead, htail⟩ := hlines
    have hcontinues : ∀ l ∈ tail.map trimEnd, Continues l := by
      intro l hl
      obtain ⟨k, hk, rfl⟩ := List.mem_map.1 hl
      exact continues_trimEnd (hmore k (htail k hk)).1
    have hfree : ∀ l ∈ head :: tail.map trimEnd, '\n' ∉ l := by
      intro l hl hmem
      rcases List.mem_cons.1 hl with rfl | hl
      · rcases hhead with rfl | ⟨k, hk, rfl⟩
        · exact hnewline hmem
        · exact (hmore k hk).2 (mem_of_mem_trim hmem)
      · obtain ⟨k, hk, rfl⟩ := List.mem_map.1 hl
        exact (hmore k (htail k hk)).2 (mem_of_mem_trimEnd hmem)
    have hsolid : ∀ l ∈ head :: tail.map trimEnd, l ≠ [] ∧ trimEnd l = l := by
      intro l hl
      rcases List.mem_cons.1 hl with rfl | hl
      · exact ⟨hne, trimEnd_of_trim htrim⟩
      · refine ⟨?_, (hcontinues l hl).trimmed⟩
        rintro rfl
        exact absurd (hcontinues [] hl).solid (by decide)
    rw [hjoin]
    constructor
    · apply trim_eq_self
      · intro c hc
        rw [head?_joinLines hne, ← htrim] at hc
        exact isBlank_head_trim hc
      · intro c hc
        exact isBlank_getLast_joinLines hsolid hc
    · rw [joinLines, pieces_joined (by simp) hfree]
      exact hcontinues

/-! ## Bodies -/

/-- What is read of an item. -/
structure Body.WellFormed (b : Body) : Prop where
  trimmed : trim b.description = b.description
  further : ∀ l ∈ (pieces b.description).tail, Continues l
  unfenced : ∀ text ∈ b.example?, ∀ l ∈ pieces text, isFence l = false

namespace Body

variable {p q : Place} {ls rest : List Line}

/-- What stands behind the mark of a description is trimmed, and comes from its line. -/
theorem description?_eq_some {l : Line} {first : List Char} (h : description? l = some first) :
    trim first = first ∧ ∀ c ∈ first, c ∈ l := by
  obtain ⟨behind, hbehind, rfl⟩ := Option.map_eq_some_iff.1 h
  refine ⟨trim_trim behind, ?_⟩
  intro c hc
  have hstart : c ∈ trimStart l := by
    rw [dropPrefix?_eq_some_iff.1 hbehind]
    exact List.mem_append_right _ (mem_of_mem_trim hc)
  exact (List.dropWhile_suffix isBlank).subset hstart

theorem first_of_seek {first : List Char} (h : seek p ls = (q, some first, rest)) :
    trim first = first ∧ ∃ l ∈ ls, ∀ c ∈ first, c ∈ l := by
  induction ls generalizing p with
  | nil => cases h
  | cons l ls ih =>
      rw [seek] at h
      by_cases hitem : (itemHeading? l).isSome
      · rw [if_pos hitem] at h
        cases h
      · rw [if_neg hitem] at h
        cases hfirst : description? l with
        | some d =>
            rw [hfirst] at h
            obtain ⟨-, rfl, -⟩ : p = q ∧ d = first ∧ ls = rest := by simpa using h
            obtain ⟨htrim, hmem⟩ := description?_eq_some hfirst
            exact ⟨htrim, l, by simp, hmem⟩
        | none =>
            rw [hfirst] at h
            obtain ⟨htrim, k, hk, hmem⟩ := ih h
            exact ⟨htrim, k, List.mem_cons_of_mem _ hk, hmem⟩

/-- No line of an example that is read is a fence. -/
theorem unfenced_of_readExample (hfree : ∀ l ∈ ls, '\n' ∉ l) {text : List Char}
    (h : readExample ls = .ok (some text, rest)) : ∀ l ∈ pieces text, isFence l = false := by
  cases readExample_eq_iff.1 h with
  | @closed mark f g blanks inner rest announces blank opens within closes =>
      cases inner with
      | nil =>
          intro l hl
          obtain rfl : l = [] := by simpa [joinLines, pieces] using hl
          decide
      | cons k inner =>
          rw [joinLines, pieces_joined (by simp)]
          · exact within
          · intro l hl
            apply hfree
            simp only [List.mem_cons, List.mem_append] at hl ⊢
            exact .inr (.inr (.inr (.inl hl)))

/-- The body of an item has the common form. -/
theorem wellFormed_of_read (hfree : ∀ l ∈ ls, '\n' ∉ l) {b : Body}
    (h : read p ls = .ok (q, some b, rest)) : b.WellFormed := by
  obtain ⟨-, hnone⟩ | ⟨first, below, text?, hseek, hexample, hbody⟩ := read_cases h
  · cases hnone
  obtain rfl := Option.some.inj hbody
  have hbelow : ∀ l ∈ below, '\n' ∉ l := by
    have hsuffix := seek_suffix p ls
    rw [hseek] at hsuffix
    exact fun l hl => hfree l (hsuffix.subset hl)
  have hmore : ∀ l ∈ below.takeWhile (!endsDescription ·),
      endsDescription l = false ∧ '\n' ∉ l := by
    intro l hl
    refine ⟨by simpa using List.mem_takeWhile_imp hl, ?_⟩
    exact hbelow l ((List.takeWhile_prefix _).subset hl)
  have hstart : ∀ l ∈ exampleStart below, '\n' ∉ l := by
    have hsuffix : exampleStart below <:+ below :=
      (List.dropWhile_suffix _).trans (List.dropWhile_suffix _)
    exact fun l hl => hbelow l (hsuffix.subset hl)
  obtain ⟨htrim, k, hk, hmem⟩ := first_of_seek hseek
  have hdescription := wellFormed_describe htrim (fun hc => hfree k hk (hmem _ hc)) hmore
  refine ⟨hdescription.1, hdescription.2, ?_⟩
  intro text htext
  obtain rfl : text? = some text := htext
  exact unfenced_of_readExample hstart hexample

end Body

/-! ## Groups -/

namespace Place

variable {p : Place}

theorem Grouped.passing (h : p.Grouped) (passed : List Line) :
    (passed.foldl Place.past p).Grouped := by
  induction passed generalizing p with
  | nil => exact h
  | cons l passed ih => exact ih (h.past l)

/-- Looking ahead for a description leads past the lines that are passed over. -/
theorem Grouped.seek (h : p.Grouped) (ls : List Line) : (Body.seek p ls).1.Grouped := by
  fun_induction Body.seek p ls with
  | case1 | case2 | case3 => exact h
  | case4 p l ls hitem hfirst ih => exact ih (h.past l)

theorem Grouped.read (h : p.Grouped) {q : Place} {ls rest : List Line} {b? : Option Body}
    (hread : Body.read p ls = .ok (q, b?, rest)) : q.Grouped := by
  have hsought := h.seek ls
  obtain ⟨hseek, -⟩ | ⟨first, below, text?, hseek, -, -⟩ := Body.read_cases hread
  · rw [hseek] at hsought
    exact hsought
  · rw [hseek] at hsought
    exact hsought

/-- The category of an entry is one that entries can have. -/
theorem Grouped.category_ne (h : p.Grouped) {s : Section} (hs : p.inSection? = some s) :
    p.category s ≠ .identifier := by
  rw [← Category.section?_isSome_iff, h.section?_category hs]
  rfl

end Place

theorem grouped_takeItem (r : Progress) {p : Place} (h : p.Grouped) (heading : List Char)
    (b? : Option Body) : (r.takeItem p heading b?).place.Grouped := by
  cases b? with
  | none => exact h.within heading
  | some b =>
      rw [place_takeItem]
      exact h

/-! ## Entries -/

/-- The form that the entries of a reference have. -/
structure WellFormed (e : Entry) : Prop where
  token_ne : e.token ≠ ""
  category_ne : e.category ≠ .identifier
  trimmed : trim e.description.toList = e.description.toList
  further : ∀ l ∈ (pieces e.description.toList).tail, Continues l
  shown : e.Shown
  unfenced : ∀ text ∈ e.example?, ∀ l ∈ pieces text.toList, isFence l = false

/-- A body in the common form makes an entry in the common form. -/
theorem wellFormed_of_added? {p : Place} (hp : p.Grouped) {b : Body} (hb : b.WellFormed)
    {heading : List Char} {e : Entry} (h : p.added? heading b = some e) : WellFormed e := by
  obtain ⟨s, hs, hentry⟩ := Option.bind_eq_some_iff.1 h
  by_cases htoken : tokenOf heading = []
  · rw [if_pos htoken] at hentry
    cases hentry
  · rw [if_neg htoken] at hentry
    obtain rfl := Option.some.inj hentry
    refine ⟨?_, hp.category_ne hs, ?_, ?_, Entry.shown_make _ _ _ _, ?_⟩
    · show String.ofList (tokenOf heading) ≠ ""
      simpa using htoken
    · show trim (String.ofList b.description).toList = (String.ofList b.description).toList
      rw [String.toList_ofList]
      exact hb.trimmed
    · show ∀ l ∈ (pieces (String.ofList b.description).toList).tail, Continues l
      rw [String.toList_ofList]
      exact hb.further
    · intro text htext
      have hkept : b.example?.map String.ofList = some text :=
        (Option.filter_eq_some_iff.1 htext).1
      obtain ⟨inner, hinner, rfl⟩ := Option.map_eq_some_iff.1 hkept
      rw [String.toList_ofList]
      exact hb.unfenced inner hinner

/-! ## Along a reading -/

/-- How far a reading of some lines comes, step by step, and the lines that are left there. -/
inductive Reaches (ls : List Line) : Progress → List Line → Prop where
  | start : Reaches ls .start ls
  | step {r r' : Progress} {l : Line} {below rest : List Line} (h : Reaches ls r (l :: below))
      (hstep : step r l below = .ok (r', rest)) : Reaches ls r' rest

/-- The places where a reading of some lines stands: those between two steps, and those that it
passes while it looks ahead from the heading of an item. -/
inductive Stands (ls : List Line) : Place → Prop where
  | between {r : Progress} {rest : List Line} (h : Reaches ls r rest) : Stands ls r.place
  | ahead {r : Progress} {l : Line} {passed rest : List Line}
      (h : Reaches ls r (l :: (passed ++ rest))) (heads : (itemHeading? l).isSome)
      (passes : ∀ k ∈ passed, itemHeading? k = none ∧ description? k = none) :
      Stands ls (passed.foldl Place.past r.place)

variable {ls rest : List Line} {r : Progress}

/-- What the first progress has and every step keeps, a reading keeps. The lines that are left
are always the end of those that were given. -/
theorem Reaches.keeps {motive : Progress → Prop} (hstart : motive .start)
    (hstep : ∀ r l below r' rest, l :: below <:+ ls → motive r →
      Reference.step r l below = .ok (r', rest) → motive r')
    (h : Reaches ls r rest) : rest <:+ ls ∧ motive r := by
  induction h with
  | start => exact ⟨List.suffix_refl ls, hstart⟩
  | @step r r' l below rest h hone ih =>
      refine ⟨?_, hstep r l below r' rest ih.1 ih.2 hone⟩
      exact (step_suffix hone).trans ((List.suffix_cons l below).trans ih.1)

/-- A group belongs to the section that is open between any two steps. -/
theorem Reaches.grouped (h : Reaches ls r rest) : r.place.Grouped := by
  refine (h.keeps (motive := fun r => r.place.Grouped) Place.grouped_outside ?_).2
  intro r l below r' rest _ hr hstep
  obtain ⟨-, rfl, -⟩ | ⟨heading, q, b?, -, hread, rfl⟩ := step_cases hstep
  · exact hr.past l
  · exact grouped_takeItem r (hr.read hread) heading b?

/-- And also while the reading looks ahead. -/
theorem Stands.grouped {p : Place} (h : Stands ls p) : p.Grouped := by
  cases h with
  | between h => exact h.grouped
  | ahead h _ _ => exact h.grouped.passing _

/-- All entries read so far have the common form. -/
theorem Reaches.wellFormed (hfree : ∀ l ∈ ls, '\n' ∉ l) (h : Reaches ls r rest) :
    ∀ e ∈ r.entries.toList, WellFormed e := by
  refine (h.keeps (motive := fun r => r.place.Grouped ∧ ∀ e ∈ r.entries.toList, WellFormed e)
    ⟨Place.grouped_outside, by simp [Progress.start]⟩ ?_).2.2
  intro r l below r' rest hbelow hr hstep
  obtain ⟨hgrouped, hentries⟩ := hr
  obtain ⟨-, rfl, -⟩ | ⟨heading, q, b?, -, hread, rfl⟩ := step_cases hstep
  · exact ⟨hgrouped.past l, hentries⟩
  · have hq : q.Grouped := hgrouped.read hread
    refine ⟨grouped_takeItem r hq heading b?, ?_⟩
    cases b? with
    | none => exact hentries
    | some b =>
        have hb : b.WellFormed :=
          Body.wellFormed_of_read (fun k hk => hfree k (hbelow.subset (by simp [hk]))) hread
        rw [entries_takeItem]
        intro e he
        rcases List.mem_append.1 he with he | he
        · exact hentries e he
        · exact wellFormed_of_added? hq hb (Option.mem_toList.1 he)

/-- A reading that is not stopped comes to its end. -/
theorem Reaches.readLines (h : Reaches ls r rest) (hend : (readLines r rest).2 = none) :
    Reaches ls (readLines r rest).1 [] := by
  fun_induction Reference.readLines r rest with
  | case1 r => exact h
  | case2 r l below u hstep => cases hend
  | case3 r l below r' rest hstep ih => exact ih (h.step hstep) hend

/-- The entries of a reference are those read where its reading comes to its end. -/
theorem exists_reaches_of_parse {source : String} {es : List Entry} (h : parse source = .ok es) :
    ∃ r, Reaches (lines source.toList) r [] ∧ r.entries.toList = es := by
  obtain ⟨herror, rfl⟩ := parse_eq_ok_iff.1 h
  refine ⟨_, Reaches.start.readLines ?_, rfl⟩
  simpa [read, readAll] using herror

/-- Wherever the reading of a reference stands, a group that is set belongs to the section that
is open. The entries that it gives have tokens, categories of their own, trimmed descriptions
whose further lines end no description, and examples that are not blank and hold no fence. -/
theorem wellFormed_of_parse (source : String) :
    (∀ p, Stands (lines source.toList) p → p.Grouped) ∧
    ∀ es, parse source = .ok es → ∀ e ∈ es, WellFormed e := by
  refine ⟨fun p hp => hp.grouped, ?_⟩
  intro es hparse
  obtain ⟨herror, rfl⟩ := parse_eq_ok_iff.1 hparse
  have hend : (readLines .start (lines source.toList)).2 = none := by
    simpa [read, readAll] using herror
  have hreached : Reaches (lines source.toList) (readLines .start (lines source.toList)).1 [] :=
    Reaches.start.readLines hend
  exact hreached.wellFormed fun l => newline_not_mem_of_mem_lines

/-- A constant whose description begins below its mark, with a line that is no heading. -/
def nullObject : String :=
  "## Builtins\n### Constants\n### \x60NULL\x60\n**Description**:\n  The null pointer. \n" ++
    " #define it \n\n**Example**:\n\x60\x60\x60c\n\n  # NULL\n\x60\x60\x60\n"

theorem wellFormed_of_parse_null :
    parse nullObject =
      .ok [⟨"NULL", .builtinConstant, "The null pointer.\n #define it", some "\n  # NULL"⟩] ∧
    WellFormed
      ⟨"NULL", .builtinConstant, "The null pointer.\n #define it", some "\n  # NULL"⟩ := by
  have hparse : parse nullObject =
      .ok [⟨"NULL", .builtinConstant, "The null pointer.\n #define it", some "\n  # NULL"⟩] := by
    decide +kernel
  exact ⟨hparse, (wellFormed_of_parse nullObject).2 _ hparse _ (List.mem_singleton_self _)⟩

end Reference

end Glossary
