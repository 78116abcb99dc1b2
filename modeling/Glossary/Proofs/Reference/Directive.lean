import Glossary.Proofs.Reference.Entries
import Glossary.Proofs.Reference.Unclosed
import Mathlib.Data.List.Forall2

/-!
# Directives

A line can begin with `#` and be no heading, as the directives of a program do. Such a
line ends no description and heads no item. But a section is opened by one or two `#`
with or without a blank behind them. So a directive whose text names a section, and has
one or two `#` right in front of it, opens that section like a heading; it is glued.

No other directive has a part in the categories of the entries. The reader asks each
line a few questions only, and to all of them such a directive gives the answer that
any line gives with which it has nothing to do. So two references whose lines give
the same answers, one by one, list the same tokens in the same categories.

## Main results

* `opened?_eq_some_iff` — which lines open a section and are no headings.
* `readLines_matched` — readings of lines that give the same answers.
* `directives_count_where_glued` — when a directive decides about a category.
-/

namespace Glossary.Reference

open Text

/-! ## Directives among the other lines -/

/-- A line that begins with `#` and is no heading. -/
structure IsDirective (l : Line) : Prop where
  hash : ∃ rest, trimStart l = '#' :: rest
  plain : isHeading l = false

/-- A line in which the reader sees nothing: it is not blank, no heading, and holds neither a mark
nor a fence. -/
structure IsPlain (l : Line) : Prop where
  solid : isBlankLine l = false
  plain : isHeading l = false
  undescribed : description? l = none
  unmarked : isExampleMark l = false
  unfenced : isFence l = false

/-- One or two `#` with text right behind them, which names a section. -/
def Glued (s : Section) (l : Line) : Prop :=
  ∃ (hashes : List Char) (c : Char) (text : List Char), trim l = hashes ++ c :: text ∧
    (hashes = ['#'] ∨ hashes = ['#', '#']) ∧ c ≠ '#' ∧ isBlank c = false ∧
    Section.ofHeading? (c :: text) = some s

theorem IsDirective.isPlain {l : Line} (h : IsDirective l) : IsPlain l := by
  obtain ⟨rest, hrest⟩ := h.hash
  obtain ⟨hsolid, hdescription, hmark, hfence⟩ := ne_of_hash hrest
  exact ⟨hsolid, h.plain, hdescription, hmark, hfence⟩

/-- A text is its `#` at the start, and what stands behind them. -/
theorem exists_hashes (t : List Char) :
    ∃ behind, t = List.replicate (level t) '#' ++ behind ∧
      t.dropWhile (· == '#') = behind ∧ ∀ c, behind.head? = some c → c ≠ '#' := by
  obtain ⟨hashes, behind, ht, hhashes, hstop⟩ := exists_run (· == '#') t
  have hrun := run_eq hhashes hstop
  rw [← ht] at hrun
  have hreplicate : hashes = List.replicate (level t) '#' := by
    rw [List.eq_replicate_iff, level, hrun.1]
    exact ⟨rfl, fun c hc => by simpa using hhashes c hc⟩
  refine ⟨behind, ?_, hrun.2, fun c hc => by simpa using hstop c hc⟩
  rw [← hreplicate]
  exact ht

theorem opened?_of_glued {s : Section} {l : Line} (h : Glued s l) :
    Place.opened? l = some s := by
  obtain ⟨hashes, c, text, ht, hhashes, hc, -, hsection⟩ := h
  have hall : ∀ d ∈ hashes, (d == '#') = true := by
    rcases hhashes with rfl | rfl
    · simp
    · simp
  have hrun := run_eq (p := (· == '#')) (t := c :: text) hall (by simpa using hc)
  have hlevel : 1 ≤ level (trim l) ∧ level (trim l) ≤ 2 := by
    rw [level, ht, hrun.1]
    rcases hhashes with rfl | rfl
    · decide
    · decide
  simp only [Place.opened?]
  rw [if_pos (by simpa using hlevel), ht, hrun.2]
  exact hsection

/-- What stands behind one or two `#` of a line that is no heading is not a blank. -/
theorem solid_of_not_isHeading {l : Line} (h : isHeading l = false)
    (hlevel : 1 ≤ level (trim l) ∧ level (trim l) ≤ 2) :
    ((trim l).dropWhile (· == '#')).head?.all isBlank = false := by
  have hends := level_trimEnd (trimStart l)
  rw [← trim] at hends
  rw [hends.2, ← Bool.not_eq_true]
  intro hblank
  have hone : 1 ≤ level (trimStart l) := by omega
  have hsix : level (trimStart l) ≤ 6 := by omega
  simp [isHeading, hone, hsix, hblank] at h

/-- A line that is no heading opens the section that it is glued to, if there is one. -/
theorem opened?_eq_some_iff {l : Line} (h : isHeading l = false) {s : Section} :
    Place.opened? l = some s ↔ Glued s l := by
  refine ⟨?_, opened?_of_glued⟩
  intro hopened
  obtain ⟨behind, ht, hbehind, hstop⟩ := exists_hashes (trim l)
  by_cases hlevel : 1 ≤ level (trim l) ∧ level (trim l) ≤ 2
  · have hsection : Section.ofHeading? behind = some s := by
      simpa [Place.opened?, hbehind, hlevel] using hopened
    have hsolid := solid_of_not_isHeading h hlevel
    rw [hbehind] at hsolid
    cases behind with
    | nil => cases hsolid
    | cons c text =>
        refine ⟨_, c, text, ht, ?_, hstop c rfl, by simpa using hsolid, hsection⟩
        have htwo : level (trim l) = 1 ∨ level (trim l) = 2 := by omega
        rcases htwo with hone | htwo
        · exact .inl (by rw [hone]; rfl)
        · exact .inr (by rw [htwo]; rfl)
  · have hclosed : Place.opened? l = none := by
      rw [Place.opened?]
      exact if_neg (by simpa using hlevel)
    rw [hclosed] at hopened
    cases hopened

/-- The place behind a line is another one when the line opens another section. -/
theorem Place.past_ne_iff {p : Place} {l : Line} :
    p.past l ≠ p ↔ ∃ s, opened? l = some s ∧ p.inSection? ≠ some s := by
  unfold Place.past
  cases hopened : opened? l with
  | none => simp
  | some s =>
      by_cases hsame : p.inSection? = some s
      · simp [hsame]
      · have hmoved : (⟨some s, none⟩ : Place) ≠ p := by
          rintro rfl
          exact hsame rfl
        simp [hsame, hmoved]

/-! ## Lines that give the same answers -/

/-- Two lines give the same answers to all that the reader asks of a line on its way to the
categories of the entries. -/
structure Matched (l k : Line) : Prop where
  item : itemHeading? l = itemHeading? k
  opened : Place.opened? l = Place.opened? k
  described : (description? l).isSome = (description? k).isSome
  blank : isBlankLine l = isBlankLine k
  heading : isHeading l = isHeading k
  marked : isExampleMark l = isExampleMark k
  fenced : isFence l = isFence k

theorem Matched.past {l k : Line} (h : Matched l k) (p : Place) : p.past l = p.past k := by
  rw [Place.past, Place.past, h.opened]

/-- The same line, or a directive in the place of a line in which the reader sees nothing, where
both are glued to the same section or to none. -/
inductive Alike : Line → Line → Prop where
  | same (l : Line) : Alike l l
  | directive {l k : Line} (left : IsDirective l) (right : IsPlain k)
      (glued : ∀ s, Glued s l ↔ Glued s k) : Alike l k

theorem Alike.matched {l k : Line} (h : Alike l k) : Matched l k := by
  cases h with
  | same => exact ⟨rfl, rfl, rfl, rfl, rfl, rfl, rfl⟩
  | directive left right glued =>
      have hl := left.isPlain
      have hopened : Place.opened? l = Place.opened? k := by
        apply Option.ext
        intro s
        rw [opened?_eq_some_iff hl.plain, opened?_eq_some_iff right.plain]
        exact glued s
      exact
        { item := by
            rw [itemHeading?_of_not_isHeading hl.plain,
              itemHeading?_of_not_isHeading right.plain]
          opened := hopened
          described := by rw [hl.undescribed, right.undescribed]
          blank := by rw [hl.solid, right.solid]
          heading := by rw [hl.plain, right.plain]
          marked := by rw [hl.unmarked, right.unmarked]
          fenced := by rw [hl.unfenced, right.unfenced] }

/-- A question to which matched lines give the same answer ends a run in both at once. -/
theorem runs_of_matched {p : Line → Bool} (hp : ∀ l k, Matched l k → p l = p k)
    {ls ks : List Line} (h : List.Forall₂ Matched ls ks) :
    List.Forall₂ Matched (ls.dropWhile p) (ks.dropWhile p) := by
  induction h with
  | nil => exact .nil
  | @cons l k ls ks hline hbelow ih =>
      by_cases hgoes : p l = true
      · rw [List.dropWhile_cons_of_pos hgoes, List.dropWhile_cons_of_pos (hp l k hline ▸ hgoes)]
        exact ih
      · rw [List.dropWhile_cons_of_neg hgoes, List.dropWhile_cons_of_neg (hp l k hline ▸ hgoes)]
        exact .cons hline hbelow

/-- Both fail alike, or both come to results that belong together. -/
inductive Agree {ε α : Type} (R : α → α → Prop) : Except ε α → Except ε α → Prop where
  | error (e : ε) : Agree R (.error e) (.error e)
  | ok {a b : α} (h : R a b) : Agree R (.ok a) (.ok b)

theorem Agree.map {ε α β : Type} {R : α → α → Prop} {S : β → β → Prop} {x y : Except ε α}
    (h : Agree R x y) {f g : α → β} (hfg : ∀ a b, R a b → S (f a) (g b)) :
    Agree S (x.map f) (y.map g) := by
  cases h with
  | error e => exact .error e
  | ok h => exact .ok (hfg _ _ h)

namespace Body

variable {ls ks : List Line}

theorem seek_matched (h : List.Forall₂ Matched ls ks) (p : Place) :
    (seek p ls).1 = (seek p ks).1 ∧
      (seek p ls).2.1.isSome = (seek p ks).2.1.isSome ∧
      List.Forall₂ Matched (seek p ls).2.2 (seek p ks).2.2 := by
  induction h generalizing p with
  | nil => exact ⟨rfl, rfl, .nil⟩
  | @cons l k ls ks hline hbelow ih =>
      rw [seek, seek, ← hline.item]
      by_cases hitem : (itemHeading? l).isSome
      · rw [if_pos hitem, if_pos hitem]
        exact ⟨rfl, rfl, .cons hline hbelow⟩
      · rw [if_neg hitem, if_neg hitem]
        have hdescribed := hline.described
        cases hl : description? l with
        | some d =>
            cases hk : description? k with
            | some e => exact ⟨rfl, rfl, hbelow⟩
            | none => simp [hl, hk] at hdescribed
        | none =>
            cases hk : description? k with
            | some e => simp [hl, hk] at hdescribed
            | none =>
                rw [hline.past]
                exact ih (p.past k)

theorem readExample_matched (h : List.Forall₂ Matched ls ks) :
    Agree (fun a b => List.Forall₂ Matched a.2 b.2) (readExample ls) (readExample ks) := by
  cases h with
  | nil => exact .ok .nil
  | @cons l k ls ks hline hbelow =>
      rw [readExample, readExample, ← hline.marked]
      by_cases hmark : isExampleMark l = true
      · rw [if_pos hmark, if_pos hmark]
        have hsolid := runs_of_matched (p := isBlankLine) (fun _ _ h => h.blank) hbelow
        generalize ls.dropWhile isBlankLine = s at hsolid ⊢
        generalize ks.dropWhile isBlankLine = t at hsolid ⊢
        cases hsolid with
        | nil => exact .ok .nil
        | @cons f g inner inner' hopen hinner =>
            simp only [← hopen.fenced]
            by_cases hfence : isFence f = true
            · rw [if_pos hfence, if_pos hfence]
              have hlength := hinner.length_eq
              have hclose := runs_of_matched (p := (!isFence ·))
                (fun _ _ h => congrArg not h.fenced) hinner
              generalize inner.dropWhile (!isFence ·) = s at hclose ⊢
              generalize inner'.dropWhile (!isFence ·) = t at hclose ⊢
              cases hclose with
              | nil =>
                  -- never closed: the error counts the lines below, as many in both
                  rw [hlength]
                  exact .error _
              | cons _ hrest => exact .ok hrest
            · rw [if_neg hfence, if_neg hfence]
              exact .ok (.cons hopen hinner)
      · rw [if_neg hmark, if_neg hmark]
        exact .ok (.cons hline hbelow)

/-- Both bodies end at one place, or there is none in both, and the lines left are matched. -/
def Beside (a b : Place × Option Body × List Line) : Prop :=
  a.1 = b.1 ∧ a.2.1.isSome = b.2.1.isSome ∧ List.Forall₂ Matched a.2.2 b.2.2

theorem exampleStart_matched (h : List.Forall₂ Matched ls ks) :
    List.Forall₂ Matched (exampleStart ls) (exampleStart ks) := by
  apply runs_of_matched
  · intro l k hline
    rw [hline.marked, hline.heading]
  · apply runs_of_matched ?_ h
    intro l k hline
    rw [endsDescription, endsDescription, hline.blank, hline.marked, hline.heading]

theorem read_matched (h : List.Forall₂ Matched ls ks) (p : Place) :
    Agree Beside (read p ls) (read p ks) := by
  obtain ⟨hplace, hfirst, hrest⟩ := seek_matched h p
  rcases hl : seek p ls with ⟨q, first?, rest⟩
  rcases hk : seek p ks with ⟨q', first?', rest'⟩
  rw [hl, hk] at hplace hfirst hrest
  obtain rfl : q = q' := hplace
  cases first? with
  | none =>
      cases first?' with
      | some first' => cases hfirst
      | none =>
          rw [read_of_seek_none hl, read_of_seek_none hk]
          exact .ok ⟨rfl, rfl, hrest⟩
  | some first =>
      cases first?' with
      | none => cases hfirst
      | some first' =>
          rw [read_of_seek_some hl, read_of_seek_some hk]
          exact (readExample_matched (exampleStart_matched hrest)).map fun _ _ h => ⟨rfl, rfl, h⟩

end Body

/-! ## Readings that list the same tokens -/

/-- What a list shows of an entry: its token and its category. -/
def label (e : Entry) : String × Category := (e.token, e.category)

/-- Two readings stand at the same place, and the entries read so far are the same up to their
descriptions and examples. -/
structure Progress.Level (r r' : Progress) : Prop where
  place : r.place = r'.place
  labels : r.entries.toList.map label = r'.entries.toList.map label

theorem label_added? (p : Place) (heading : List Char) (b b' : Body) :
    (p.added? heading b).map label = (p.added? heading b').map label := by
  unfold Place.added?
  cases p.inSection? with
  | none => rfl
  | some s =>
      by_cases htoken : tokenOf heading = []
      · simp [htoken]
      · simp [htoken, label, Entry.make]

theorem Progress.Level.takeItem {r r' : Progress} (h : r.Level r') (p : Place)
    (heading : List Char) {b? b?' : Option Body} (hbody : b?.isSome = b?'.isSome) :
    (r.takeItem p heading b?).Level (r'.takeItem p heading b?') := by
  cases b? with
  | none =>
      cases b?' with
      | some b' => cases hbody
      | none => exact ⟨rfl, h.labels⟩
  | some b =>
      cases b?' with
      | none => cases hbody
      | some b' =>
          refine ⟨?_, ?_⟩
          · rw [place_takeItem, place_takeItem]
          · have hlabel := congrArg Option.toList (label_added? p heading b b')
            rw [Option.toList_map, Option.toList_map] at hlabel
            rw [entries_takeItem, entries_takeItem, List.map_append, List.map_append, h.labels,
              hlabel]

/-- A step takes matched lines alike. -/
theorem step_matched {r r' : Progress} (hr : r.Level r') {l k : Line} (hline : Matched l k)
    {ls ks : List Line} (hbelow : List.Forall₂ Matched ls ks) :
    Agree (fun a b => a.1.Level b.1 ∧ List.Forall₂ Matched a.2 b.2)
      (step r l ls) (step r' k ks) := by
  have hpast : r.place.past l = r'.place.past k := by
    rw [hr.place, hline.past]
  rw [step, step, ← hline.item]
  cases itemHeading? l with
  | none => exact .ok ⟨⟨hpast, hr.labels⟩, hbelow⟩
  | some heading =>
      -- both bodies are read from one place, so they end at one place
      have hread := Body.read_matched hbelow r.place
      rw [← hr.place]
      simp only
      generalize Body.read r.place ls = x at hread ⊢
      generalize Body.read r.place ks = y at hread ⊢
      cases hread with
      | error n => exact .error _
      | @ok a b h =>
          obtain ⟨p, b?, rest⟩ := a
          obtain ⟨p', b?', rest'⟩ := b
          obtain ⟨hplace, hbody, hrest⟩ := h
          obtain rfl : p = p' := hplace
          exact .ok ⟨hr.takeItem p heading hbody, hrest⟩

/-- Readings of matched lines stay level, and are stopped alike if they are. -/
theorem readLines_matched {r r' : Progress} (hr : r.Level r') {ls ks : List Line}
    (h : List.Forall₂ Matched ls ks) :
    (readLines r ls).1.Level (readLines r' ks).1 ∧
      (readLines r ls).2 = (readLines r' ks).2 := by
  fun_induction readLines r ls generalizing r' ks with
  | case1 r =>
      cases h
      rw [readLines_nil]
      exact ⟨hr, rfl⟩
  | case2 r l ls u hstep =>
      cases h with
      | @cons _ k _ ks hline hbelow =>
          have hagree := step_matched hr hline hbelow
          rw [hstep] at hagree
          rw [readLines_cons]
          generalize step r' k ks = x at hagree ⊢
          cases hagree
          exact ⟨hr, rfl⟩
  | case3 r l ls r₁ rest hstep ih =>
      cases h with
      | @cons _ k _ ks hline hbelow =>
          have hagree := step_matched hr hline hbelow
          rw [hstep] at hagree
          rw [readLines_cons]
          generalize step r' k ks = x at hagree ⊢
          cases hagree with
          | ok hnext => exact ih hnext.1 hnext.2

/-- References whose lines are matched list the same tokens in the same categories, or fail on the
same example. -/
theorem parse_matched {a b : String}
    (h : List.Forall₂ Matched (lines a.toList) (lines b.toList)) :
    (parse a).map (List.map label) = (parse b).map (List.map label) := by
  have hstart : Progress.start.Level .start := ⟨rfl, rfl⟩
  obtain ⟨hlevel, hstop⟩ := readLines_matched hstart h
  rw [parse_eq, parse_eq, ← hstop, h.length_eq]
  cases (readLines .start (lines a.toList)).2 with
  | some u => rfl
  | none => exact congrArg Except.ok hlevel.labels

/-- A line that is no heading changes the place when it is glued to the name of another section,
and else never. A directive that is not glued counts for nothing: any plain line in its place
gives the same tokens in the same categories. -/
theorem directives_count_where_glued (p : Place) (l : Line) (source other : String) :
    (isHeading l = false →
      (p.past l ≠ p ↔ ∃ s, Glued s l ∧ p.inSection? ≠ some s)) ∧
    (List.Forall₂ Alike (lines source.toList) (lines other.toList) →
      (parse source).map (List.map label) = (parse other).map (List.map label)) := by
  constructor
  · intro hplain
    rw [Place.past_ne_iff]
    simp only [opened?_eq_some_iff hplain]
  · intro halike
    apply parse_matched
    exact halike.imp fun _ _ h => h.matched

/-- A builtin with a line above its heading. -/
def underLine (l : String) : String :=
  "## Builtins\n" ++ l ++ "\n### \x60x\x60\n**Description**: d\n"

theorem lines_underLine {l : String} (hfree : '\n' ∉ l.toList)
    (hkept : l.toList.getLast? ≠ some '\r') :
    lines (underLine l).toList =
      ["## Builtins".toList, l.toList, "### \x60x\x60".toList, "**Description**: d".toList] := by
  have htext : (underLine l).toList =
      ["## Builtins".toList, l.toList, "### \x60x\x60".toList,
        "**Description**: d".toList].flatMap (· ++ ['\n']) := by
    simp [underLine, String.toList_append]
  rw [htext, lines_ended]
  · simp only [List.map_cons, List.map_nil, dropReturn_eq_self_iff.2 hkept]
    rfl
  · simpa using hfree

theorem isDirective_define : IsDirective "#define keywords".toList :=
  ⟨⟨_, rfl⟩, by decide⟩

theorem isDirective_include : IsDirective "#include <stdio.h>".toList :=
  ⟨⟨_, rfl⟩, by decide⟩

theorem directives_count_where_glued_define :
    Place.past ⟨some .builtins, none⟩ "#define keywords".toList ≠ ⟨some .builtins, none⟩ ∧
    (parse (underLine "#include <stdio.h>")).map (List.map label) =
      (parse (underLine "See below.")).map (List.map label) := by
  have hmain := directives_count_where_glued ⟨some .builtins, none⟩ "#define keywords".toList
    (underLine "#include <stdio.h>") (underLine "See below.")
  constructor
  · apply (hmain.1 isDirective_define.plain).2
    refine ⟨.keywords, ?_, by decide⟩
    exact ⟨['#'], 'd', "efine keywords".toList, by decide, .inl rfl, by decide, by decide,
      by decide⟩
  · apply hmain.2
    have hplain : IsPlain "See below.".toList :=
      ⟨by decide, by decide, by decide, by decide, by decide⟩
    rw [lines_underLine (by decide) (by decide), lines_underLine (by decide) (by decide)]
    refine .cons (.same _) (.cons ?_ (.cons (.same _) (.cons (.same _) .nil)))
    refine .directive isDirective_include hplain ?_
    intro s
    rw [← opened?_eq_some_iff isDirective_include.plain, ← opened?_eq_some_iff hplain.plain]
    have hinclude : Place.opened? "#include <stdio.h>".toList = none := by decide
    have hbelow : Place.opened? "See below.".toList = none := by decide
    rw [hinclude, hbelow]

/-- Directives do not count for nothing: `#define keywords` opens the keywords, and so makes a
keyword of a builtin below it, as `#include <stdio.h>` does not. -/
theorem not_only_headings_count :
    (¬∀ (p : Place) (l : Line), isHeading l = false → p.past l = p) ∧
    ¬∀ a b : String,
      List.Forall₂ (fun l k => l = k ∨ IsDirective l ∧ IsDirective k) (lines a.toList)
        (lines b.toList) →
      (parse a).map (List.map label) = (parse b).map (List.map label) := by
  constructor
  · intro h
    have hsame := h ⟨some .builtins, none⟩ _ isDirective_define.plain
    exact absurd hsame (by decide)
  · intro h
    have hsame := h (underLine "#define keywords") (underLine "#include <stdio.h>") (by
      rw [lines_underLine (by decide) (by decide), lines_underLine (by decide) (by decide)]
      have hdirectives := And.intro isDirective_define isDirective_include
      exact .cons (.inl rfl) (.cons (.inr hdirectives)
        (.cons (.inl rfl) (.cons (.inl rfl) .nil))))
    have hkeyword : (parse (underLine "#define keywords")).map (List.map label) =
        .ok [("x", .keyword)] := by
      decide +kernel
    have hbuiltin : (parse (underLine "#include <stdio.h>")).map (List.map label) =
        .ok [("x", .builtinFunction)] := by
      decide +kernel
    rw [hkeyword, hbuiltin] at hsame
    exact absurd hsame (by decide)

end Glossary.Reference
