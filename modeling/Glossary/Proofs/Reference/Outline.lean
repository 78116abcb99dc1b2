import Glossary.Proofs.Reference.Reading
import Mathlib.Data.List.Induction

/-!
# Headings and the categories they lead to

The category of an entry is decided by headings: the section is the one opened
last, and the group is named by the last group heading below the heading that
opened the section. A section heading that names the open section again opens
nothing.

An item's body is sought before the item is taken in. Sections that are opened
in between are opened first, so a group heading counts only where the next item
begins. A group heading at the end of one section can therefore name a group of
the next one, and an entry can stand in a section that is opened below its
heading. Where no group heading does the former and no entry the latter, the
headings count in the order in which they stand.

## Main results

* `leadsTo_iff` — what the headings lead to is what the place says.
* `readLines_outline` — the entries of a reading, from its outline.
* `category_of_parse` — which headings decide about an entry.
-/

namespace Glossary.Reference

open Text

/-! ## Headings -/

/-- A heading as far as it bears on categories. -/
inductive Heading where
  | opens (s : Section)
  | group (text : List Char)
  deriving DecidableEq, Repr

/-- The section opened last. -/
def lastOpened? (above : List Heading) : Option Section :=
  above.reverse.findSome? fun
    | .opens s => some s
    | .group _ => none

/-- The group of a section that was named last. -/
def lastNamed? (s : Section) (below : List Heading) : Option Category :=
  below.reverse.findSome? fun
    | .opens _ => none
    | .group text => s.group? text

/-- The category of an entry below some headings: the last heading that opened a
section opened its section, and the last group named below it is its group. -/
def LeadsTo (above : List Heading) (c : Category) : Prop :=
  ∃ (before : List Heading) (s : Section) (below : List Heading),
    above = before ++ .opens s :: below ∧ lastOpened? before ≠ some s ∧
      (∀ t, .opens t ∈ below → t = s) ∧ c = (lastNamed? s below).getD s.defaultCategory

/-- The place behind a heading. -/
def Place.behind (p : Place) : Heading → Place
  | .opens s => if p.inSection? = some s then p else ⟨some s, none⟩
  | .group text => p.within text

/-- The place below some headings. -/
def placeUnder (above : List Heading) : Place := above.foldl Place.behind .outside

theorem placeUnder_append (above below : List Heading) :
    placeUnder (above ++ below) = below.foldl Place.behind (placeUnder above) :=
  List.foldl_append

theorem lastOpened?_concat_opens (above : List Heading) (s : Section) :
    lastOpened? (above ++ [.opens s]) = some s := by
  simp [lastOpened?]

theorem lastOpened?_concat_group (above : List Heading) (text : List Char) :
    lastOpened? (above ++ [.group text]) = lastOpened? above := by
  simp [lastOpened?]

theorem Place.inSection?_within (p : Place) (heading : List Char) :
    (p.within heading).inSection? = p.inSection? := by
  unfold within
  split <;> rfl

theorem Place.inSection?_behind_opens (p : Place) (s : Section) :
    (p.behind (.opens s)).inSection? = some s := by
  by_cases h : p.inSection? = some s
  · rw [behind, if_pos h, h]
  · rw [behind, if_neg h]

theorem inSection?_placeUnder (above : List Heading) :
    (placeUnder above).inSection? = lastOpened? above := by
  induction above using List.reverseRecOn with
  | nil => rfl
  | append_singleton above h ih =>
      rw [placeUnder_append]
      cases h with
      | opens s => rw [lastOpened?_concat_opens]; exact Place.inSection?_behind_opens _ s
      | group text => rw [lastOpened?_concat_group, ← ih]; exact Place.inSection?_within _ text

/-- Within a section, only the groups named count. -/
theorem foldl_behind_stay {s : Section} {below : List Heading}
    (h : ∀ t, .opens t ∈ below → t = s) (g : Option Category) :
    below.foldl Place.behind ⟨some s, g⟩ = ⟨some s, (lastNamed? s below).or g⟩ := by
  induction below using List.reverseRecOn with
  | nil => rfl
  | append_singleton below heading ih =>
      have hstay : ∀ t, .opens t ∈ below → t = s := fun t ht => h t (by simp [ht])
      rw [List.foldl_append, ih hstay]
      cases heading with
      | opens t =>
          obtain rfl := h t (by simp)
          simp [Place.behind, lastNamed?]
      | group text =>
          cases hgroup : s.group? text with
          | none => simp [Place.behind, Place.within, lastNamed?, hgroup]
          | some c => simp [Place.behind, Place.within, lastNamed?, hgroup]

/-- The place in a section is the one behind the heading that opened it. -/
theorem placeUnder_of_opened {before below : List Heading} {s : Section}
    (hbefore : lastOpened? before ≠ some s) (hbelow : ∀ t, .opens t ∈ below → t = s) :
    placeUnder (before ++ .opens s :: below) = ⟨some s, lastNamed? s below⟩ := by
  have hopen : (placeUnder before).behind (.opens s) = ⟨some s, none⟩ := by
    rw [Place.behind, inSection?_placeUnder, if_neg hbefore]
  rw [placeUnder_append, List.foldl_cons, hopen, foldl_behind_stay hbelow, Option.or_none]

/-- A section that is open was opened by one of the headings. -/
theorem exists_opened {above : List Heading} {s : Section} (h : lastOpened? above = some s) :
    ∃ before below, above = before ++ .opens s :: below ∧ lastOpened? before ≠ some s ∧
      ∀ t, .opens t ∈ below → t = s := by
  induction above using List.reverseRecOn with
  | nil => cases h
  | append_singleton above heading ih =>
      by_cases hopen : lastOpened? above = some s
      · obtain ⟨before, below, rfl, hbefore, hbelow⟩ := ih hopen
        refine ⟨before, below ++ [heading], by simp, hbefore, ?_⟩
        intro t ht
        rcases List.mem_append.1 ht with ht | ht
        · exact hbelow t ht
        · obtain rfl := List.mem_singleton.1 ht
          rw [lastOpened?_concat_opens] at h
          exact Option.some.inj h
      · cases heading with
        | group text =>
            rw [lastOpened?_concat_group] at h
            exact absurd h hopen
        | opens t =>
            rw [lastOpened?_concat_opens] at h
            obtain rfl := Option.some.inj h
            exact ⟨above, [], rfl, hopen, by simp⟩

theorem leadsTo_iff {above : List Heading} {c : Category} :
    LeadsTo above c ↔
      (placeUnder above).inSection?.map (placeUnder above).category = some c := by
  rw [Option.map_eq_some_iff]
  constructor
  · rintro ⟨before, s, below, rfl, hbefore, hbelow, rfl⟩
    rw [placeUnder_of_opened hbefore hbelow]
    exact ⟨s, rfl, rfl⟩
  · rintro ⟨s, hsection, rfl⟩
    rw [inSection?_placeUnder] at hsection
    obtain ⟨before, below, rfl, hbefore, hbelow⟩ := exists_opened hsection
    refine ⟨before, s, below, rfl, hbefore, hbelow, ?_⟩
    rw [placeUnder_of_opened hbefore hbelow]
    rfl

instance (above : List Heading) (c : Category) : Decidable (LeadsTo above c) :=
  decidable_of_iff _ leadsTo_iff.symm

/-! ## The outline of a reference -/

/-- A part of a reference: a heading that opens a section, or an item's heading
with the sections opened between it and its body, or the next item if it has no
body. -/
inductive Part where
  | opens (s : Section)
  | item (heading : List Char) (passed : List Section) (body? : Option Body)
  deriving DecidableEq, Repr

/-- The sections that lines open before the next description or item. -/
def sectionsAhead (ls : List Line) : List Section :=
  (ls.takeWhile fun l => (itemHeading? l).isNone && (description? l).isNone).filterMap
    Place.opened?

/-- The parts of a reference up to an example that is never closed. -/
def outline (ls : List Line) : List Part :=
  match ls with
  | [] => []
  | l :: ls =>
      match itemHeading? l with
      | none => ((Place.opened? l).map Part.opens).toList ++ outline ls
      | some heading =>
          match _h : Body.read .outside ls with
          | .error _ => []
          | .ok (_, body?, rest) => .item heading (sectionsAhead ls) body? :: outline rest
termination_by ls.length
decreasing_by
  · simp
  · exact Nat.lt_succ_of_le (Body.read_suffix _h).length_le

/-- The headings of a part in the order in which they stand. -/
def Part.headings : Part → List Heading
  | .opens s => [.opens s]
  | .item heading passed none => .group heading :: passed.map .opens
  | .item _ passed (some _) => passed.map .opens

/-- The headings of a part in the order in which they count: a group heading does
so behind the sections that are opened below it. -/
def Part.counted : Part → List Heading
  | .opens s => [.opens s]
  | .item heading passed none => passed.map .opens ++ [.group heading]
  | .item _ passed (some _) => passed.map .opens

/-- If sections are opened between a group heading and the next item, the heading
names no group of the last of them. -/
def Part.Orderly : Part → Prop
  | .item heading passed none => ∀ s ∈ passed.getLast?, s.group? heading = none
  | _ => True

/-- The entry of a part at a place. -/
def Part.added? (p : Place) : Part → Option Entry
  | .item heading passed (some body) =>
      ((passed.map .opens).foldl Place.behind p).added? heading body
  | _ => none

/-- The entries of some parts from a place on. -/
def entriesFrom (p : Place) : List Part → List Entry
  | [] => []
  | part :: parts =>
      (part.added? p).toList ++ entriesFrom (part.counted.foldl Place.behind p) parts

/-! ## Reading along the outline -/

theorem Place.past_eq (p : Place) (l : Line) :
    p.past l = (((Place.opened? l).map Heading.opens).toList).foldl Place.behind p := by
  unfold past
  cases opened? l with
  | none => rfl
  | some s => rfl

theorem foldl_sectionsAhead_cons {l : Line} (hitem : itemHeading? l = none)
    (hdescription : description? l = none) (p : Place) (ls : List Line) :
    ((sectionsAhead (l :: ls)).map .opens).foldl Place.behind p =
      ((sectionsAhead ls).map .opens).foldl Place.behind (p.past l) := by
  rw [sectionsAhead, List.takeWhile_cons_of_pos (by simp [hitem, hdescription]),
    List.filterMap_cons, Place.past_eq]
  cases Place.opened? l with
  | none => rfl
  | some s => rfl

theorem sectionsAhead_of_stop {l : Line}
    (h : ((itemHeading? l).isNone && (description? l).isNone) = false) (ls : List Line) :
    sectionsAhead (l :: ls) = [] := by
  rw [sectionsAhead, List.takeWhile_cons_of_neg (by simp [h])]
  rfl

/-- What is sought does not depend on the place, and the place moves past the
sections ahead. -/
theorem seek_eq (p : Place) (ls : List Line) :
    Body.seek p ls =
      (((sectionsAhead ls).map .opens).foldl Place.behind p, (Body.seek .outside ls).2) := by
  suffices h : ∀ q, Body.seek p ls =
      (((sectionsAhead ls).map .opens).foldl Place.behind p, (Body.seek q ls).2) from h _
  intro q
  induction ls generalizing p q with
  | nil => rfl
  | cons l ls ih =>
      cases hitem : itemHeading? l with
      | some heading =>
          rw [sectionsAhead_of_stop (by simp [hitem])]
          simp [Body.seek, hitem]
      | none =>
          cases hdescription : description? l with
          | some d =>
              rw [sectionsAhead_of_stop (by simp [hdescription])]
              simp [Body.seek, hitem, hdescription]
          | none =>
              rw [foldl_sectionsAhead_cons hitem hdescription]
              simpa [Body.seek, hitem, hdescription] using ih (p.past l) (q.past l)

theorem read_eq (p : Place) (ls : List Line) :
    Body.read p ls = (Body.read .outside ls).map fun (_, body?, rest) =>
      (((sectionsAhead ls).map .opens).foldl Place.behind p, body?, rest) := by
  rw [Body.read, Body.read, seek_eq p, seek_eq .outside]
  generalize (Body.seek .outside ls).2 = sought
  obtain ⟨_ | first, rest⟩ := sought
  · rfl
  · simp only
    cases Body.readExample ((rest.dropWhile (!endsDescription ·)).dropWhile
        fun l => !(isExampleMark l || isHeading l)) with
    | error n => rfl
    | ok v => rfl

/-- An item reads alike at any place, the place behind it aside. -/
theorem read_outside {p p' : Place} {body? : Option Body} {ls rest : List Line}
    (h : Body.read p ls = .ok (p', body?, rest)) :
    ∃ q, Body.read .outside ls = .ok (q, body?, rest) ∧
      p' = ((sectionsAhead ls).map .opens).foldl Place.behind p := by
  rw [read_eq] at h
  cases hout : Body.read .outside ls with
  | error n =>
      rw [hout] at h
      cases h
  | ok v =>
      obtain ⟨q, b, left⟩ := v
      rw [hout] at h
      obtain ⟨rfl, rfl, rfl⟩ := by simpa [Except.map] using h
      exact ⟨q, rfl, rfl⟩

theorem outline_of_line {l : Line} (h : itemHeading? l = none) (ls : List Line) :
    outline (l :: ls) = ((Place.opened? l).map Part.opens).toList ++ outline ls := by
  rw [outline, h]

theorem outline_of_item {l : Line} {heading : List Char} (h : itemHeading? l = some heading)
    {q : Place} {body? : Option Body} {ls rest : List Line}
    (hread : Body.read .outside ls = .ok (q, body?, rest)) :
    outline (l :: ls) = .item heading (sectionsAhead ls) body? :: outline rest := by
  rw [outline, h]
  simp only
  split
  · next hread' => simp [hread] at hread'
  · next hread' =>
      rw [hread] at hread'
      obtain ⟨-, rfl, rfl⟩ := by simpa using hread'
      rfl

theorem entriesFrom_opened (p : Place) (l : Line) (parts : List Part) :
    entriesFrom p (((Place.opened? l).map Part.opens).toList ++ parts) =
      entriesFrom (p.past l) parts := by
  rw [Place.past_eq]
  cases Place.opened? l with
  | none => rfl
  | some s => rfl

/-- The entries of a reading that is not stopped are those of the outline. -/
theorem readLines_outline (r : Progress) (ls : List Line) (h : (readLines r ls).2 = none) :
    (readLines r ls).1.entries.toList = r.entries.toList ++ entriesFrom r.place (outline ls) := by
  fun_induction readLines r ls with
  | case1 r => simp [outline, entriesFrom]
  | case2 r l ls u hstep => cases h
  | case3 r l ls r' rest hstep ih =>
      rw [ih h]
      obtain ⟨hitem, rfl, rfl⟩ | ⟨heading, p, body?, hitem, hread, rfl⟩ := step_cases hstep
      · rw [outline_of_line hitem, entriesFrom_opened]
      · obtain ⟨q, hout, rfl⟩ := read_outside hread
        rw [outline_of_item hitem hout, entriesFrom]
        cases body? with
        | none => simp [Progress.takeItem, Part.added?, Part.counted, Place.behind]
        | some body =>
            rw [entries_takeItem, place_takeItem]
            simp [Part.added?, Part.counted]

/-- An entry among those of some parts stands below the parts in front of its own. -/
theorem exists_of_mem_entriesFrom {p : Place} {parts : List Part} {e : Entry}
    (he : e ∈ entriesFrom p parts) : ∃ above part below,
      parts = above ++ part :: below ∧
        part.added? ((above.flatMap Part.counted).foldl Place.behind p) = some e := by
  induction parts generalizing p with
  | nil => cases he
  | cons part parts ih =>
      rw [entriesFrom, List.mem_append, Option.mem_toList] at he
      rcases he with he | he
      · exact ⟨[], part, parts, rfl, he⟩
      · obtain ⟨above, part', below, rfl, hentry⟩ := ih he
        refine ⟨part :: above, part', below, rfl, ?_⟩
        rw [List.flatMap_cons, List.foldl_append]
        exact hentry

/-! ## The order in which headings count -/

/-- Sections that end in another one leave nothing of the group that was open. -/
theorem foldl_opens_congr {passed : List Section} {t : Section}
    (hlast : passed.getLast? = some t) {p q : Place} (hsame : p.inSection? = q.inSection?)
    (hother : p.inSection? ≠ some t) :
    (passed.map .opens).foldl Place.behind p = (passed.map .opens).foldl Place.behind q := by
  induction passed with
  | nil => cases hlast
  | cons s passed ih =>
      by_cases hopen : p.inSection? = some s
      · have hp : p.behind (.opens s) = p := if_pos hopen
        have hq : q.behind (.opens s) = q := if_pos (hsame ▸ hopen)
        have hmore : passed.getLast? = some t := by
          cases passed with
          | nil => exact absurd (hopen.trans hlast) hother
          | cons => simpa using hlast
        simpa [hp, hq] using ih hmore
      · have hp : p.behind (.opens s) = ⟨some s, none⟩ := if_neg hopen
        have hq : q.behind (.opens s) = ⟨some s, none⟩ := if_neg (hsame ▸ hopen)
        simp [hp, hq]

theorem inSection?_foldl_opens {passed : List Section} {t : Section}
    (hlast : passed.getLast? = some t) (p : Place) :
    ((passed.map .opens).foldl Place.behind p).inSection? = some t := by
  obtain ⟨passed, rfl⟩ := List.getLast?_eq_some_iff.1 hlast
  rw [List.map_append, List.foldl_append]
  exact Place.inSection?_behind_opens _ t

theorem Place.within_of_none {p : Place} {s : Section} (hs : p.inSection? = some s)
    {heading : List Char} (h : s.group? heading = none) : p.within heading = p := by
  simp [within, hs, h]

/-- The headings of an orderly part lead to one place in either order. -/
theorem Part.Orderly.foldl_headings {part : Part} (h : part.Orderly) (p : Place) :
    part.headings.foldl Place.behind p = part.counted.foldl Place.behind p := by
  match part, h with
  | .opens s, _ => rfl
  | .item heading passed (some body), _ => rfl
  | .item heading passed none, h =>
      rw [Part.headings, Part.counted, List.foldl_append, List.foldl_cons]
      cases hlast : passed.getLast? with
      | none =>
          obtain rfl := List.getLast?_eq_none_iff.1 hlast
          rfl
      | some t =>
          have hnone : t.group? heading = none := h t hlast
          refine Eq.trans ?_
            (Place.within_of_none (inSection?_foldl_opens hlast p) hnone).symm
          by_cases hopen : p.inSection? = some t
          · rw [show p.behind (.group heading) = p from Place.within_of_none hopen hnone]
          · apply foldl_opens_congr hlast
            · exact Place.inSection?_within p heading
            · rwa [show (p.behind (.group heading)).inSection? = p.inSection? from
                Place.inSection?_within p heading]

theorem foldl_headings_of_orderly {parts : List Part} (h : ∀ part ∈ parts, part.Orderly)
    (p : Place) :
    (parts.flatMap Part.headings).foldl Place.behind p =
      (parts.flatMap Part.counted).foldl Place.behind p := by
  induction parts generalizing p with
  | nil => rfl
  | cons part parts ih =>
      rw [List.flatMap_cons, List.flatMap_cons, List.foldl_append, List.foldl_append,
        (h part (by simp)).foldl_headings p]
      exact ih (fun part' hpart => h part' (by simp [hpart])) _

/-! ## The entries of a reference -/

/-- The entries of a reference are those of its outline, in order. -/
theorem parse_outline {source : String} {es : List Entry} (h : parse source = .ok es) :
    es = entriesFrom .outside (outline (lines source.toList)) := by
  obtain ⟨herror, rfl⟩ := parse_eq_ok_iff.1 h
  have hend : (readLines .start (lines source.toList)).2 = none := by
    simpa [read, readAll] using herror
  have hrun := readLines_outline .start (lines source.toList) hend
  simpa [read, readAll, Progress.start] using hrun

/-- The category of an entry is the one that the headings above its body lead to,
in the order in which they count. Where the parts above the entry are orderly, it
is the one that they lead to in the order in which they stand. -/
theorem category_of_parse {source : String} {es : List Entry} (h : parse source = .ok es)
    {e : Entry} (he : e ∈ es) :
    ∃ above heading passed body below,
      outline (lines source.toList) = above ++ .item heading passed (some body) :: below ∧
      e = Entry.make (String.ofList (tokenOf heading)) e.category
        (String.ofList body.description) (body.example?.map String.ofList) ∧
      LeadsTo (above.flatMap Part.counted ++ passed.map .opens) e.category ∧
      ((∀ part ∈ above, part.Orderly) →
        LeadsTo (above.flatMap Part.headings ++ passed.map .opens) e.category) := by
  rw [parse_outline h] at he
  obtain ⟨above, part, below, houtline, hentry⟩ := exists_of_mem_entriesFrom he
  match part, hentry with
  | .item heading passed (some body), hentry =>
      obtain ⟨s, hsection, hcategory, hmake⟩ := Place.added?_eq_some hentry
      have hcounted : LeadsTo (above.flatMap Part.counted ++ passed.map .opens) e.category := by
        rw [leadsTo_iff, placeUnder_append, placeUnder, hsection, ← hcategory]
        rfl
      refine ⟨above, heading, passed, body, below, houtline, hmake, hcounted, ?_⟩
      intro horderly
      rw [leadsTo_iff, placeUnder_append, placeUnder, foldl_headings_of_orderly horderly,
        ← placeUnder, ← placeUnder_append, ← leadsTo_iff]
      exact hcounted

/-- A group heading at the end of a section, and an entry in the next one. -/
def lateGroup : String :=
  "## Keywords\n### Constants\n## Builtins\n### \x60x\x60\n**Description**: d\n"

theorem parse_lateGroup :
    parse lateGroup = .ok [⟨"x", .builtinConstant, "d", none⟩] := by
  decide +kernel

theorem category_of_parse_lateGroup :
    parse lateGroup = .ok [⟨"x", .builtinConstant, "d", none⟩] ∧
    ∃ above heading passed body below,
      outline (lines lateGroup.toList) = above ++ .item heading passed (some body) :: below ∧
      LeadsTo (above.flatMap Part.counted ++ passed.map .opens) .builtinConstant := by
  obtain ⟨above, heading, passed, body, below, houtline, -, hcounted, -⟩ :=
    category_of_parse parse_lateGroup (List.mem_singleton_self _)
  exact ⟨parse_lateGroup, above, heading, passed, body, below, houtline, hcounted⟩

/-- The headings do not always count in the order in which they stand: `Constants`
names nothing among the keywords, but makes a constant of the first builtin. -/
theorem not_category_in_order :
    ¬∀ source es, parse source = .ok es → ∀ e ∈ es, ∃ above heading passed body below,
      outline (lines source.toList) = above ++ .item heading passed (some body) :: below ∧
      LeadsTo (above.flatMap Part.headings) e.category := by
  intro h
  obtain ⟨above, heading, passed, body, below, hsplit, hleads⟩ :=
    h lateGroup _ parse_lateGroup _ (List.mem_singleton_self _)
  have houtline : outline (lines lateGroup.toList) =
      [.opens .keywords, .item "Constants".toList [.builtins] none,
        .item "\x60x\x60".toList [] (some ⟨['d'], none⟩)] := by
    decide +kernel
  rw [houtline] at hsplit
  rcases above with _ | ⟨first, _ | ⟨second, _ | ⟨third, above⟩⟩⟩
  · simp at hsplit
  · simp at hsplit
  · obtain ⟨rfl, rfl, -⟩ := by simpa using hsplit
    exact absurd hleads (by decide +kernel)
  · simp at hsplit

end Glossary.Reference
