import Glossary.Proofs.Reference.Body
import Mathlib.Data.List.Basic

/-!
# References in their documented form

Entries can be written down one after the other: the heading of the section, the
heading of the group unless the entry is a keyword, the heading of the entry with
the token in backticks, the description behind its mark, the example between
fences, and an empty line. Such a text is read back as these entries, in order,
a repeated one as often as it stands there.

Not every entry fits the form. A token must not hold backticks or blanks, and a
description must not hold a line that would end it. The lines of an example may
look like anything but a closing fence, and they must not end in a carriage
return, which is taken for a part of the line's end. Where an example breaks that
rule, some entry is read differently or none is read at all, so the rule is
exact.

Reading goes entry by entry. The headings lead to the place of the category from
wherever the reading stands, because a section that is opened anew has no group
and the group's heading is followed by the entry's own.

## Main results

* `readLines_headings` — the headings lead to the category.
* `read_body` — the body is read up to the end of the entry.
* `readLines_entryLines` — one entry is added, with the example as it is read.
* `readText_eq_iff` — which examples are read as they are.
* `parse_write_iff` — which references are read back.
-/

namespace Glossary

open Text

/-! ## The form of an entry -/

/-- The word that heads the group of a category; keywords stand in no group. -/
def Category.groupWord? : Category → Option String
  | .keyword | .identifier => none
  | .builtinConstant => some "Constants"
  | .builtinFunction => some "Functions"
  | .builtinType => some "Types"
  | .exceptionType => some "Exceptions"
  | .warningType => some "Warnings"
  | .operator => some "Operators"
  | .delimiter => some "Delimiters"

namespace Reference

/-- The heading of a section. -/
def sectionLine (s : Section) : Line := '#' :: '#' :: ' ' :: s.title.toList

/-- The heading of a group or of an entry. -/
def itemLine (text : List Char) : Line := '#' :: '#' :: '#' :: ' ' :: text

/-- A token in backticks. -/
def quotedToken (e : Entry) : List Char := '\x60' :: (e.token.toList ++ ['\x60'])

/-- The description behind its mark; its further lines stand as they are. -/
def descriptionLines (e : Entry) : List Line :=
  pieces (descriptionMark ++ ' ' :: e.description.toList)

/-- An example between its fences, announced. -/
def exampleLines (inner : List Line) : List Line := exampleMark :: fence :: (inner ++ [fence])

/-- The headings of an entry. -/
def headingLines (e : Entry) : List Line :=
  (e.category.section?.map sectionLine).toList ++
    ((e.category.groupWord?.map fun word => itemLine word.toList).toList ++
      [itemLine (quotedToken e)])

/-- The lines of an entry whose example has the given lines. -/
def entryLines (e : Entry) (inner? : Option (List Line)) : List Line :=
  headingLines e ++ (descriptionLines e ++ ((inner?.map exampleLines).getD [] ++ [[]]))

/-- The lines of an entry's example. -/
def innerLines? (e : Entry) : Option (List Line) := e.example?.map fun text => pieces text.toList

/-- The text that states some entries. Every line of it ends in a newline. -/
def write (es : List Entry) : String :=
  String.ofList ((es.flatMap fun e => entryLines e (innerLines? e)).flatMap (· ++ ['\n']))

/-- An entry that fits the form, the lines of its example aside. -/
structure Statable (e : Entry) : Prop where
  category_ne : e.category ≠ .identifier
  token_ne : e.token ≠ ""
  token_solid : ∀ c ∈ e.token.toList, c ≠ '\x60' ∧ isBlank c = false
  description_ne : e.description ≠ ""
  first_start : ∀ l ∈ (pieces e.description.toList).head?, trimStart l = l
  lines_solid : ∀ l ∈ pieces e.description.toList, isBlankLine l = false ∧ trimEnd l = l
  more_plain : ∀ l ∈ (pieces e.description.toList).tail,
    isHeading l = false ∧ isExampleMark l = false
  example_shown : e.Shown

instance (e : Entry) : Decidable (Statable e) :=
  -- the characters of the token are checked, and not all characters there are
  have : Decidable (∀ c ∈ e.token.toList, c ≠ '\x60' ∧ isBlank c = false) :=
    List.decidableBAll _ _
  decidable_of_iff
    (e.category ≠ .identifier ∧ e.token ≠ "" ∧
      (∀ c ∈ e.token.toList, c ≠ '\x60' ∧ isBlank c = false) ∧ e.description ≠ "" ∧
      (∀ l ∈ (pieces e.description.toList).head?, trimStart l = l) ∧
      (∀ l ∈ pieces e.description.toList, isBlankLine l = false ∧ trimEnd l = l) ∧
      (∀ l ∈ (pieces e.description.toList).tail, isHeading l = false ∧ isExampleMark l = false) ∧
      e.Shown)
    ⟨fun ⟨h1, h2, h3, h4, h5, h6, h7, h8⟩ => ⟨h1, h2, h3, h4, h5, h6, h7, h8⟩,
      fun ⟨h1, h2, h3, h4, h5, h6, h7, h8⟩ => ⟨h1, h2, h3, h4, h5, h6, h7, h8⟩⟩

/-- No line of the example closes it, and none ends in a carriage return. -/
def ExampleFenced (e : Entry) : Prop :=
  ∀ text ∈ e.example?, ∀ l ∈ pieces text.toList, isFence l = false ∧ l.getLast? ≠ some '\r'

instance (e : Entry) : Decidable (ExampleFenced e) := by
  unfold ExampleFenced
  infer_instance

/-! ## Headings -/

theorem sectionLine_spec (s : Section) :
    itemHeading? (sectionLine s) = none ∧ Place.opened? (sectionLine s) = some s ∧
      isHeading (sectionLine s) = true ∧ isExampleMark (sectionLine s) = false := by
  cases s <;> decide +kernel

/-- The word for a group names the group, in the section of its category. -/
theorem groupWord_spec {c : Category} {word : String} (h : c.groupWord? = some word) :
    trim word.toList = word.toList ∧
      ∃ s, c.section? = some s ∧ s.group? word.toList = some c := by
  cases c <;> cases h
  · exact ⟨by decide +kernel, .builtins, rfl, by decide +kernel⟩
  · exact ⟨by decide +kernel, .builtins, rfl, by decide +kernel⟩
  · exact ⟨by decide +kernel, .builtins, rfl, by decide +kernel⟩
  · exact ⟨by decide +kernel, .builtins, rfl, by decide +kernel⟩
  · exact ⟨by decide +kernel, .builtins, rfl, by decide +kernel⟩
  · exact ⟨by decide +kernel, .operatorsAndDelimiters, rfl, by decide +kernel⟩
  · exact ⟨by decide +kernel, .operatorsAndDelimiters, rfl, by decide +kernel⟩

theorem itemHeading?_itemLine (text : List Char) :
    itemHeading? (itemLine text) = some (trim text) := by
  have htrim : trim (' ' :: text) = trim text := by
    rw [trim, trim, trimStart_cons_of_blank rfl]
  simp [itemHeading?, itemLine, dropPrefix?, htrim]
  rfl

theorem itemHeading?_of_ne {c : Char} (h : c ≠ '#') (l : List Char) :
    itemHeading? (c :: l) = none := by
  simp [itemHeading?, dropPrefix?, Ne.symm h]

theorem trim_quotedToken (e : Entry) : trim (quotedToken e) = quotedToken e := by
  rw [quotedToken, trim, trimStart_eq_self rfl, trimEnd]
  simp [isBlank]

/-- The heading of an entry names its token. -/
theorem tokenOf_quotedToken {e : Entry} (h : Statable e) :
    tokenOf (quotedToken e) = e.token.toList := by
  have hne : e.token.toList ≠ [] := by simpa using h.token_ne
  have hquote : '\x60' ∉ e.token.toList := fun hmem => (h.token_solid _ hmem).1 rfl
  have htrim := trim_quotedToken e
  rw [quotedToken] at htrim ⊢
  simp [tokenOf, htrim, hne, hquote]

theorem exists_section {e : Entry} (h : Statable e) : ∃ s, e.category.section? = some s := by
  have hcategory := h.category_ne
  cases hc : e.category with
  | identifier => exact absurd hc hcategory
  | keyword => exact ⟨_, rfl⟩
  | operator | delimiter => exact ⟨_, rfl⟩
  | builtinConstant | builtinFunction | builtinType | exceptionType | warningType =>
      exact ⟨_, rfl⟩

end Reference

theorem Category.eq_keyword_of_groupWord? {c : Category} {s : Section}
    (hs : c.section? = some s) (h : c.groupWord? = none) : c = .keyword := by
  cases c <;> simp [section?, kind, groupWord?] at hs h ⊢

namespace Reference

/-- In front of an entry's own heading, the place is that of its category. -/
theorem readLines_headings {e : Entry} (h : Statable e) {r : Progress}
    (hr : r.place.Grouped) (ls : List Line) :
    ∃ (p : Place) (s : Section), p.Grouped ∧ p.inSection? = some s ∧
      p.category s = e.category ∧
      readLines r (headingLines e ++ ls) =
        readLines { r with place := p } (itemLine (quotedToken e) :: ls) := by
  obtain ⟨s, hs⟩ := exists_section h
  obtain ⟨hitem, hopened, -, -⟩ := sectionLine_spec s
  have hpast : (r.place.past (sectionLine s)).inSection? = some s := by
    rw [Place.past, hopened]
    by_cases hsame : r.place.inSection? = some s
    · simp [hsame]
    · simp [hsame]
  have hgrouped := hr.past (sectionLine s)
  have hopen : readLines r (headingLines e ++ ls) =
      readLines { r with place := r.place.past (sectionLine s) }
        ((e.category.groupWord?.map fun word => itemLine word.toList).toList ++
          itemLine (quotedToken e) :: ls) := by
    rw [← readLines_of_line hitem, headingLines, hs]
    simp
  rw [hopen]
  cases hword : e.category.groupWord? with
  | none =>
      refine ⟨_, s, hgrouped, hpast, ?_, rfl⟩
      have hkeyword := Category.eq_keyword_of_groupWord? hs hword
      rw [hkeyword] at hs ⊢
      obtain rfl : s = .keywords := (Option.some.inj hs).symm
      exact Category.eq_keyword_of_section? (hgrouped.section?_category hpast)
  | some word =>
      obtain ⟨htrim, s', hs', hgroup⟩ := groupWord_spec hword
      obtain rfl : s = s' := Option.some.inj (hs.symm.trans hs')
      have hheading : itemHeading? (itemLine word.toList) = some word.toList := by
        rw [itemHeading?_itemLine, htrim]
      -- the entry's own heading follows at once, so the group has no description
      have hread : Body.read (r.place.past (sectionLine s)) (itemLine (quotedToken e) :: ls) =
          .ok (r.place.past (sectionLine s), none, itemLine (quotedToken e) :: ls) := by
        simp [Body.read, Body.seek, itemHeading?_itemLine]
      have hwithin : (r.place.past (sectionLine s)).within word.toList =
          { r.place.past (sectionLine s) with inGroup? := some e.category } := by
        simp [Place.within, hpast, hgroup]
      refine ⟨(r.place.past (sectionLine s)).within word.toList, s, hgrouped.within _,
        ?_, ?_, ?_⟩
      · rw [hwithin]
        exact hpast
      · rw [hwithin]
        rfl
      · exact readLines_of_item hheading
          (show Body.read (Progress.place { r with place := r.place.past (sectionLine s) }) _ = _
            from hread)

/-! ## Bodies -/

theorem seek_description {first : Line} (hstart : trimStart first = first)
    (hend : trimEnd first = first) (p : Place) (ls : List Line) :
    Body.seek p ((descriptionMark ++ ' ' :: first) :: ls) = (p, some first, ls) := by
  have hitem : itemHeading? (descriptionMark ++ ' ' :: first) = none :=
    itemHeading?_of_ne (by decide) _
  have htrim : trimStart (descriptionMark ++ ' ' :: first) = descriptionMark ++ ' ' :: first :=
    trimStart_eq_self rfl
  have hdescription : description? (descriptionMark ++ ' ' :: first) = some first := by
    rw [description?, htrim, dropPrefix?_eq_some_iff.2 rfl, Option.map_some, trim,
      trimStart_cons_of_blank rfl, hstart, hend]
  simp [Body.seek, hitem, hdescription]

theorem exists_descriptionLines (e : Entry) : ∃ first more,
    pieces e.description.toList = first :: more ∧
      descriptionLines e = (descriptionMark ++ ' ' :: first) :: more := by
  obtain ⟨first, more, hpieces⟩ := exists_pieces_eq_cons e.description.toList
  have hmark : '\n' ∉ descriptionMark ++ [' '] := by decide
  refine ⟨first, more, hpieces, ?_⟩
  simpa [descriptionLines] using pieces_append hmark hpieces

/-- A description is read up to a line that ends it, and the lines from there on
decide about the example. -/
theorem read_description {e : Entry} (h : Statable e) (p : Place) {t rest : List Line}
    (ht : ∀ l, t.head? = some l → endsDescription l = true) {text : Option (List Char)}
    (hexample : Body.readExample (t.dropWhile fun l => !(isExampleMark l || isHeading l)) =
      .ok (text, rest)) :
    Body.read p (descriptionLines e ++ t) =
      .ok (p, some ⟨e.description.toList, text⟩, rest) := by
  obtain ⟨first, more, hpieces, hlines⟩ := exists_descriptionLines e
  have hstart : trimStart first = first := h.first_start first (by rw [hpieces]; rfl)
  have hsolid := h.lines_solid
  have hplain := h.more_plain
  rw [hpieces] at hsolid hplain
  have hmore : ∀ l ∈ more, (!endsDescription l) = true := by
    intro l hl
    have hblank := (hsolid l (List.mem_cons_of_mem _ hl)).1
    simp [endsDescription, hblank, hplain l hl]
  have hstop : ∀ l, t.head? = some l → (!endsDescription l) = false := by
    intro l hl
    simp [ht l hl]
  have hdescribe : Body.describe first more = e.description.toList := by
    have htrim : more.map trimEnd = more :=
      map_eq_self fun l hl => (hsolid l (List.mem_cons_of_mem _ hl)).2
    have hjoin : joinLines (first :: more) = e.description.toList := by
      rw [joinLines, ← hpieces, intercalate_pieces]
    rw [← hjoin]
    cases first with
    | nil => exact absurd (hsolid [] (by simp)).1 (by decide)
    | cons c first => simp [Body.describe, htrim]
  rw [hlines, List.cons_append, Body.read, seek_description hstart (hsolid first (by simp)).2]
  simp only [List.takeWhile_append_of_pos hmore, List.dropWhile_append_of_pos hmore,
    takeWhile_of_stop hstop, dropWhile_of_stop hstop, List.append_nil, hdescribe, hexample]
  rfl

/-- An example is read up to the first line that closes it. -/
theorem readExample_exampleLines (inner rest : List Line) : ∃ rest',
    Body.readExample (exampleLines inner ++ rest) =
      .ok (some (joinLines (inner.takeWhile (!isFence ·))), rest') ∧
    ((∀ l ∈ inner, isFence l = false) → rest' = rest) := by
  have hmark : isExampleMark exampleMark = true := by decide
  have hfence : isFence fence = true := by decide
  obtain ⟨within, more, rfl, hrun, hstop⟩ := exists_run (!isFence ·) inner
  have hwithin : ∀ l ∈ within, isFence l = false := by simpa using hrun
  rw [(run_eq hrun hstop).1]
  cases more with
  | nil =>
      have hread : Body.Example (exampleMark :: ([] ++ fence :: (within ++ fence :: rest)))
          (.ok (some (joinLines within), rest)) :=
        .closed hmark (by simp) hfence hwithin hfence
      exact ⟨rest, by simpa [exampleLines] using hread.readExample_eq, fun _ => rfl⟩
  | cons g more =>
      have hcloses : isFence g = true := by simpa using hstop g rfl
      have hread : Body.Example
          (exampleMark :: ([] ++ fence :: (within ++ g :: (more ++ fence :: rest))))
          (.ok (some (joinLines within), more ++ fence :: rest)) :=
        .closed hmark (by simp) hfence hwithin hcloses
      refine ⟨more ++ fence :: rest, by simpa [exampleLines] using hread.readExample_eq, ?_⟩
      intro hopen
      rw [hopen g (by simp)] at hcloses
      cases hcloses

/-- Lines behind an entry: there are none, or they begin with a heading. -/
def Opens (ls : List Line) : Prop :=
  ∀ l, ls.head? = some l → isHeading l = true ∧ isExampleMark l = false

theorem readExample_of_opens {rest : List Line} (h : Opens rest) :
    Body.readExample rest = .ok (none, rest) :=
  Body.readExample_eq_iff.2 (.absent fun l hl => (h l hl).2)

/-- What is read of the body of an entry whose example has the given lines. -/
def bodyOf (e : Entry) (inner? : Option (List Line)) : Body :=
  ⟨e.description.toList, inner?.map fun inner => joinLines (inner.takeWhile (!isFence ·))⟩

/-- The body of an entry is read to its end, unless its example closes early. -/
theorem read_body {e : Entry} (h : Statable e) (inner? : Option (List Line)) {rest : List Line}
    (hrest : Opens rest) (p : Place) : ∃ rest',
    Body.read p (descriptionLines e ++ ((inner?.map exampleLines).getD [] ++ [] :: rest)) =
      .ok (p, some (bodyOf e inner?), rest') ∧
    ((∀ inner ∈ inner?, ∀ l ∈ inner, isFence l = false) → rest' = rest ∨ rest' = [] :: rest) := by
  cases inner? with
  | none =>
      refine ⟨rest, read_description h p ?_ ?_, fun _ => .inl rfl⟩
      · intro l hl
        obtain rfl := Option.some.inj hl
        decide
      · have hskip :
            ([] :: rest).dropWhile (fun l => !(isExampleMark l || isHeading l)) = rest := by
          rw [List.dropWhile_cons_of_pos (by decide)]
          apply dropWhile_of_stop
          intro l hl
          simp [(hrest l hl).1]
        exact (congrArg _ hskip).trans (readExample_of_opens hrest)
  | some inner =>
      obtain ⟨rest', hread, hrest'⟩ := readExample_exampleLines inner ([] :: rest)
      refine ⟨rest', read_description h p ?_ ?_, fun hopen => .inr (hrest' (hopen inner rfl))⟩
      · intro l hl
        obtain rfl := Option.some.inj hl
        decide
      · have hstay : (exampleLines inner ++ [] :: rest).dropWhile
            (fun l => !(isExampleMark l || isHeading l)) = exampleLines inner ++ [] :: rest :=
          List.dropWhile_cons_of_neg (by decide)
        exact (congrArg _ hstay).trans hread

/-! ## One entry -/

theorem readLines_blank (r : Progress) (ls : List Line) :
    readLines r ([] :: ls) = readLines r ls := by
  have hopened : Place.opened? [] = none := by decide
  rw [readLines_of_line (by decide), Place.past, hopened]

/-- What is read of an example with the given lines. -/
def readText (inner : List Line) : String :=
  String.ofList (joinLines (inner.takeWhile (!isFence ·)))

/-- Reading the lines of an entry adds the entry, with the example as far as it
is read. -/
theorem readLines_entryLines {e : Entry} (h : Statable e) (inner? : Option (List Line))
    {rest : List Line} (hrest : Opens rest) {r : Progress} (hr : r.place.Grouped) :
    ∃ r' rest', r'.place.Grouped ∧
      r'.entries.toList = r.entries.toList ++
        [{ e with example? := Entry.shownExample (inner?.map readText) }] ∧
      readLines r (entryLines e inner? ++ rest) = readLines r' rest' ∧
      ((∀ inner ∈ inner?, ∀ l ∈ inner, isFence l = false) → rest' = rest) := by
  have hheading : itemHeading? (itemLine (quotedToken e)) = some (quotedToken e) := by
    rw [itemHeading?_itemLine, trim_quotedToken]
  have hne : e.token.toList ≠ [] := by simpa using h.token_ne
  obtain ⟨p, s, hp, hsection, hcategory, hheadings⟩ := readLines_headings h hr
    (descriptionLines e ++ ((inner?.map exampleLines).getD [] ++ [] :: rest))
  obtain ⟨left, hread, hleft⟩ := read_body h inner? hrest p
  have hrun : readLines r (entryLines e inner? ++ rest) = readLines
      (Progress.takeItem { r with place := p } p (quotedToken e) (some (bodyOf e inner?)))
      left := by
    rw [← readLines_of_item hheading hread, ← hheadings, entryLines]
    simp
  have hentry : p.added? (quotedToken e) (bodyOf e inner?) =
      some { e with example? := Entry.shownExample (inner?.map readText) } := by
    simp only [Place.added?, hsection, tokenOf_quotedToken h, hne, hcategory, bodyOf,
      Option.bind_some, if_false, Option.map_map, String.ofList_toList]
    rfl
  have hentries := entries_takeItem { r with place := p } p (quotedToken e) (bodyOf e inner?)
  rw [hentry] at hentries
  have hplace : (Progress.takeItem { r with place := p } p (quotedToken e)
      (some (bodyOf e inner?))).place.Grouped := by
    rw [place_takeItem]
    exact hp
  by_cases hblank : left = [] :: rest
  · refine ⟨_, rest, hplace, hentries, ?_, fun _ => rfl⟩
    rw [hrun, hblank, readLines_blank]
  · refine ⟨_, left, hplace, hentries, hrun, ?_⟩
    intro hopen
    exact (hleft hopen).resolve_right hblank

/-- An example is read as it is when no line closes it or loses a carriage return. -/
theorem readText_eq_iff {text : String} (h : allBlank text.toList = false) :
    readText ((pieces text.toList).map dropReturn) = text ↔
      ∀ l ∈ pieces text.toList, isFence l = false ∧ l.getLast? ≠ some '\r' := by
  constructor
  · intro hread
    have hjoin := congrArg String.toList hread
    rw [readText, String.toList_ofList, joinLines] at hjoin
    have hleading := List.takeWhile_prefix (!isFence ·) (l := (pieces text.toList).map dropReturn)
    have hopen : ∀ l ∈ ((pieces text.toList).map dropReturn).takeWhile (!isFence ·),
        isFence l = false := by
      intro l hl
      simpa using List.mem_takeWhile_imp hl
    generalize ((pieces text.toList).map dropReturn).takeWhile (!isFence ·) = kept
      at hjoin hleading hopen
    have hne : kept ≠ [] := by
      rintro rfl
      rw [← hjoin] at h
      cases h
    have hnewline : ∀ l ∈ kept, '\n' ∉ l := by
      intro l hl
      obtain ⟨k, hk, rfl⟩ := List.mem_map.1 (hleading.subset hl)
      exact newline_not_mem_dropReturn (newline_not_mem_of_mem_pieces hk)
    -- the lines that are read are the example's own, so none was left out or changed
    have hpieces := pieces_joined hne hnewline
    rw [hjoin] at hpieces
    have hwhole := hleading.eq_of_length (by rw [List.length_map, hpieces])
    rw [← hpieces] at hwhole hopen
    intro l hl
    refine ⟨hopen l hl, dropReturn_eq_self_iff.1 ?_⟩
    have hmap : (pieces text.toList).map dropReturn = (pieces text.toList).map id := by
      rw [← hwhole, List.map_id]
    exact List.map_inj_left.1 hmap l hl
  · intro hall
    have hkept : (pieces text.toList).map dropReturn = pieces text.toList :=
      map_eq_self fun l hl => dropReturn_eq_self_iff.2 (hall l hl).2
    have hwhole : (pieces text.toList).takeWhile (!isFence ·) = pieces text.toList := by
      rw [List.takeWhile_eq_self_iff]
      intro l hl
      simp [hall l hl]
    rw [readText, hkept, hwhole, joinLines, intercalate_pieces, String.ofList_toList]

/-! ## The lines of a written text -/

/-- The lines of an entry's example as they are read. -/
def heardInner? (e : Entry) : Option (List Line) := (innerLines? e).map (List.map dropReturn)

/-- The lines of an entry as they are read. -/
def heardLines (e : Entry) : List Line := entryLines e (heardInner? e)

theorem headingLines_plain {e : Entry} (h : Statable e) {l : Line} (hl : l ∈ headingLines e) :
    '\n' ∉ l ∧ dropReturn l = l := by
  simp only [headingLines, List.mem_append, Option.mem_toList, Option.map_eq_some_iff,
    List.mem_singleton] at hl
  rcases hl with ⟨s, -, rfl⟩ | ⟨word, hword, rfl⟩ | rfl
  · cases s <;> decide
  · cases hc : e.category <;> rw [hc] at hword <;> cases hword <;> decide
  · have hnewline : '\n' ∉ e.token.toList := fun hmem =>
      absurd (h.token_solid _ hmem).2 (by decide)
    have hlast : (itemLine (quotedToken e)).getLast? = some '\x60' := by
      rw [itemLine, quotedToken]
      simp only [← List.cons_append, List.getLast?_concat]
    refine ⟨by simp [itemLine, quotedToken, hnewline], dropReturn_eq_self_iff.2 ?_⟩
    rw [hlast]
    decide

theorem descriptionLines_plain {e : Entry} (h : Statable e) {l : Line}
    (hl : l ∈ descriptionLines e) : '\n' ∉ l ∧ dropReturn l = l := by
  refine ⟨newline_not_mem_of_mem_pieces hl, ?_⟩
  obtain ⟨first, more, hpieces, hlines⟩ := exists_descriptionLines e
  have hsolid := h.lines_solid
  rw [hpieces] at hsolid
  rw [hlines] at hl
  -- a line of the description ends in a character that is not blank
  have hkept : ∀ k ∈ first :: more, k.getLast? ≠ some '\r' := by
    intro k hk hlast
    exact absurd (isBlank_getLast_of_trimEnd (hsolid k hk).2 hlast) (by decide)
  rcases List.mem_cons.1 hl with rfl | hl
  · cases first with
    | nil => exact absurd (hsolid [] (by simp)).1 (by decide)
    | cons c first =>
        have hfirst := hkept (c :: first) (by simp)
        rw [dropReturn_eq_self_iff]
        simpa using hfirst
  · exact dropReturn_eq_self_iff.2 (hkept l (List.mem_cons_of_mem _ hl))

theorem exampleLines_plain {e : Entry} {inner : List Line} (h : innerLines? e = some inner)
    {l : Line} (hl : l ∈ exampleLines inner) : '\n' ∉ l := by
  obtain ⟨text, -, rfl⟩ := Option.map_eq_some_iff.1 h
  simp only [exampleLines, List.mem_cons, List.mem_append, List.not_mem_nil, or_false] at hl
  rcases hl with rfl | rfl | hl | rfl
  · decide
  · decide
  · exact newline_not_mem_of_mem_pieces hl
  · decide

theorem newline_not_mem_entryLines {e : Entry} (h : Statable e) {l : Line}
    (hl : l ∈ entryLines e (innerLines? e)) : '\n' ∉ l := by
  simp only [entryLines, List.mem_append, List.mem_singleton] at hl
  rcases hl with hl | hl | hl | rfl
  · exact (headingLines_plain h hl).1
  · exact (descriptionLines_plain h hl).1
  · cases hinner : innerLines? e with
    | none => simp [hinner] at hl
    | some inner =>
        rw [hinner] at hl
        exact exampleLines_plain hinner hl
  · simp

theorem map_dropReturn_entryLines {e : Entry} (h : Statable e) :
    (entryLines e (innerLines? e)).map dropReturn = heardLines e := by
  have hheadings : (headingLines e).map dropReturn = headingLines e :=
    map_eq_self fun l hl => (headingLines_plain h hl).2
  have hdescription : (descriptionLines e).map dropReturn = descriptionLines e :=
    map_eq_self fun l hl => (descriptionLines_plain h hl).2
  have hfence : dropReturn fence = fence := by decide
  have hmark : dropReturn exampleMark = exampleMark := by decide
  have hblank : dropReturn [] = [] := rfl
  rw [heardLines, heardInner?, entryLines, entryLines, List.map_append, List.map_append,
    List.map_append, hheadings, hdescription]
  cases innerLines? e with
  | none => simp [hblank]
  | some inner => simp [exampleLines, hfence, hmark, hblank]

theorem lines_write {es : List Entry} (h : ∀ e ∈ es, Statable e) :
    lines (write es).toList = es.flatMap heardLines := by
  have hnewline : ∀ l ∈ es.flatMap (fun e => entryLines e (innerLines? e)), '\n' ∉ l := by
    intro l hl
    obtain ⟨e, he, hmem⟩ := List.mem_flatMap.1 hl
    exact newline_not_mem_entryLines (h e he) hmem
  rw [write, String.toList_ofList, lines_ended hnewline, List.map_flatMap]
  apply List.flatMap_congr
  intro e he
  exact map_dropReturn_entryLines (h e he)

theorem opens_heardLines {es : List Entry} (h : ∀ e ∈ es, Statable e) :
    Opens (es.flatMap heardLines) := by
  intro l hl
  cases es with
  | nil => cases hl
  | cons e es =>
      obtain ⟨s, hs⟩ := exists_section (h e (by simp))
      rw [List.flatMap_cons, heardLines, entryLines, headingLines, hs] at hl
      obtain rfl := Option.some.inj hl
      obtain ⟨-, -, hheading, hmark⟩ := sectionLine_spec s
      exact ⟨hheading, hmark⟩

/-! ## All entries -/

theorem with_readText_eq_iff {e : Entry} (h : Statable e) :
    { e with example? := Entry.shownExample ((heardInner? e).map readText) } = e ↔
      ExampleFenced e := by
  obtain ⟨token, category, description, example?⟩ := e
  cases example? with
  | none => simp [heardInner?, innerLines?, ExampleFenced, Entry.shownExample]
  | some text =>
      have hshown : allBlank text.toList = false := h.example_shown text rfl
      simp only [heardInner?, innerLines?, ExampleFenced, Entry.shownExample, Option.map_some,
        Entry.mk.injEq,
        true_and, Option.mem_some_iff, forall_eq', Option.filter_eq_some_iff, Option.some.injEq,
        hshown, Bool.not_false, and_true]
      exact readText_eq_iff hshown

theorem isFence_heardInner {e : Entry} (h : ExampleFenced e) :
    ∀ inner ∈ heardInner? e, ∀ l ∈ inner, isFence l = false := by
  intro inner hinner l hl
  simp only [heardInner?, innerLines?, Option.map_map, Option.mem_def,
    Option.map_eq_some_iff] at hinner
  obtain ⟨text, htext, rfl⟩ := hinner
  obtain ⟨k, hk, rfl⟩ := List.mem_map.1 hl
  obtain ⟨hfence, hreturn⟩ := h text htext k hk
  rw [dropReturn_eq_self_iff.2 hreturn]
  exact hfence

/-- All entries are added, and nothing else, when every example is fenced. The
first entry whose example is not is added differently, and stays so. -/
theorem readLines_heardLines_iff {es : List Entry} (h : ∀ e ∈ es, Statable e) {r : Progress}
    (hr : r.place.Grouped) :
    ((readLines r (es.flatMap heardLines)).2 = none ∧
      (readLines r (es.flatMap heardLines)).1.entries.toList = r.entries.toList ++ es) ↔
      ∀ e ∈ es, ExampleFenced e := by
  induction es generalizing r with
  | nil => simp [readLines_nil]
  | cons e es ih =>
      have he := h e (by simp)
      have hes : ∀ f ∈ es, Statable f := fun f hf => h f (List.mem_cons_of_mem _ hf)
      obtain ⟨r', left, hplace, hentries, hrun, hleft⟩ :=
        readLines_entryLines he (heardInner? e) (opens_heardLines hes) hr
      rw [List.flatMap_cons, heardLines, hrun]
      by_cases hfenced : ExampleFenced e
      · have hih := ih hes hplace
        rw [hentries, (with_readText_eq_iff he).2 hfenced, List.append_assoc] at hih
        rw [hleft (isFence_heardInner hfenced)]
        simpa [hfenced] using hih
      · constructor
        · rintro ⟨-, hall⟩
          have hleading := entries_prefix_readLines r' left
          rw [hall, hentries, List.prefix_append_right_inj, List.cons_prefix_cons] at hleading
          exact absurd ((with_readText_eq_iff he).1 hleading.1) hfenced
        · intro hall
          exact absurd (hall e (by simp)) hfenced

/-- A written reference is read back as its entries, in order and with their
repetitions, exactly when no example closes early or loses a carriage return. -/
theorem parse_write_iff {es : List Entry} (h : ∀ e ∈ es, Statable e) :
    parse (write es) = .ok es ↔ ∀ e ∈ es, ExampleFenced e := by
  rw [parse_eq_ok_iff, read, lines_write h,
    ← readLines_heardLines_iff h (r := .start) Place.grouped_outside]
  simp [readAll, Progress.start]

/-- Entries that look like the form itself, one of them twice. -/
def lookalikes : List Entry :=
  [⟨"###", .operator, "**Description**: of\n  **Description**: itself\n#include", none⟩,
    ⟨"None", .builtinConstant, "The null object.",
      some "### x\n**Description**: y\n\n## Keywords\n**Example**:\n # \x60\x60\x60"⟩,
    ⟨"None", .keyword, "null", some "\n  None"⟩,
    ⟨"None", .keyword, "null", some "\n  None"⟩]

theorem parse_write_lookalikes :
    (∀ e ∈ lookalikes, Statable e) ∧ parse (write lookalikes) = .ok lookalikes := by
  have h : ∀ e ∈ lookalikes, Statable e := by decide +kernel
  exact ⟨h, (parse_write_iff h).2 (by decide +kernel)⟩

end Reference

end Glossary
