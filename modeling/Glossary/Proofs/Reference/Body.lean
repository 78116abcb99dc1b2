import Glossary.Proofs.Reference.Reading
import Glossary.Proofs.Text.Lines

/-!
# The body of an item

Below the heading of an item, its description is sought, then its example. What
the reader can find where it looks for an example is `Example`: nothing, a mark
alone, a mark with a fence that is closed below, or one that never is.

Only the last of these goes on to the end of the text. All other steps end at a
line that they have seen, or at the end because nothing stopped them. So lines
that are added behind are left for the next step, as long as the step left a line
itself or the added lines begin with the heading of an item, where every step ends.

## Main results

* `Body.readExample_eq_iff` — what is found where an example is looked for.
* `Body.read_cases` — what a body is made of.
* `Body.read_append` — a body reads alike with more lines behind it.
* `step_append` — so does every step.
-/

namespace Glossary.Reference

open Text

/-! ## Headings among the other lines -/

theorem trimStart_of_isBlankLine {l : Line} (h : isBlankLine l = true) : trimStart l = [] :=
  List.dropWhile_eq_nil_iff.2 (List.all_eq_true.1 h)

/-- A line that opens with something is not blank. -/
theorem isBlankLine_of_opensWith {opening : List Char} (hne : opening ≠ []) {l : Line}
    (h : opensWith opening l = true) : isBlankLine l = false := by
  rw [← Bool.not_eq_true]
  intro hblank
  rw [opensWith, trimStart_of_isBlankLine hblank, List.isPrefixOf_iff_prefix,
    List.prefix_nil] at h
  exact hne h

theorem exists_trimStart_of_isHeading {l : Line} (h : isHeading l = true) :
    ∃ rest, trimStart l = '#' :: rest := by
  have hlevel : 1 ≤ level (trimStart l) := by
    simp only [isHeading, Bool.and_eq_true, decide_eq_true_eq] at h
    exact h.1.1
  cases hs : trimStart l with
  | nil => simp [hs, level] at hlevel
  | cons c rest =>
      by_cases hc : c = '#'
      · exact ⟨rest, by rw [hc]⟩
      · simp [hs, level, hc] at hlevel

/-- A line that begins with `#`, blanks aside, is not blank and holds no mark and no fence. -/
theorem ne_of_hash {l : Line} {rest : List Char} (hs : trimStart l = '#' :: rest) :
    isBlankLine l = false ∧ description? l = none ∧ isExampleMark l = false ∧
      isFence l = false := by
  refine ⟨?_, ?_, ?_, ?_⟩
  · rw [← Bool.not_eq_true]
    intro hblank
    rw [trimStart_of_isBlankLine hblank] at hs
    cases hs
  · rw [description?, hs]
    rfl
  · rw [isExampleMark, opensWith, hs]
    rfl
  · rw [isFence, opensWith, hs]
    rfl

/-- A heading is neither blank, nor the mark of an example, nor a fence. -/
theorem ne_of_isHeading {l : Line} (h : isHeading l = true) :
    isBlankLine l = false ∧ isExampleMark l = false ∧ isFence l = false := by
  obtain ⟨rest, hs⟩ := exists_trimStart_of_isHeading h
  obtain ⟨hblank, -, hmark, hfence⟩ := ne_of_hash hs
  exact ⟨hblank, hmark, hfence⟩

theorem isHeading_eq_false {l : Line} (h : isBlankLine l = true ∨ isExampleMark l = true) :
    isHeading l = false := by
  rw [← Bool.not_eq_true]
  intro hheading
  obtain ⟨hblank, hmark, -⟩ := ne_of_isHeading hheading
  simp [hblank, hmark] at h

theorem itemHeading?_of_not_isHeading {l : Line} (h : isHeading l = false) :
    itemHeading? l = none := by
  rw [Option.eq_none_iff_forall_ne_some]
  intro heading hitem
  rw [isHeading_of_itemHeading? (by rw [hitem]; rfl)] at h
  cases h

theorem endsDescription_of_isHeading {l : Line} (h : isHeading l = true) :
    endsDescription l = true := by
  simp [endsDescription, h]

/-- No lines, or the heading of an item first. -/
def Headed (ls : List Line) : Prop := ∀ l, ls.head? = some l → (itemHeading? l).isSome

theorem Headed.isHeading_head {ls : List Line} (h : Headed ls) {l : Line}
    (hl : ls.head? = some l) : isHeading l = true :=
  isHeading_of_itemHeading? (h l hl)

/-! ## Where an example is looked for -/

/-- What the reader makes of the lines where it looks for an example. -/
inductive Body.Example : List Line → Except Nat (Option (List Char) × List Line) → Prop
  /-- The lines do not begin with a mark. -/
  | absent {ls : List Line} (plain : ∀ l, ls.head? = some l → isExampleMark l = false) :
      Example ls (.ok (none, ls))
  /-- No fence stands below the mark. -/
  | announced {mark : Line} {blanks rest : List Line} (announces : isExampleMark mark = true)
      (blank : ∀ l ∈ blanks, isBlankLine l = true)
      (stops : ∀ l, rest.head? = some l → isBlankLine l = false ∧ isFence l = false) :
      Example (mark :: (blanks ++ rest)) (.ok (none, rest))
  /-- The first fence below the one under the mark closes it. -/
  | closed {mark f g : Line} {blanks inner rest : List Line} (announces : isExampleMark mark = true)
      (blank : ∀ l ∈ blanks, isBlankLine l = true) (opens : isFence f = true)
      (within : ∀ l ∈ inner, isFence l = false) (closes : isFence g = true) :
      Example (mark :: (blanks ++ f :: (inner ++ g :: rest)))
        (.ok (some (joinLines inner), rest))
  /-- No fence stands below the one under the mark. -/
  | unclosed {mark f : Line} {blanks below : List Line} (announces : isExampleMark mark = true)
      (blank : ∀ l ∈ blanks, isBlankLine l = true) (opens : isFence f = true)
      (never : ∀ l ∈ below, isFence l = false) :
      Example (mark :: (blanks ++ f :: below)) (.error below.length)

namespace Body

variable {ls rest more : List Line}

/-- The reader makes something of any lines. -/
theorem exists_example (ls : List Line) : ∃ found, Example ls found := by
  by_cases hmark : ∃ mark below, ls = mark :: below ∧ isExampleMark mark = true
  · obtain ⟨mark, below, rfl, hmark⟩ := hmark
    obtain ⟨blanks, rest, rfl, hblanks, hstop⟩ := exists_run isBlankLine below
    by_cases hfence : ∃ f below, rest = f :: below ∧ isFence f = true
    · obtain ⟨f, below, rfl, hfence⟩ := hfence
      obtain ⟨inner, rest, rfl, hinner, hclose⟩ := exists_run (!isFence ·) below
      have hwithin : ∀ l ∈ inner, isFence l = false := by simpa using hinner
      cases rest with
      | nil =>
          rw [List.append_nil]
          exact ⟨_, .unclosed hmark hblanks hfence hwithin⟩
      | cons g rest => exact ⟨_, .closed hmark hblanks hfence hwithin (by simpa using hclose)⟩
    · refine ⟨_, .announced hmark hblanks fun l hl => ⟨hstop l hl, ?_⟩⟩
      obtain ⟨below, rfl⟩ := List.head?_eq_some_iff.1 hl
      exact Bool.eq_false_iff.2 fun hopen => hfence ⟨l, below, rfl, hopen⟩
  · refine ⟨_, .absent fun l hl => ?_⟩
    obtain ⟨below, rfl⟩ := List.head?_eq_some_iff.1 hl
    exact Bool.eq_false_iff.2 fun hopen => hmark ⟨l, below, rfl, hopen⟩

theorem Example.readExample_eq {found : Except Nat (Option (List Char) × List Line)}
    (h : Example ls found) : readExample ls = found := by
  cases h with
  | absent plain =>
      cases ls with
      | nil => rfl
      | cons l ls => rw [readExample, if_neg (by simp [plain l rfl])]
  | @announced mark blanks rest announces blank stops =>
      rw [readExample, if_pos announces, (run_eq blank fun l hl => (stops l hl).1).2]
      cases rest with
      | nil => rfl
      | cons f below => simp [(stops f rfl).2]
  | @closed mark f g blanks inner rest announces blank opens within closes =>
      have hsolid : isBlankLine f = false := isBlankLine_of_opensWith (by decide) opens
      have hblanks := run_eq blank (t := f :: (inner ++ g :: rest)) (by simpa using hsolid)
      have hinner := run_eq (p := (!isFence ·)) (s := inner) (t := g :: rest)
        (by simpa using within) (by simpa using closes)
      rw [readExample, if_pos announces, hblanks.2]
      simp only [if_pos opens, hinner]
  | @unclosed mark f blanks below announces blank opens never =>
      have hsolid : isBlankLine f = false := isBlankLine_of_opensWith (by decide) opens
      have hblanks := run_eq blank (t := f :: below) (by simpa using hsolid)
      have hbelow : below.dropWhile (!isFence ·) = [] := by
        rw [List.dropWhile_eq_nil_iff]
        simpa using never
      rw [readExample, if_pos announces, hblanks.2]
      simp only [if_pos opens, hbelow]

theorem readExample_eq_iff {found : Except Nat (Option (List Char) × List Line)} :
    readExample ls = found ↔ Example ls found := by
  refine ⟨?_, Example.readExample_eq⟩
  intro h
  obtain ⟨found', hfound⟩ := exists_example ls
  rwa [← h, hfound.readExample_eq]

/-! ## Bodies with more lines behind them -/

theorem seek_of_headed (h : Headed ls) (p : Place) : seek p ls = (p, none, ls) := by
  cases ls with
  | nil => rfl
  | cons l ls => rw [seek, if_pos (h l rfl)]

theorem seek_append {p q : Place} {first? : Option (List Char)} (hmore : rest = [] → Headed more)
    (h : seek p ls = (q, first?, rest)) : seek p (ls ++ more) = (q, first?, rest ++ more) := by
  induction ls generalizing p with
  | nil =>
      obtain ⟨rfl, rfl, rfl⟩ : p = q ∧ none = first? ∧ [] = rest := by simpa [seek] using h
      exact seek_of_headed (hmore rfl) p
  | cons l ls ih =>
      rw [List.cons_append, seek]
      rw [seek] at h
      by_cases hitem : (itemHeading? l).isSome
      · rw [if_pos hitem] at h ⊢
        obtain ⟨rfl, rfl, rfl⟩ : p = q ∧ none = first? ∧ l :: ls = rest := by simpa using h
        rfl
      · rw [if_neg hitem] at h ⊢
        cases hfirst : description? l with
        | none =>
            rw [hfirst] at h
            exact ih h
        | some first =>
            rw [hfirst] at h
            obtain ⟨rfl, rfl, rfl⟩ : p = q ∧ some first = first? ∧ ls = rest := by simpa using h
            rfl

/-- What is added behind the lines that are left makes no difference. -/
theorem Example.append {text : Option (List Char)} (hmore : rest = [] → Headed more)
    (h : Example ls (.ok (text, rest))) : Example (ls ++ more) (.ok (text, rest ++ more)) := by
  -- at the end of the lines, the next one would be a heading
  have hhead : ∀ l, (rest ++ more).head? = some l → rest.head? = some l ∨ isHeading l = true := by
    intro l hl
    cases rest with
    | nil => exact .inr ((hmore rfl).isHeading_head hl)
    | cons k rest => exact .inl hl
  cases h with
  | absent plain =>
      refine .absent fun l hl => ?_
      rcases hhead l hl with hl | hheading
      · exact plain l hl
      · exact (ne_of_isHeading hheading).2.1
  | announced announces blank stops =>
      rw [List.cons_append, List.append_assoc]
      refine .announced announces blank fun l hl => ?_
      rcases hhead l hl with hl | hheading
      · exact stops l hl
      · exact ⟨(ne_of_isHeading hheading).1, (ne_of_isHeading hheading).2.2⟩
  | closed announces blank opens within closes =>
      rw [List.cons_append, List.append_assoc, List.cons_append, List.append_assoc,
        List.cons_append]
      exact .closed announces blank opens within closes

/-- The lines where an example is looked for, below the first line of a description. -/
def exampleStart (ls : List Line) : List Line :=
  (ls.dropWhile (!endsDescription ·)).dropWhile fun l => !(isExampleMark l || isHeading l)

/-- The description and the lines where an example is looked for stay the same. -/
theorem exampleStart_append (h : exampleStart ls = [] → Headed more) :
    (ls ++ more).takeWhile (!endsDescription ·) = ls.takeWhile (!endsDescription ·) ∧
      exampleStart (ls ++ more) = exampleStart ls ++ more := by
  have hdescription := run_append (p := (!endsDescription ·)) (s := ls) (t := more) <| by
    intro hend l hl
    have hheaded : Headed more := h (by rw [exampleStart, hend, List.dropWhile_nil])
    simp [endsDescription_of_isHeading (hheaded.isHeading_head hl)]
  refine ⟨hdescription.1, ?_⟩
  rw [exampleStart, hdescription.2]
  refine (run_append ?_).2
  intro hend l hl
  simp [(h hend).isHeading_head hl]

theorem read_of_seek_none {p q : Place} (h : seek p ls = (q, none, rest)) :
    read p ls = .ok (q, none, rest) := by
  rw [read, h]

theorem read_of_seek_some {p q : Place} {first : List Char}
    (h : seek p ls = (q, some first, rest)) :
    read p ls = (readExample (exampleStart rest)).map fun (text, below) =>
      (q, some ⟨describe first (rest.takeWhile (!endsDescription ·)), text⟩, below) := by
  rw [read, h]
  rfl

/-- Reading comes to an item without a description, or to a body: a description that was sought,
and what is found where an example is looked for. -/
theorem read_cases {p q : Place} {b? : Option Body} (h : read p ls = .ok (q, b?, rest)) :
    (seek p ls = (q, none, rest) ∧ b? = none) ∨
      ∃ first below text?, seek p ls = (q, some first, below) ∧
        readExample (exampleStart below) = .ok (text?, rest) ∧
        b? = some ⟨describe first (below.takeWhile (!endsDescription ·)), text?⟩ := by
  rcases hseek : seek p ls with ⟨place, first?, below⟩
  cases first? with
  | none =>
      rw [read_of_seek_none hseek] at h
      obtain ⟨rfl, rfl, rfl⟩ : place = q ∧ none = b? ∧ below = rest := by simpa using h
      exact .inl ⟨rfl, rfl⟩
  | some first =>
      rw [read_of_seek_some hseek] at h
      cases hexample : readExample (exampleStart below) with
      | error n =>
          rw [hexample] at h
          cases h
      | ok v =>
          obtain ⟨text?, left⟩ := v
          rw [hexample] at h
          obtain ⟨rfl, rfl, rfl⟩ : place = q ∧ _ = b? ∧ left = rest := by
            simpa [Except.map] using h
          exact .inr ⟨first, below, text?, rfl, hexample, rfl⟩

/-- The body of an item reads alike with more lines behind it. -/
theorem read_append {p q : Place} {b : Option Body} (hmore : rest = [] → Headed more)
    (h : read p ls = .ok (q, b, rest)) : read p (ls ++ more) = .ok (q, b, rest ++ more) := by
  obtain ⟨hseek, rfl⟩ | ⟨first, below, text?, hseek, hexample, rfl⟩ := read_cases h
  · exact read_of_seek_none (seek_append hmore hseek)
  · -- lines that end before the example leave nothing behind
    have hnil : exampleStart below = [] → rest = [] := by
      intro hend
      rw [hend] at hexample
      exact (Prod.mk.inj (Except.ok.inj hexample)).2.symm
    have hbelow : below = [] → rest = [] := by
      rintro rfl
      exact hnil rfl
    obtain ⟨hmoreLines, hstart⟩ := exampleStart_append fun hend => hmore (hnil hend)
    rw [read_of_seek_some (seek_append (fun hend => hmore (hbelow hend)) hseek), hstart,
      ((readExample_eq_iff.1 hexample).append hmore).readExample_eq, hmoreLines]
    rfl

end Body

/-! ## A step -/

/-- A step reads alike with more lines behind it. -/
theorem step_append {r r' : Progress} {l : Line} {ls rest more : List Line}
    (hmore : rest = [] → Headed more) (h : step r l ls = .ok (r', rest)) :
    step r l (ls ++ more) = .ok (r', rest ++ more) := by
  obtain ⟨hitem, rfl, rfl⟩ | ⟨heading, p, body?, hitem, hread, rfl⟩ := step_cases h
  · rw [step, hitem]
  · rw [step, hitem]
    simp only [Body.read_append hmore hread]

end Glossary.Reference
