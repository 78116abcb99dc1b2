import Glossary.Proofs.Reference.Unclosed

/-!
# References that are carried on

A reference can be carried on with more items. What was read before stays as it was,
and the items behind it are read as if the reading began there, at the place where it
had come to. Every step ends at the heading of an item, so none of them goes on from
the lines that were there into those that are added, whatever was being read when the
lines ended: a description, the blank lines below the mark of an example, or nothing.

Only an example that is never closed can spoil the whole, and then it is one of the
items that were added.

## Main results

* `readLines_after` — a reading does not look back at what was read before.
* `readLines_append` — a reading goes on where it stood.
* `readAll_append` — what a reference gives that is carried on.
-/

namespace Glossary.Reference

/-! ## Readings that begin at a place -/

/-- Nothing read yet, at a place. -/
def Progress.fresh (p : Place) : Progress := ⟨p, #[], #[]⟩

/-- Reads lines from a place on, with nothing read before. -/
def readFrom (p : Place) (ls : List Line) : Reading :=
  let (r, u) := readLines (.fresh p) ls
  ⟨r, u.map fun u => .unterminatedExample u.token (ls.length - u.below)⟩

theorem readFrom_outside (ls : List Line) : readFrom .outside ls = readAll ls := rfl

/-- The progress of a reading, when something was read before it began. -/
def Progress.after (r before : Progress) : Progress :=
  ⟨r.place, before.entries ++ r.entries, before.skipped ++ r.skipped⟩

theorem Progress.takeItem_after (r before : Progress) (p : Place) (heading : List Char)
    (b? : Option Body) :
    (r.after before).takeItem p heading b? = (r.takeItem p heading b?).after before := by
  cases b? with
  | none => rfl
  | some b =>
      simp only [takeItem, after]
      cases p.inSection? with
      | none => simp
      | some s =>
          by_cases htoken : tokenOf heading = []
          · simp [htoken]
          · simp [htoken]

theorem step_after (r before : Progress) (l : Line) (ls : List Line) :
    step (r.after before) l ls =
      (step r l ls).map fun (r', rest) => (r'.after before, rest) := by
  have hplace : (r.after before).place = r.place := rfl
  unfold step
  cases itemHeading? l with
  | none => rfl
  | some heading =>
      simp only [hplace]
      cases Body.read r.place ls with
      | error n => rfl
      | ok v =>
          obtain ⟨p, b?, rest⟩ := v
          simp only [Progress.takeItem_after, Except.map]

/-- A reading does not look back at what was read before. -/
theorem readLines_after (r before : Progress) (ls : List Line) :
    readLines (r.after before) ls =
      ((readLines r ls).1.after before, (readLines r ls).2) := by
  fun_induction readLines r ls with
  | case1 r => rw [readLines_nil]
  | case2 r l ls u hstep => rw [readLines_cons, step_after, hstep, Except.map]
  | case3 r l ls r' rest hstep ih =>
      rw [readLines_cons, step_after, hstep, Except.map]
      exact ih

theorem result_readFrom_eq_ok_iff {p : Place} {ls : List Line} {es : List Entry} :
    (readFrom p ls).result = .ok es ↔
      (readLines (.fresh p) ls).2 = none ∧ (readLines (.fresh p) ls).1.entries.toList = es := by
  simp only [Reading.result, readFrom]
  cases (readLines (.fresh p) ls).2 with
  | none => simp
  | some u => simp

theorem result_readFrom_of_stopped {p : Place} {ls : List Line} {u : Unclosed}
    (h : (readLines (.fresh p) ls).2 = some u) :
    (readFrom p ls).result = .error (.unterminatedExample u.token (ls.length - u.below)) := by
  simp only [Reading.result, readFrom, h, Option.map_some]

/-! ## More lines behind -/

/-- A reading that comes to its end goes on from there when an item is headed next. -/
theorem readLines_append {r : Progress} {ls more : List Line} (h : (readLines r ls).2 = none)
    (hmore : Headed more) : readLines r (ls ++ more) = readLines (readLines r ls).1 more := by
  fun_induction readLines r ls with
  | case1 r => rfl
  | case2 r l ls u hstep => cases h
  | case3 r l ls r' rest hstep ih =>
      have hlonger : step r l (ls ++ more) = .ok (r', rest ++ more) :=
        step_append (fun _ => hmore) hstep
      rw [List.cons_append, readLines_cons, hlonger]
      exact ih h

/-- From where a reading came to its end, it goes on as if it began there. -/
theorem readLines_resume {r : Progress} {ls more : List Line} (h : (readLines r ls).2 = none)
    (hmore : Headed more) :
    readLines r (ls ++ more) =
      ((readLines (.fresh (readLines r ls).1.place) more).1.after (readLines r ls).1,
        (readLines (.fresh (readLines r ls).1.place) more).2) := by
  rw [readLines_append h hmore, ← readLines_after]
  simp [Progress.after, Progress.fresh]

/-- A reading is stopped on one of its lines. -/
theorem line_of_stopped {r : Progress} {ls : List Line} {u : Unclosed}
    (h : (readLines r ls).2 = some u) : 0 < ls.length - u.below ∧ u.below < ls.length := by
  obtain ⟨above, f, below, -, hsplit, hlength, -⟩ := readLines_error h
  have htotal : ls.length = above.length + (below.length + 1) := by
    rw [hsplit, List.length_append, List.length_cons]
  omega

/-- A reference that is read stays as it is when lines with an item's heading in front are added.
Their entries are those that they have from the place where the reference ended, and are added
behind the others. If the lines leave an example open, so does the whole, on the same line. -/
theorem readAll_append {above below : List Line} {es : List Entry}
    (h : (readAll above).result = .ok es) (hbelow : Headed below) :
    (∃ fs, (readFrom (readAll above).progress.place below).result = .ok fs ∧
      (readAll (above ++ below)).result = .ok (es ++ fs)) ∨
    ∃ token line,
      (readFrom (readAll above).progress.place below).result =
        .error (.unterminatedExample token line) ∧
      0 < line ∧ line ≤ below.length ∧
      (readAll (above ++ below)).result =
        .error (.unterminatedExample token (above.length + line)) := by
  obtain ⟨hend, hentries⟩ := (result_readFrom_eq_ok_iff (p := .outside)).1 h
  have hwhole := readLines_resume hend hbelow
  have hplace : (readAll above).progress.place = (readLines .start above).1.place := rfl
  rw [hplace, ← readFrom_outside]
  cases hstop : (readLines (.fresh (readLines .start above).1.place) below).2 with
  | none =>
      left
      refine ⟨_, result_readFrom_eq_ok_iff.2 ⟨hstop, rfl⟩, ?_⟩
      rw [result_readFrom_eq_ok_iff, hwhole]
      refine ⟨hstop, ?_⟩
      rw [Progress.after, Array.toList_append, hentries]
      rfl
  | some u =>
      right
      have hline := line_of_stopped hstop
      have hsame : (above ++ below).length - u.below =
          above.length + (below.length - u.below) := by
        rw [List.length_append]
        omega
      refine ⟨_, _, result_readFrom_of_stopped hstop, hline.1, Nat.sub_le _ _, ?_⟩
      rw [result_readFrom_of_stopped (u := u), hsame]
      rw [hwhole]
      exact hstop

/-- A reference that ends below the mark of an example, in blank lines. -/
def announcedItem : List Line :=
  ["## Builtins".toList, "### \x60x\x60".toList, "**Description**: d".toList,
    "**Example**:".toList, []]

/-- A group and an item in it. -/
def groupedItem : List Line :=
  ["### Constants".toList, "### \x60y\x60".toList, "**Description**: e".toList]

/-- An item with an example that is left open. -/
def openItem : List Line :=
  ["### \x60y\x60".toList, "**Description**: e".toList, "**Example**:".toList,
    "\x60\x60\x60".toList, "1".toList]

theorem readAll_append_announced :
    (readAll (announcedItem ++ groupedItem)).result =
      .ok ([⟨"x", .builtinFunction, "d", none⟩] ++ [⟨"y", .builtinConstant, "e", none⟩]) ∧
    (readAll (announcedItem ++ openItem)).result =
      .error (.unterminatedExample "y" (announcedItem.length + 4)) := by
  have habove : (readAll announcedItem).result = .ok [⟨"x", .builtinFunction, "d", none⟩] := by
    decide +kernel
  constructor
  · have hgroup : Headed groupedItem := by
      intro l hl
      obtain rfl := Option.some.inj hl
      decide
    have hfrom : (readFrom (readAll announcedItem).progress.place groupedItem).result =
        .ok [⟨"y", .builtinConstant, "e", none⟩] := by
      decide +kernel
    rcases readAll_append habove hgroup with ⟨fs, hfs, hall⟩ | ⟨token, line, herror, -⟩
    · rw [hfrom] at hfs
      rw [hall, ← Except.ok.inj hfs]
    · rw [hfrom] at herror
      cases herror
  · have hopen : Headed openItem := by
      intro l hl
      obtain rfl := Option.some.inj hl
      decide
    have hfrom : (readFrom (readAll announcedItem).progress.place openItem).result =
        .error (.unterminatedExample "y" 4) := by
      decide +kernel
    rcases readAll_append habove hopen with ⟨fs, hfs, -⟩ | ⟨token, line, herror, -, -, hall⟩
    · rw [hfrom] at hfs
      cases hfs
    · rw [hfrom] at herror
      cases herror
      exact hall

end Glossary.Reference
