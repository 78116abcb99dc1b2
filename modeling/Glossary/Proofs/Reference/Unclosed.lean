import Glossary.Proofs.Reference.Body

/-!
# Examples that are never closed

A fence that opens an example and is never closed is the last fence of its
reference, since any later one would close it. It stands below the mark of an
example, with blank lines between them at most, and belongs to the item headed
last above it. One more fence at the end closes it, because what was read before
is read alike with more lines behind it, and then nothing is left to read.

## Main results

* `Body.read_error` — where a body that is never closed breaks off.
* `readLines_error` — and where a reading does.
* `readLines_append_fence` — a fence at the end closes the example.
* `parse_fails_at_last_fence` — what a reference that is not read looks like.
-/

namespace Glossary.Reference

open Text

/-! ## What stands above a line -/

/-- The last line that is not blank. -/
def lastText? (above : List Line) : Option Line := above.reverse.find? fun l => !isBlankLine l

/-- The last heading of an item. -/
def lastItem? (above : List Line) : Option (List Char) := above.reverse.findSome? itemHeading?

/-- A last fence that stands below the mark of an example. -/
structure LastFence (above : List Line) (f : Line) (below : List Line) : Prop where
  is_fence : isFence f = true
  last : ∀ l ∈ below, isFence l = false
  announced : ∃ mark, lastText? above = some mark ∧ isExampleMark mark = true

theorem lastText?_append_of_some {above : List Line} {l : Line} (h : lastText? above = some l)
    (before : List Line) : lastText? (before ++ above) = some l := by
  unfold lastText? at h ⊢
  rw [List.reverse_append, List.find?_append, h]
  rfl

theorem lastText?_append_blanks {l : Line} (h : isBlankLine l = false) (above : List Line)
    {blanks : List Line} (hblanks : ∀ b ∈ blanks, isBlankLine b = true) :
    lastText? (above ++ l :: blanks) = some l := by
  have hnone : blanks.reverse.find? (fun b => !isBlankLine b) = none := by
    rw [List.find?_eq_none]
    intro b hb
    simp [hblanks b (List.mem_reverse.1 hb)]
  rw [lastText?, List.reverse_append, List.reverse_cons, List.find?_append, List.find?_append,
    hnone]
  simp [h]

theorem lastItem?_append_of_some {above : List Line} {heading : List Char}
    (h : lastItem? above = some heading) (before : List Line) :
    lastItem? (before ++ above) = some heading := by
  unfold lastItem? at h ⊢
  rw [List.reverse_append, List.findSome?_append, h]
  rfl

theorem lastItem?_cons_of_none {l : Line} {above : List Line}
    (h : ∀ k ∈ above, itemHeading? k = none) : lastItem? (l :: above) = itemHeading? l := by
  have hnone : above.reverse.findSome? itemHeading? = none :=
    List.findSome?_eq_none_iff.2 fun k hk => h k (List.mem_reverse.1 hk)
  rw [lastItem?, List.reverse_cons, List.findSome?_append, hnone]
  simp

theorem LastFence.append {above below : List Line} {f : Line} (h : LastFence above f below)
    (before : List Line) : LastFence (before ++ above) f below where
  is_fence := h.is_fence
  last := h.last
  announced := by
    obtain ⟨mark, htext, hmark⟩ := h.announced
    exact ⟨mark, lastText?_append_of_some htext before, hmark⟩

/-! ## A body that breaks off -/

namespace Body

variable {p : Place} {ls : List Line} {n : Nat}

/-- No item is headed up to the first line of a description, nor by it. -/
theorem seek_some {q : Place} {first : List Char} {rest : List Line}
    (h : seek p ls = (q, some first, rest)) :
    ∃ passed, ls = passed ++ rest ∧ ∀ k ∈ passed, itemHeading? k = none := by
  induction ls generalizing p with
  | nil => cases h
  | cons l ls ih =>
      rw [seek] at h
      by_cases hitem : (itemHeading? l).isSome
      · rw [if_pos hitem] at h
        cases h
      · rw [if_neg hitem] at h
        have hl : itemHeading? l = none := by simpa using hitem
        cases hfirst : description? l with
        | some d =>
            rw [hfirst] at h
            obtain ⟨-, -, rfl⟩ : p = q ∧ d = first ∧ ls = rest := by simpa using h
            exact ⟨[l], rfl, by simp [hl]⟩
        | none =>
            rw [hfirst] at h
            obtain ⟨passed, rfl, hpassed⟩ := ih h
            exact ⟨l :: passed, rfl, by simpa [hl] using hpassed⟩

/-- No item is headed between the description and the place where an example is
looked for. -/
theorem exampleStart_split (ls : List Line) :
    ∃ passed, ls = passed ++ exampleStart ls ∧ ∀ k ∈ passed, itemHeading? k = none := by
  refine ⟨ls.takeWhile (!endsDescription ·) ++
    (ls.dropWhile (!endsDescription ·)).takeWhile (fun l => !(isExampleMark l || isHeading l)),
    ?_, ?_⟩
  · rw [exampleStart, List.append_assoc, List.takeWhile_append_dropWhile,
      List.takeWhile_append_dropWhile]
  · intro k hk
    have hplain : isHeading k = false := by
      rcases List.mem_append.1 hk with hk | hk
      · have hend := List.mem_takeWhile_imp hk
        simp_all [endsDescription]
      · have hend := List.mem_takeWhile_imp hk
        simp_all
    exact itemHeading?_of_not_isHeading hplain

/-- Reading a body fails in its example only. -/
theorem exists_seek_of_error (h : read p ls = .error n) :
    ∃ q first rest, seek p ls = (q, some first, rest) ∧
      readExample (exampleStart rest) = .error n := by
  rcases hseek : seek p ls with ⟨q, first?, rest⟩
  cases first? with
  | none =>
      rw [read_of_seek_none hseek] at h
      cases h
  | some first =>
      refine ⟨q, first, rest, rfl, ?_⟩
      rw [read_of_seek_some hseek] at h
      cases hexample : readExample (exampleStart rest) with
      | error m =>
          rw [hexample] at h
          exact congrArg Except.error (Except.error.inj h)
      | ok v =>
          rw [hexample] at h
          cases h

/-- A body breaks off at the last fence, and no item is headed above that. -/
theorem read_error (h : read p ls = .error n) :
    ∃ above f below, ls = above ++ f :: below ∧ below.length = n ∧ LastFence above f below ∧
      ∀ l ∈ above, itemHeading? l = none := by
  obtain ⟨q, first, rest, hseek, hexample⟩ := exists_seek_of_error h
  obtain ⟨passed, rfl, hpassed⟩ := seek_some hseek
  obtain ⟨more, hmore, hplain⟩ := exampleStart_split rest
  generalize exampleStart rest = start at hmore hexample
  subst hmore
  cases readExample_eq_iff.1 hexample with
  | @unclosed mark f blanks below announces blank opens never =>
      have hsolid : isBlankLine mark = false := isBlankLine_of_opensWith (by decide) announces
      have hunder : ∀ l ∈ mark :: blanks, itemHeading? l = none := by
        intro l hl
        apply itemHeading?_of_not_isHeading
        rcases List.mem_cons.1 hl with rfl | hl
        · exact isHeading_eq_false (.inr announces)
        · exact isHeading_eq_false (.inl (blank l hl))
      refine ⟨passed ++ more ++ mark :: blanks, f, below, by simp, rfl,
        ⟨opens, never, mark, lastText?_append_blanks hsolid _ blank, announces⟩, ?_⟩
      intro l hl
      rcases List.mem_append.1 hl with hl | hl
      · rcases List.mem_append.1 hl with hl | hl
        · exact hpassed l hl
        · exact hplain l hl
      · exact hunder l hl

/-- A fence at the end closes an example that is never closed. -/
theorem Example.append_fence (h : Example ls (.error n)) :
    ∃ text, Example (ls ++ [fence]) (.ok (some text, [])) := by
  cases h with
  | @unclosed mark f blanks below announces blank opens never =>
      rw [List.cons_append, List.append_assoc, List.cons_append]
      exact ⟨_, .closed announces blank opens never (by decide)⟩

/-- So it completes the body, and leaves no line. -/
theorem read_append_fence (h : read p ls = .error n) :
    ∃ q b, read p (ls ++ [fence]) = .ok (q, some b, []) := by
  obtain ⟨q, first, rest, hseek, hexample⟩ := exists_seek_of_error h
  obtain ⟨text, hclosed⟩ := (readExample_eq_iff.1 hexample).append_fence
  have hstart : exampleStart rest ≠ [] := by
    intro hnil
    rw [hnil] at hexample
    cases hexample
  have hrest : rest ≠ [] := by
    rintro rfl
    exact hstart rfl
  have happend : exampleStart (rest ++ [fence]) = exampleStart rest ++ [fence] :=
    (exampleStart_append fun hnil => absurd hnil hstart).2
  have hsought : seek p (ls ++ [fence]) = (q, some first, rest ++ [fence]) :=
    seek_append (fun hnil => absurd hnil hrest) hseek
  have hread := read_of_seek_some hsought
  rw [happend, hclosed.readExample_eq] at hread
  exact ⟨q, _, hread⟩

end Body

/-! ## A reading that breaks off -/

/-- A step fails in the body of an item only. -/
theorem step_error {r : Progress} {l : Line} {ls : List Line} {u : Unclosed}
    (h : step r l ls = .error u) :
    ∃ heading, itemHeading? l = some heading ∧ Body.read r.place ls = .error u.below ∧
      u.token = String.ofList (tokenOf heading) := by
  unfold step at h
  split at h
  · cases h
  · next heading hitem =>
      split at h
      · next n hread =>
          obtain rfl := Except.error.inj h
          exact ⟨heading, hitem, hread, rfl⟩
      · cases h

/-- A reading breaks off at the last fence, in the example of the last item. -/
theorem readLines_error {r : Progress} {ls : List Line} {u : Unclosed}
    (h : (readLines r ls).2 = some u) :
    ∃ above f below heading, ls = above ++ f :: below ∧ below.length = u.below ∧
      LastFence above f below ∧ lastItem? above = some heading ∧
      u.token = String.ofList (tokenOf heading) := by
  fun_induction readLines r ls with
  | case1 r => cases h
  | case2 r l ls u' hstep =>
      obtain rfl := Option.some.inj h
      obtain ⟨heading, hitem, hread, htoken⟩ := step_error hstep
      obtain ⟨above, f, below, rfl, hlength, hfence, hplain⟩ := Body.read_error hread
      exact ⟨l :: above, f, below, heading, rfl, hlength, hfence.append [l],
        (lastItem?_cons_of_none hplain).trans hitem, htoken⟩
  | case3 r l ls r' rest hstep ih =>
      obtain ⟨above, f, below, heading, rfl, hlength, hfence, hitem, htoken⟩ := ih h
      obtain ⟨taken, rfl⟩ := step_suffix hstep
      exact ⟨l :: taken ++ above, f, below, heading, by simp, hlength, hfence.append (l :: taken),
        lastItem?_append_of_some hitem (l :: taken), htoken⟩

/-- A fence at the end closes the example, and the reading ends behind it. -/
theorem readLines_append_fence {r : Progress} {ls : List Line} {u : Unclosed}
    (h : (readLines r ls).2 = some u) : (readLines r (ls ++ [fence])).2 = none := by
  fun_induction readLines r ls with
  | case1 r => cases h
  | case2 r l ls u' hstep =>
      obtain ⟨heading, hitem, hread, -⟩ := step_error hstep
      obtain ⟨q, b, hclosed⟩ := Body.read_append_fence hread
      rw [List.cons_append, readLines_of_item hitem hclosed, readLines_nil]
  | case3 r l ls r' rest hstep ih =>
      have hrest : rest ≠ [] := by
        rintro rfl
        rw [readLines_nil] at h
        cases h
      rw [List.cons_append, readLines_cons, step_append (fun hnil => absurd hnil hrest) hstep]
      exact ih h

/-! ## A reference that is not read -/

/-- The reading of a text, from the reading of its lines. -/
theorem parse_eq (source : String) :
    parse source =
      match (readLines .start (lines source.toList)).2 with
      | some u =>
          .error (.unterminatedExample u.token ((lines source.toList).length - u.below))
      | none => .ok (readLines .start (lines source.toList)).1.entries.toList := by
  simp only [parse, Reading.result, read, readAll]
  cases (readLines .start (lines source.toList)).2 with
  | none => rfl
  | some u => rfl

theorem exists_parse_eq_ok {source : String}
    (h : (readLines .start (lines source.toList)).2 = none) : ∃ es, parse source = .ok es := by
  rw [parse_eq, h]
  exact ⟨_, rfl⟩

/-- There is a text with the lines of another one and a fence behind them. -/
theorem exists_closed (source : String) :
    ∃ closed : String, lines closed.toList = lines source.toList ++ [fence] := by
  have hfree : ∀ l ∈ lines source.toList ++ [fence], '\n' ∉ l := by
    intro l hl
    rcases List.mem_append.1 hl with hl | hl
    · exact newline_not_mem_of_mem_lines hl
    · rw [List.mem_singleton.1 hl]
      decide
  obtain ⟨closed, hclosed⟩ := exists_lines hfree
  exact ⟨String.ofList closed, by rw [String.toList_ofList, hclosed]⟩

/-- A reference that is not read breaks off at its last fence, which stands below the
mark of an example, in the item that is headed last above it. One more fence at the
end makes it a reference that is read. -/
theorem parse_fails_at_last_fence (source : String) :
    (∀ token line, parse source = .error (.unterminatedExample token line) →
      ∃ above f below heading, lines source.toList = above ++ f :: below ∧
        line = above.length + 1 ∧ LastFence above f below ∧
        lastItem? above = some heading ∧ token = String.ofList (tokenOf heading) ∧
        (∃ closed : String, lines closed.toList = lines source.toList ++ [fence]) ∧
        ∀ closed : String, lines closed.toList = lines source.toList ++ [fence] →
          ∃ es, parse closed = .ok es) ∧
    ((∀ above f below, lines source.toList = above ++ f :: below → ¬LastFence above f below) →
      ∃ es, parse source = .ok es) := by
  cases hread : (readLines .start (lines source.toList)).2 with
  | none =>
      refine ⟨?_, fun _ => exists_parse_eq_ok hread⟩
      intro token line herror
      rw [parse_eq, hread] at herror
      cases herror
  | some u =>
      obtain ⟨above, f, below, heading, hsplit, hlength, hfence, hitem, htoken⟩ :=
        readLines_error hread
      refine ⟨?_, fun hnone => absurd hfence (hnone above f below hsplit)⟩
      intro token line herror
      have hline : (lines source.toList).length - u.below = above.length + 1 := by
        rw [hsplit, List.length_append, List.length_cons]
        omega
      have hfields : u.token = token ∧ above.length + 1 = line := by
        simpa [parse_eq, hread, hline] using herror
      refine ⟨above, f, below, heading, hsplit, hfields.2.symm, hfence, hitem,
        hfields.1.symm.trans htoken, exists_closed source, ?_⟩
      intro closed hclosed
      apply exists_parse_eq_ok
      rw [hclosed]
      exact readLines_append_fence hread

/-- A reference without an example. -/
def plainItem : String := "## Keywords\n### \x60pass\x60\n**Description**: No-op.\n"

/-- The same reference with an example that is left open. -/
def leftOpen : String := plainItem ++ "**Example**:\n\n\x60\x60\x60python\npass\n"

theorem parse_leftOpen : parse leftOpen = .error (.unterminatedExample "pass" 6) := by
  decide +kernel

theorem parse_fails_at_last_fence_pass :
    parse leftOpen = .error (.unterminatedExample "pass" 6) ∧
    (∃ above f below, lines leftOpen.toList = above ++ f :: below ∧ 6 = above.length + 1 ∧
      LastFence above f below) ∧
    ∃ es, parse plainItem = .ok es := by
  obtain ⟨above, f, below, -, hsplit, hline, hfence, -⟩ :=
    (parse_fails_at_last_fence leftOpen).1 _ _ parse_leftOpen
  refine ⟨parse_leftOpen, ⟨above, f, below, hsplit, hline, hfence⟩, ?_⟩
  apply (parse_fails_at_last_fence _).2
  intro above f below hsplit hfence
  have hnone : ∀ l ∈ lines plainItem.toList, isFence l = false := by decide +kernel
  rw [hsplit] at hnone
  have hopen := hfence.is_fence
  rw [hnone f (by simp)] at hopen
  cases hopen

end Glossary.Reference
