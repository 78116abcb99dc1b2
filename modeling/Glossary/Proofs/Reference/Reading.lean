import Glossary.Reference

/-!
# Reading line by line

A reading takes one step after the other: a line that heads no item only moves
the place, and a line that heads one takes its body with it. So what a step
keeps, a whole reading keeps. Entries are only ever added behind those that
were read before, and none of them has a blank example.

## Main results

* `step_cases`, `readLines_of_line`, `readLines_of_item` — what one step does.
* `readLines_keeps` — what every step keeps, a reading keeps.
* `entries_prefix_readLines` — the entries read before stay in front.
* `shown_of_parse` — no entry of a reference has a blank example.
-/

namespace Glossary

/-- The example, if there is one, is not blank. -/
def Entry.Shown (e : Entry) : Prop := ∀ text ∈ e.example?, Text.allBlank text.toList = false

instance (e : Entry) : Decidable e.Shown :=
  inferInstanceAs (Decidable (∀ text ∈ e.example?, Text.allBlank text.toList = false))

theorem Entry.shown_make (token : String) (category : Category) (description : String)
    (text : Option String) : (make token category description text).Shown := by
  intro shown hshown
  simpa using (Option.filter_eq_some_iff.1 hshown).2

namespace Reference

/-- A line that heads no item moves the place; one that heads an item is taken in with its body. -/
theorem step_cases {r r' : Progress} {l : Line} {ls rest : List Line}
    (h : step r l ls = .ok (r', rest)) :
    (itemHeading? l = none ∧ r' = { r with place := r.place.past l } ∧ rest = ls) ∨
      ∃ heading p body?, itemHeading? l = some heading ∧
        Body.read r.place ls = .ok (p, body?, rest) ∧ r' = r.takeItem p heading body? := by
  unfold step at h
  split at h
  · next hitem =>
      obtain ⟨rfl, rfl⟩ := Prod.mk.inj (Except.ok.inj h)
      exact .inl ⟨hitem, rfl, rfl⟩
  · next heading hitem =>
      split at h
      · cases h
      · next p body? left hread =>
          obtain ⟨rfl, rfl⟩ := Prod.mk.inj (Except.ok.inj h)
          exact .inr ⟨heading, p, body?, hitem, hread, rfl⟩

theorem readLines_nil (r : Progress) : readLines r [] = (r, none) := by
  rw [readLines]

theorem readLines_cons (r : Progress) (l : Line) (ls : List Line) :
    readLines r (l :: ls) =
      match step r l ls with
      | .error u => (r, some u)
      | .ok (r', rest) => readLines r' rest := by
  rw [readLines]
  split
  · next u hstep => rw [hstep]
  · next r' rest hstep => rw [hstep]

/-- A line that heads no item moves the place. -/
theorem readLines_of_line {l : Line} (h : itemHeading? l = none) (r : Progress)
    (ls : List Line) :
    readLines r (l :: ls) = readLines { r with place := r.place.past l } ls := by
  rw [readLines_cons, step, h]

/-- An item is taken in with its body. -/
theorem readLines_of_item {l : Line} {heading : List Char} (h : itemHeading? l = some heading)
    {r : Progress} {p : Place} {body : Option Body} {ls rest : List Line}
    (hread : Body.read r.place ls = .ok (p, body, rest)) :
    readLines r (l :: ls) = readLines (r.takeItem p heading body) rest := by
  rw [readLines_cons, step, h]
  simp only [hread]

/-- What holds of the progress before a line and after it, whatever the line is,
holds of the whole reading. -/
theorem readLines_keeps {motive : Progress → Prop}
    (line : ∀ r l, motive r → motive { r with place := r.place.past l })
    (item : ∀ r p heading body, motive r → motive (r.takeItem p heading body))
    (r : Progress) (ls : List Line) (h : motive r) : motive (readLines r ls).1 := by
  fun_induction readLines r ls with
  | case1 r => exact h
  | case2 r l ls u hstep => exact h
  | case3 r l ls r' rest hstep ih =>
      apply ih
      obtain ⟨-, rfl, -⟩ | ⟨heading, p, body?, -, -, rfl⟩ := step_cases hstep
      · exact line r l h
      · exact item r p heading body? h

/-- The entry that an item with a body adds at a place: none outside any section,
and none without a token. -/
def Place.added? (p : Place) (heading : List Char) (b : Body) : Option Entry :=
  p.inSection?.bind fun s =>
    if tokenOf heading = [] then none
    else some (Entry.make (String.ofList (tokenOf heading)) (p.category s)
      (String.ofList b.description) (b.example?.map String.ofList))

theorem Place.added?_eq_some {p : Place} {heading : List Char} {b : Body} {e : Entry}
    (h : p.added? heading b = some e) :
    ∃ s, p.inSection? = some s ∧ p.category s = e.category ∧
      e = Entry.make (String.ofList (tokenOf heading)) e.category
        (String.ofList b.description) (b.example?.map String.ofList) := by
  obtain ⟨s, hs, hentry⟩ := Option.bind_eq_some_iff.1 h
  split at hentry
  · cases hentry
  · obtain rfl := Option.some.inj hentry
    exact ⟨s, hs, rfl, rfl⟩

/-- Taking an item in moves the place to the end of its body. -/
theorem place_takeItem (r : Progress) (p : Place) (heading : List Char) (b : Body) :
    (r.takeItem p heading (some b)).place = p := by
  simp only [Progress.takeItem]
  split
  · rfl
  · split <;> rfl

/-- Taking an item in adds its entry behind the others. -/
theorem entries_takeItem (r : Progress) (p : Place) (heading : List Char) (b : Body) :
    (r.takeItem p heading (some b)).entries.toList =
      r.entries.toList ++ (p.added? heading b).toList := by
  simp only [Progress.takeItem, Place.added?]
  cases p.inSection? with
  | none => simp
  | some s =>
      simp only [Option.bind_some]
      split
      · simp
      · simp

/-- The entries that were read before stay in front. -/
theorem entries_prefix_readLines (r : Progress) (ls : List Line) :
    r.entries.toList <+: (readLines r ls).1.entries.toList := by
  refine readLines_keeps ?_ ?_ r ls (motive := fun r' => r.entries.toList <+: r'.entries.toList)
    (List.prefix_refl _)
  · intro r' l h
    exact h
  · intro r' p heading body h
    cases body with
    | none => exact h
    | some b =>
        rw [entries_takeItem]
        exact h.trans (List.prefix_append _ _)

/-- No entry of a reference has a blank example. -/
theorem shown_of_parse {source : String} {es : List Entry} (h : parse source = .ok es) :
    ∀ e ∈ es, e.Shown := by
  obtain ⟨-, rfl⟩ := parse_eq_ok_iff.1 h
  refine readLines_keeps ?_ ?_ .start _
    (motive := fun r => ∀ e ∈ r.entries.toList, e.Shown) (by simp [Progress.start])
  · intro r l hr
    exact hr
  · intro r p heading body hr
    cases body with
    | none => exact hr
    | some b =>
        rw [entries_takeItem]
        intro e he
        rcases List.mem_append.1 he with he | he
        · exact hr e he
        · obtain ⟨s, -, -, hmake⟩ := Place.added?_eq_some (Option.mem_toList.1 he)
          rw [hmake]
          exact Entry.shown_make _ _ _ _

end Reference

end Glossary
