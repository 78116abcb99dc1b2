import Glossary.Entry
import Glossary.Reference.Line

/-!
# Reading a reference

A reference is a text written by hand. Headings of one or two `#` open its sections, and a
heading of three names either a token, when a description follows it, or a group of categories.
An entry is such an item with its description and, if it has one, an example between fences.

The reader takes one line after the other and knows only the place where it stands. An item's
body ends before the next heading, so what lies behind a heading is read as if the reference
began there. An example whose fence is never closed is the only error.

## Main results

* `Body.read_suffix`, `step_suffix` — what a step leaves is the end of the lines.
* `parse_eq_ok_iff` — parsing succeeds when the reading ends without an error.
-/

namespace Glossary

/-- Why a text is no reference. -/
inductive ReferenceError where
  /-- The fence on this line, counted from one, opens the token's example and is never closed. -/
  | unterminatedExample (token : String) (line : Nat)
  deriving DecidableEq, Repr

/-- The wording of the error. -/
def ReferenceError.message : ReferenceError → String
  | .unterminatedExample token line =>
      s!"Unterminated example block for '{token}' opened at line {line}"

namespace Reference

open Text

/-- Joins lines with newlines. -/
def joinLines (ls : List Line) : List Char := ['\n'].intercalate ls

/-- What follows an item's heading: its description and its example. -/
structure Body where
  description : List Char
  example? : Option (List Char)
  deriving DecidableEq, Repr

namespace Body

/-- Goes on to the next description, or to the next item's heading if there is none before it.
Gives the place there, the first line of the description, and the lines behind it. -/
def seek (p : Place) : List Line → Place × Option (List Char) × List Line
  | [] => (p, none, [])
  | l :: ls =>
      if (itemHeading? l).isSome then (p, none, l :: ls)
      else match description? l with
        | some d => (p, some d, ls)
        | none => seek (p.past l) ls

/-- A description from its first line and the lines that carry it on. An empty first line is left
out, and then the next one stands at the start. -/
def describe (first : List Char) (more : List Line) : List Char :=
  match first, more with
  | [], [] => []
  | [], l :: ls => joinLines (trim l :: ls.map trimEnd)
  | first, more => joinLines (first :: more.map trimEnd)

/-- The example at the start of some lines, and the lines behind it. The error is the number of
lines below a fence that is never closed. -/
def readExample : List Line → Except Nat (Option (List Char) × List Line)
  | [] => .ok (none, [])
  | l :: ls =>
      if isExampleMark l then
        match ls.dropWhile isBlankLine with
        | [] => .ok (none, [])
        | f :: inner =>
            if isFence f then
              match inner.dropWhile (!isFence ·) with
              | [] => .error inner.length
              | _ :: rest => .ok (some (joinLines (inner.takeWhile (!isFence ·))), rest)
            else .ok (none, f :: inner)
      else .ok (none, l :: ls)

/-- Reads what follows an item's heading: the place behind it, the body if there is one, and the
lines left. -/
def read (p : Place) (ls : List Line) : Except Nat (Place × Option Body × List Line) :=
  match seek p ls with
  | (p, none, rest) => .ok (p, none, rest)
  | (p, some first, rest) =>
      let more := rest.takeWhile (!endsDescription ·)
      let tail := rest.dropWhile (!endsDescription ·)
      (readExample (tail.dropWhile fun l => !(isExampleMark l || isHeading l))).map
        fun (text, rest) => (p, some ⟨describe first more, text⟩, rest)

theorem seek_suffix (p : Place) (ls : List Line) : (seek p ls).2.2 <:+ ls := by
  fun_induction seek p ls with
  | case1 | case2 => exact List.suffix_refl _
  | case3 p l ls => exact List.suffix_cons l ls
  | case4 p l ls _ _ ih => exact ih.trans (List.suffix_cons l ls)

theorem readExample_suffix {ls rest : List Line} {text : Option (List Char)}
    (h : readExample ls = .ok (text, rest)) : rest <:+ ls := by
  unfold readExample at h
  split at h
  · obtain ⟨-, rfl⟩ := Prod.mk.inj (Except.ok.inj h)
    exact List.suffix_refl _
  · next l ls =>
      have hbelow : ls.dropWhile isBlankLine <:+ l :: ls :=
        (List.dropWhile_suffix _).trans (List.suffix_cons l ls)
      split at h
      · split at h
        · obtain ⟨-, rfl⟩ := Prod.mk.inj (Except.ok.inj h)
          exact List.nil_suffix
        · next f inner hf =>
            rw [hf] at hbelow
            split at h
            · split at h
              · contradiction
              · next g rest' hg =>
                  obtain ⟨-, rfl⟩ := Prod.mk.inj (Except.ok.inj h)
                  have hinner : g :: rest' <:+ inner := hg ▸ List.dropWhile_suffix _
                  exact (List.suffix_cons g rest').trans
                    (hinner.trans ((List.suffix_cons f inner).trans hbelow))
            · obtain ⟨-, rfl⟩ := Prod.mk.inj (Except.ok.inj h)
              exact hbelow
      · obtain ⟨-, rfl⟩ := Prod.mk.inj (Except.ok.inj h)
        exact List.suffix_refl _

theorem read_suffix {p q : Place} {ls rest : List Line} {b : Option Body}
    (h : read p ls = .ok (q, b, rest)) : rest <:+ ls := by
  have hsought := seek_suffix p ls
  unfold read at h
  split at h
  · next q' rest' hseek =>
      obtain ⟨-, -, rfl⟩ : q' = q ∧ none = b ∧ rest' = rest := by simpa using h
      rwa [hseek] at hsought
  · next q' first rest' hseek =>
      rw [hseek] at hsought
      simp only at h
      cases hexample : readExample ((rest'.dropWhile (!endsDescription ·)).dropWhile
          fun l => !(isExampleMark l || isHeading l)) with
      | error n => simp only [hexample, Except.map, reduceCtorEq] at h
      | ok v =>
          obtain ⟨text, tail⟩ := v
          simp only [hexample, Except.map, Except.ok.injEq, Prod.mk.injEq] at h
          obtain ⟨-, -, rfl⟩ := h
          exact (readExample_suffix hexample).trans ((List.dropWhile_suffix _).trans
            ((List.dropWhile_suffix _).trans hsought))

end Body

/-- What has been read so far: the place reached, the entries in order, and the tokens that stood
outside any section and were passed over. -/
structure Progress where
  place : Place
  entries : Array Entry
  skipped : Array String
  deriving DecidableEq, Repr

namespace Progress

/-- Nothing read yet. -/
def start : Progress := ⟨.outside, #[], #[]⟩

/-- Takes in an item with the given heading and body, read up to `p`. -/
def takeItem (r : Progress) (p : Place) (heading : List Char) (body : Option Body) : Progress :=
  match body with
  | none => { r with place := p.within heading }
  | some b =>
      let token := tokenOf heading
      match p.inSection? with
      | none => { r with place := p, skipped := r.skipped.push (String.ofList token) }
      | some s =>
          if token = [] then { r with place := p }
          else
            { r with
              place := p
              entries := r.entries.push (Entry.make (String.ofList token) (p.category s)
                (String.ofList b.description) (b.example?.map String.ofList)) }

end Progress

/-- An example that is never closed: the token it belongs to, and how many lines lie below its
fence. -/
structure Unclosed where
  token : String
  below : Nat
  deriving DecidableEq, Repr

/-- Reads one line, and with it the body of an item that it heads. -/
def step (r : Progress) (l : Line) (ls : List Line) : Except Unclosed (Progress × List Line) :=
  match itemHeading? l with
  | none => .ok ({ r with place := r.place.past l }, ls)
  | some heading =>
      match Body.read r.place ls with
      | .error below => .error ⟨String.ofList (tokenOf heading), below⟩
      | .ok (p, body, rest) => .ok (r.takeItem p heading body, rest)

theorem step_suffix {r r' : Progress} {l : Line} {ls rest : List Line}
    (h : step r l ls = .ok (r', rest)) : rest <:+ ls := by
  unfold step at h
  split at h
  · obtain ⟨-, rfl⟩ := Prod.mk.inj (Except.ok.inj h)
    exact List.suffix_refl _
  · split at h
    · contradiction
    · next hread =>
        obtain ⟨-, rfl⟩ := Prod.mk.inj (Except.ok.inj h)
        exact Body.read_suffix hread

theorem length_step_lt {r r' : Progress} {l : Line} {ls rest : List Line}
    (h : step r l ls = .ok (r', rest)) : rest.length < (l :: ls).length :=
  Nat.lt_succ_of_le (step_suffix h).length_le

/-- Reads lines to the end, or to an example that is never closed. -/
def readLines (r : Progress) (ls : List Line) : Progress × Option Unclosed :=
  match ls with
  | [] => (r, none)
  | l :: ls =>
      match _h : step r l ls with
      | .error u => (r, some u)
      | .ok (r', rest) => readLines r' rest
termination_by ls.length
decreasing_by exact length_step_lt _h

/-- A whole reading: how far it came, and the error that stopped it. -/
structure Reading where
  progress : Progress
  error? : Option ReferenceError
  deriving DecidableEq, Repr

/-- Reads the lines of a reference. -/
def readAll (ls : List Line) : Reading :=
  let (r, u) := readLines .start ls
  ⟨r, u.map fun u => .unterminatedExample u.token (ls.length - u.below)⟩

/-- Reads a reference. -/
def read (source : String) : Reading := readAll (lines source.toList)

/-- The entries of a reading that was not stopped. -/
def Reading.result (r : Reading) : Except ReferenceError (List Entry) :=
  match r.error? with
  | some e => .error e
  | none => .ok r.progress.entries.toList

/-- The entries of a reference in the order in which they stand; a token may occur again. -/
def parse (source : String) : Except ReferenceError (List Entry) := (read source).result

theorem parse_eq_ok_iff {source : String} {es : List Entry} :
    parse source = .ok es ↔
      (read source).error? = none ∧ (read source).progress.entries.toList = es := by
  unfold parse Reading.result
  split <;> simp_all

/-- The title of a reference: its first heading of a single `#`, unless that is empty. -/
def title? (source : String) : Option String :=
  let headings := (lines source.toList).findSome? (dropPrefix? ['#', ' '])
  ((headings.map trim).filter (· ≠ [])).map String.ofList

end Reference

end Glossary
