import Glossary.Proofs.Analysis.Known
import Glossary.Proofs.Dictionary.Definitions
import Glossary.Render

/-!
# Examples in notes

A note sets the example of a token between two fences and escapes nothing of it. A line of the
example that is a fence itself would end the block too early, and the rest of the example would
be read as text of the note. References know no such example: what stands between two fences is
read up to the first line that is a fence, and merging keeps the texts of entries as they are.
So the block in the note of a token that a reference explains is read back as the example.

## Main results

* `Reference.readBlock_pieces` — a text without fences between two fences is read back.
* `Store.wellFormed_of_find?` — what a reference explains has the form of its entries.
* `Render.pieces_note` — the lines of a note with an example.
* `Store.note_example` — the example is read back from the note.
-/

namespace Glossary

open Text

/-! ## Blocks -/

namespace Reference

/-- What is read below a fence: the example, and the lines that are left. -/
def readBlock (below : List Line) : List Char × List Line :=
  (joinLines (below.takeWhile (!isFence ·)), below.dropWhile (!isFence ·))

/-- Lines without a fence, and then one. -/
theorem readBlock_fence {ls : List Line} (h : ∀ l ∈ ls, isFence l = false) :
    readBlock (ls ++ [fence]) = (joinLines ls, [fence]) := by
  have hrun : ∀ l ∈ ls, (!isFence l) = true := by simpa using h
  have hstop : ∀ l, [fence].head? = some l → (!isFence l) = false := by
    rintro l ⟨⟩
    decide
  obtain ⟨htake, hdrop⟩ := run_eq hrun hstop
  rw [readBlock, htake, hdrop]

/-- A text without fences is read back. -/
theorem readBlock_pieces {text : List Char} (h : ∀ l ∈ pieces text, isFence l = false) :
    readBlock (pieces text ++ [fence]) = (text, [fence]) := by
  rw [readBlock_fence h, joinLines, intercalate_pieces]

end Reference

/-! ## Notes -/

namespace Render

/-- The line that opens an example. -/
def opening (l : Language) : String := fence ++ l.name

/-- It is a fence. -/
theorem isFence_opening (l : Language) : Reference.isFence (opening l).toList = true := by
  cases l <;> decide

/-- An example stands below the note without it. -/
theorem note_of_example {m : Match} {text : String} (h : m.example? = some text) (l : Language) :
    note m l true = note m l false ++ "\n\n" ++ opening l ++ "\n" ++ text ++ "\n" ++ fence := by
  simp [note, h, opening, String.append_assoc, toString]

/-- The pieces of a note with an example: those of the note without it, a blank line, the opening
one, the pieces of the example, and a fence. -/
theorem pieces_note {m : Match} {text : String} (h : m.example? = some text) (l : Language) :
    pieces (note m l true).toList = pieces (note m l false).toList ++ [] :: (opening l).toList ::
      (pieces text.toList ++ [Reference.fence]) := by
  have hopening : '\n' ∉ (opening l).toList := by cases l <;> decide
  have hchars : (note m l true).toList = (note m l false).toList ++ '\n' :: ([] ++ '\n' ::
      ((opening l).toList ++ '\n' :: (text.toList ++ '\n' :: Reference.fence))) := by
    simp [note_of_example h, fence, Reference.fence]
  have hfence : pieces Reference.fence = [Reference.fence] := pieces_of_not_mem (by decide)
  rw [hchars, pieces_append_pieces, pieces_append_newline List.not_mem_nil,
    pieces_append_newline hopening, pieces_append_pieces, hfence]

/-- The same note read as a document: the carriage returns at the ends of its lines are lost. -/
theorem lines_note {m : Match} {text : String} (h : m.example? = some text) (l : Language) :
    lines (note m l true).toList = (pieces (note m l false).toList).map dropReturn ++
      [] :: (opening l).toList :: ((pieces text.toList).map dropReturn ++ [Reference.fence]) := by
  have hopening : dropReturn (opening l).toList = (opening l).toList := by cases l <;> decide
  have hpieces : pieces (note m l true).toList = (pieces (note m l false).toList ++
      [] :: (opening l).toList :: pieces text.toList) ++ [Reference.fence] := by
    simp [pieces_note h]
  have hblank : dropReturn [] = [] := rfl
  rw [lines_of_pieces hpieces (by decide)]
  simp [hopening, hblank]

end Render

namespace Store

open Reference (isFence readBlock readBlock_fence readBlock_pieces)
open Render (note opening isFence_opening lines_note note_of_example pieces_note)

/-- What a store from a reference explains has the form of the reference's entries. -/
theorem wellFormed_of_find? {source : String} {s : Store} (h : ofReference source = .ok s)
    {token : String} {e : Entry} (he : s.find? token = some e) : Reference.WellFormed e := by
  obtain ⟨parsed, loaded, hparse, hload, rfl⟩ := ofReference_eq_ok_iff.1 h
  have hfind : (merge parsed).reverse.find? (·.token == token) = some e :=
    (find?_load hload token).symm.trans he
  exact Reference.wellFormed_of_mem_merge hparse e
    (List.mem_reverse.1 (List.mem_of_find?_eq_some hfind))

/-- The example that is found under a cursor is that of the entry for the token there. -/
theorem exists_find?_of_hover? {s : Store} {text : String} {offset : Nat} {m : Match}
    (h : s.hover? text offset = .ok (some m)) {ex : String} (hexample : m.example? = some ex) :
    ∃ e, s.find? m.text = some e ∧ e.example? = some ex := by
  obtain ⟨t, rfl⟩ := exists_ofToken_of_hover? h
  have hclassify : (s.classify t.text).example? = some ex := hexample
  cases hfind : s.find? t.text with
  | none =>
      rw [classify, hfind] at hclassify
      cases hclassify
  | some e =>
      rw [classify_of_find? hfind] at hclassify
      exact ⟨e, hfind, hclassify⟩

/-- For a token that a reference explains with an example, the note shows this example below what
it says without it: a blank line, a line that opens with a fence, the example, and a fence. However
the lines of the note are read, the first fence below the one that opens the example is the last
line, and what stands between them is the example. -/
theorem note_example {source : String} {s : Store} (h : ofReference source = .ok s)
    {text : String} {offset : Nat} {m : Match} (hhover : s.hover? text offset = .ok (some m))
    {ex : String} (hexample : m.example? = some ex) (l : Language) :
    (∃ e, s.find? m.text = some e ∧ e.example? = some ex) ∧
      note m l true =
        note m l false ++ "\n\n" ++ opening l ++ "\n" ++ ex ++ "\n" ++ Render.fence ∧
      isFence (opening l).toList = true ∧
      (∃ below, pieces (note m l true).toList =
          pieces (note m l false).toList ++ [] :: (opening l).toList :: below ∧
        readBlock below = (ex.toList, [Reference.fence])) ∧
      ∃ below, lines (note m l true).toList =
          (pieces (note m l false).toList).map dropReturn ++ [] :: (opening l).toList :: below ∧
        (readBlock below).2 = [Reference.fence] := by
  obtain ⟨e, hfind, hentry⟩ := exists_find?_of_hover? hhover hexample
  have hplain : ∀ line ∈ pieces ex.toList, isFence line = false :=
    (wellFormed_of_find? h hfind).unfenced ex hentry
  have hended : ∀ line ∈ (pieces ex.toList).map dropReturn, isFence line = false := by
    intro line hline
    obtain ⟨piece, hpiece, rfl⟩ := List.mem_map.1 hline
    rw [Bool.eq_false_iff]
    intro hfence
    have hkept : isFence piece = true := opensWith_of_dropReturn (by decide) hfence
    rw [hplain piece hpiece] at hkept
    cases hkept
  refine ⟨⟨e, hfind, hentry⟩, note_of_example hexample l, isFence_opening l,
    ⟨_, pieces_note hexample l, readBlock_pieces hplain⟩, _, lines_note hexample l, ?_⟩
  rw [readBlock_fence hended]

/-- An entry with a short example. -/
def plainIf : Entry := ⟨"if", .keyword, "Branch.", some "if x: y"⟩

/-- An entry with a longer one, in which backticks stand everywhere but at the start of a line. -/
def quotedIf : Entry :=
  ⟨"if", .keyword, "B.", some "  \x60if\x60 \x60\x60x\x60\x60:\n\n    y \x60\x60\x60"⟩

/-- A reference with both. -/
def ifSource : String :=
  "## Keywords\n### \x60if\x60\n**Description**: Branch.\n" ++
    "**Example**:\n\x60\x60\x60\nif x: y\n\x60\x60\x60\n" ++
    "### \x60if\x60\n**Description**: B.\n**Example**:\n\x60\x60\x60python\n" ++
    "  \x60if\x60 \x60\x60x\x60\x60:\n\n    y \x60\x60\x60\n\x60\x60\x60\n"

theorem note_example_quotedIf :
    ∃ s m, ofReference ifSource = .ok s ∧ s.hover? "if x" 1 = .ok (some m) ∧
      m.example? = quotedIf.example? ∧
      note m .python true = note m .python false ++ "\n\n" ++ opening .python ++ "\n" ++
        "  \x60if\x60 \x60\x60x\x60\x60:\n\n    y \x60\x60\x60" ++ "\n" ++ Render.fence := by
  have hparse : Reference.parse ifSource = .ok [plainIf, quotedIf] := by decide +kernel
  have hmerge : merge [plainIf, quotedIf] = [plainIf.absorb quotedIf] := by
    simp [merge, mergeEntry, FirstSeen.toList, FirstSeen.keys, FirstSeen.empty, FirstSeen.get?,
      FirstSeen.note, plainIf, quotedIf]
  obtain ⟨loaded, hloaded⟩ : ∃ s, load [plainIf.absorb quotedIf] = .ok s := ⟨_, rfl⟩
  have hs := ofReference_eq_ok_iff.2 ⟨_, loaded, hparse, by rw [hmerge]; exact hloaded, rfl⟩
  have hfind : loaded.find? "if" = some (plainIf.absorb quotedIf) := find?_load hloaded "if"
  have htoken : Token.at? "if x" 1 = .ok (some ⟨"if", 0, 2, 0, 2⟩) := by decide +kernel
  have hhover : ∀ shadowed, hover? ⟨loaded.entries, shadowed⟩ "if x" 1 =
      .ok (some ⟨"if", .keyword, "Branch.", quotedIf.example?, 0, 2⟩) := by
    intro shadowed
    have hclassify : classify ⟨loaded.entries, shadowed⟩ "if" =
        ⟨.keyword, "Branch.", quotedIf.example?⟩ := classify_of_find? hfind
    rw [hover?, htoken]
    show Except.ok (some (Match.ofToken _ _)) = _
    rw [Match.ofToken, hclassify]
  obtain ⟨-, hnote, -⟩ := note_example hs (hhover _) rfl .python
  exact ⟨_, _, hs, hhover _, rfl, hnote⟩

end Store

end Glossary
