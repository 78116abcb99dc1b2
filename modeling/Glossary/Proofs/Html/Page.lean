import Glossary.Proofs.Html.Tags
import Glossary.Text.Digit

/-!
# What the tags of a page depend on

A page is a row of pieces. Every text of a document stands escaped in the text of
a piece, and the name of the language stands escaped inside a tag, so none of them
ends a tag or begins one. Which tags a page has depends on the outline of the
document alone: its sections, their entries, and which of these have an example.

Nothing is lost either. The pieces are found again in the characters of a page,
and the document is read off the pieces from the outside in. Sections, and the
entries of a section, are rows of items that end at a tag which no item begins
with, so a row is cut into its items in one way only.

## Main results

* `toList_page` — a page is the row of its pieces.
* `tags_page` — the tags of a page, from the outline.
* `flatMap_eq_of_stop` — a row of items is cut in one way only.
* `page_confines` — what the tags depend on, and what a page tells.
-/

namespace Glossary

/-! ## Rows of items -/

/-- A row of items is cut into them in one way only, when the code of an item tells
what is in view of it and where it ends, and no item begins like the end of the row. -/
theorem Text.flatMap_eq_of_stop {α β γ : Type} {code code' : α → List β} {stop : β}
    (view : α → γ) (hcode : ∀ a b r r', code a ++ r = code' b ++ r' → view a = view b ∧ r = r')
    (hstop : ∀ a r r', code a ++ r ≠ stop :: r') (hstop' : ∀ a r r', code' a ++ r ≠ stop :: r')
    {l l' : List α} {r r' : List β}
    (h : l.flatMap code ++ stop :: r = l'.flatMap code' ++ stop :: r') :
    l.map view = l'.map view ∧ r = r' := by
  induction l generalizing l' with
  | nil =>
      cases l' with
      | nil => exact ⟨rfl, (List.cons.inj h).2⟩
      | cons b l' =>
          rw [List.flatMap_cons, List.append_assoc] at h
          exact absurd h.symm (hstop' b _ _)
  | cons a l ih =>
      cases l' with
      | nil =>
          rw [List.flatMap_cons, List.append_assoc] at h
          exact absurd h (hstop a _ _)
      | cons b l' =>
          rw [List.flatMap_cons, List.flatMap_cons, List.append_assoc, List.append_assoc] at h
          obtain ⟨hview, hrest⟩ := hcode a b _ _ h
          obtain ⟨hviews, hr⟩ := ih hrest
          exact ⟨by rw [List.map_cons, List.map_cons, hview, hviews], hr⟩

namespace Html

/-! ## A page as pieces -/

/-- The pieces of an entry up to its description. -/
def entryHead (token category description : String) : List Piece :=
  [⟨"div class=\"entry\"", "\n"⟩, ⟨"h3", ""⟩, ⟨"code", token⟩, ⟨"/code", " "⟩,
    ⟨"span class=\"category\"", category⟩, ⟨"/span", ""⟩, ⟨"/h3", "\n"⟩, ⟨"p", description⟩,
    ⟨"/p", "\n"⟩]

/-- The tag around an example in a language. -/
def exampleTag (language : String) : String := "code class=\"language-" ++ language ++ "\""

/-- The pieces of an example. -/
def examplePieces (language text : String) : List Piece :=
  [⟨"pre", ""⟩, ⟨exampleTag language, text⟩, ⟨"/code", ""⟩, ⟨"/pre", "\n"⟩]

/-- The pieces of an entry. -/
def entryPieces (fenceTag : String) (e : Entry) : List Piece :=
  entryHead (escape e.token) e.category.name (escape e.description) ++
    ((e.example?.map fun text => examplePieces (escape fenceTag) (escape text)).getD [] ++
      [⟨"/div", "\n"⟩])

/-- The pieces of a section up to its first entry. -/
def sectionHead (title count : String) : List Piece :=
  [⟨"section", "\n"⟩, ⟨"h2", title ++ " "⟩, ⟨"small", "(" ++ count ++ ")"⟩, ⟨"/small", ""⟩,
    ⟨"/h2", "\n"⟩]

/-- The pieces of a section. -/
def sectionPieces (fenceTag : String) (s : DocumentSection) : List Piece :=
  sectionHead (escape s.title) (toString s.entries.length) ++
    (s.entries.flatMap (entryPieces fenceTag) ++ [⟨"/section", "\n"⟩])

/-- The pieces of a page up to its first section. -/
def pageHead (title look : String) : List Piece :=
  [⟨"!DOCTYPE html", "\n"⟩, ⟨"html lang=\"en\"", "\n"⟩, ⟨"head", "\n"⟩,
    ⟨"meta charset=\"utf-8\"", "\n"⟩, ⟨"title", title⟩, ⟨"/title", "\n"⟩, ⟨"style", look⟩,
    ⟨"/style", "\n"⟩, ⟨"/head", "\n"⟩, ⟨"body", "\n"⟩, ⟨"h1", title⟩, ⟨"/h1", "\n"⟩]

/-- The pieces of a page. -/
def pagePieces (d : Document) (fenceTag : String) : List Piece :=
  pageHead (escape d.title) style ++
    (d.sections.flatMap (sectionPieces fenceTag) ++ [⟨"/body", "\n"⟩, ⟨"/html", "\n"⟩])

/-! ### The lines of a page are its pieces -/

/-- The characters of some lines, each with its end. -/
def lineChars (ls : List String) : List Char := ls.flatMap fun l => l.toList ++ ['\n']

theorem lineChars_append (ls ms : List String) :
    lineChars (ls ++ ms) = lineChars ls ++ lineChars ms := List.flatMap_append

theorem lineChars_flatMap {α : Type} (f : α → List String) (l : List α) :
    lineChars (l.flatMap f) = l.flatMap fun a => lineChars (f a) := List.flatMap_assoc

theorem lineChars_entryHead (token category description : String) :
    lineChars ["<div class=\"entry\">",
      "<h3><code>" ++ token ++ "</code> <span class=\"category\">" ++ category ++
        "</span></h3>",
      "<p>" ++ description ++ "</p>"] =
      (entryHead token category description).flatMap Piece.chars := by
  simp [lineChars, entryHead, Piece.chars]

theorem lineChars_example (language text : String) :
    lineChars ["<pre><code class=\"language-" ++ language ++ "\">" ++ text ++
      "</code></pre>"] = (examplePieces language text).flatMap Piece.chars := by
  unfold examplePieces exampleTag
  simp [lineChars, Piece.chars]

theorem lineChars_entryLines (fenceTag : String) (e : Entry) :
    lineChars (entryLines fenceTag e) = (entryPieces fenceTag e).flatMap Piece.chars := by
  have hend : lineChars ["</div>"] = [(⟨"/div", "\n"⟩ : Piece)].flatMap Piece.chars := by decide
  rw [entryLines, entryPieces, lineChars_append, lineChars_append, lineChars_entryHead, hend,
    List.append_assoc, List.flatMap_append, List.flatMap_append]
  cases e.example? with
  | none => rfl
  | some text =>
      have hexample := lineChars_example (escape fenceTag) (escape text)
      rw [Option.map_some, Option.toList_some, hexample]
      rfl

theorem lineChars_sectionHead (title count : String) :
    lineChars ["<section>", "<h2>" ++ title ++ " <small>(" ++ count ++ ")</small></h2>"] =
      (sectionHead title count).flatMap Piece.chars := by
  simp [lineChars, sectionHead, Piece.chars]

theorem lineChars_sectionLines (fenceTag : String) (s : DocumentSection) :
    lineChars (sectionLines fenceTag s) = (sectionPieces fenceTag s).flatMap Piece.chars := by
  have hend : lineChars ["</section>"] = [(⟨"/section", "\n"⟩ : Piece)].flatMap Piece.chars := by
    decide
  rw [sectionLines, sectionPieces, lineChars_append, lineChars_append, lineChars_sectionHead,
    lineChars_flatMap, hend, List.append_assoc, List.flatMap_append, List.flatMap_append,
    List.flatMap_assoc]
  simp only [lineChars_entryLines]

theorem lineChars_pageHead (title look : String) :
    lineChars ["<!DOCTYPE html>", "<html lang=\"en\">", "<head>", "<meta charset=\"utf-8\">",
      "<title>" ++ title ++ "</title>", "<style>" ++ look ++ "</style>", "</head>", "<body>",
      "<h1>" ++ title ++ "</h1>"] = (pageHead title look).flatMap Piece.chars := by
  simp [lineChars, pageHead, Piece.chars]

/-- A page is the row of its pieces. -/
theorem toList_page (d : Document) (fenceTag : String) :
    (page d fenceTag).toList = (pagePieces d fenceTag).flatMap Piece.chars := by
  have hlines : (page d fenceTag).toList = lineChars (pageLines d fenceTag) := by
    rw [page, String.toList_join, List.flatMap_map]
    simp [lineChars]
  have hend : lineChars ["</body>", "</html>"] =
      [⟨"/body", "\n"⟩, (⟨"/html", "\n"⟩ : Piece)].flatMap Piece.chars := by decide
  rw [hlines, pageLines, pagePieces, lineChars_append, lineChars_append, lineChars_pageHead,
    lineChars_flatMap, hend, List.append_assoc, List.flatMap_append, List.flatMap_append,
    List.flatMap_assoc]
  simp only [lineChars_sectionLines]

/-! ### The pieces are plain -/

theorem Piece.plain_iff {p : Piece} : p.Plain ↔ '>' ∉ p.tag.toList ∧ '<' ∉ p.text.toList :=
  ⟨fun h => ⟨h.tag_plain, h.text_plain⟩, fun h => ⟨h.1, h.2⟩⟩

theorem not_mem_toString (n : Nat) : '<' ∉ (toString n).toList := by
  intro hmem
  exact absurd (Text.isDigit_of_mem_toString hmem) (by decide)

theorem not_mem_name (c : Category) : '<' ∉ c.name.toList := by
  cases c <;> decide

theorem not_mem_append {s t : String} (hs : '<' ∉ s.toList) (ht : '<' ∉ t.toList) :
    '<' ∉ (s ++ t).toList := by
  rw [String.toList_append, List.mem_append, not_or]
  exact ⟨hs, ht⟩

/-- The style is no markup. -/
theorem not_mem_style : '<' ∉ style.toList := by
  unfold style
  -- part by part, because short texts are evaluated faster
  refine not_mem_append (not_mem_append (not_mem_append (not_mem_append ?_ ?_) ?_) ?_) ?_
  all_goals decide +kernel

theorem plain_of_mem_entryPieces {fenceTag : String} {e : Entry} :
    ∀ p ∈ entryPieces fenceTag e, p.Plain := by
  have htoken := (not_mem_escape e.token).1
  have hname := not_mem_name e.category
  have hdescription := (not_mem_escape e.description).1
  have hlanguage := (not_mem_escape fenceTag).2
  have hexample : ∀ text, ∀ p ∈ examplePieces (escape fenceTag) (escape text), p.Plain := by
    intro text
    have htext := (not_mem_escape text).1
    unfold examplePieces exampleTag
    simp [Piece.plain_iff, hlanguage, htext]
  intro p hp
  rw [entryPieces, List.mem_append, List.mem_append] at hp
  rcases hp with hp | hp | hp
  · revert p
    simp [entryHead, Piece.plain_iff, htoken, hname, hdescription]
  · cases he : e.example? with
    | none => simp [he] at hp
    | some text => exact hexample text p (by simpa [he] using hp)
  · revert p
    simp [Piece.plain_iff]

theorem plain_of_mem_sectionPieces {fenceTag : String} {s : DocumentSection} :
    ∀ p ∈ sectionPieces fenceTag s, p.Plain := by
  have htitle := (not_mem_escape s.title).1
  have hcount := not_mem_toString s.entries.length
  intro p hp
  rw [sectionPieces, List.mem_append, List.mem_append, List.mem_flatMap] at hp
  generalize toString s.entries.length = count at hp hcount
  rcases hp with hp | ⟨e, -, hp⟩ | hp
  · revert p
    simp [sectionHead, Piece.plain_iff, htitle, hcount]
  · exact plain_of_mem_entryPieces p hp
  · revert p
    simp [Piece.plain_iff]

theorem plain_of_mem_pagePieces {d : Document} {fenceTag : String} :
    ∀ p ∈ pagePieces d fenceTag, p.Plain := by
  have htitle := (not_mem_escape d.title).1
  have hstyle := not_mem_style
  intro p hp
  rw [pagePieces, List.mem_append, List.mem_append, List.mem_flatMap] at hp
  rcases hp with hp | ⟨s, -, hp⟩ | hp
  · revert p
    simp [pageHead, Piece.plain_iff, htitle, hstyle]
  · exact plain_of_mem_sectionPieces p hp
  · revert p
    simp [Piece.plain_iff]

/-! ## The tags of a page -/

/-- The outline of a document: its sections, their entries, and whether each has an
example. -/
def outline (d : Document) : List (List Bool) :=
  d.sections.map fun s => s.entries.map (·.example?.isSome)

/-- The tags of an entry. -/
def entryTags (fenceTag : String) (hasExample : Bool) : List String :=
  ["div class=\"entry\"", "h3", "code", "/code", "span class=\"category\"", "/span", "/h3", "p",
    "/p"] ++
  ((if hasExample then ["pre", exampleTag (escape fenceTag), "/code", "/pre"] else []) ++ ["/div"])

/-- The tags of a section. -/
def sectionTags (fenceTag : String) (entries : List Bool) : List String :=
  ["section", "h2", "small", "/small", "/h2"] ++
    (entries.flatMap (entryTags fenceTag) ++ ["/section"])

/-- The tags of a page. -/
def pageTags (fenceTag : String) (sections : List (List Bool)) : List String :=
  ["!DOCTYPE html", "html lang=\"en\"", "head", "meta charset=\"utf-8\"", "title", "/title",
    "style", "/style", "/head", "body", "h1", "/h1"] ++
  (sections.flatMap (sectionTags fenceTag) ++ ["/body", "/html"])

theorem map_tag_entryPieces (fenceTag : String) (e : Entry) :
    (entryPieces fenceTag e).map (·.tag) = entryTags fenceTag e.example?.isSome := by
  rw [entryPieces]
  cases e.example? with
  | none => rfl
  | some text => rfl

theorem map_tag_sectionPieces (fenceTag : String) (s : DocumentSection) :
    (sectionPieces fenceTag s).map (·.tag) =
      sectionTags fenceTag (s.entries.map (·.example?.isSome)) := by
  rw [sectionPieces, sectionTags, List.map_append, List.map_append, List.map_flatMap,
    List.flatMap_map]
  simp only [map_tag_entryPieces]
  rfl

/-- The tags of a page depend on the outline of the document and on the language. -/
theorem tags_page (d : Document) (fenceTag : String) :
    tags (page d fenceTag).toList =
      (pageTags fenceTag (outline d)).map fun tag => '<' :: (tag.toList ++ ['>']) := by
  have hpieces : (pagePieces d fenceTag).map (·.tag) = pageTags fenceTag (outline d) := by
    rw [pagePieces, pageTags, outline, List.map_append, List.map_append, List.map_flatMap,
      List.flatMap_map]
    simp only [map_tag_sectionPieces]
    rfl
  rw [toList_page, tags_flatMap_chars plain_of_mem_pagePieces, ← hpieces, List.map_map]
  rfl

/-! ## Reading a document off its page -/

section Reading

variable {fenceTag fenceTag' : String}

theorem name_injective {c c' : Category} (h : c.name = c'.name) : c = c' := by
  have hread := congrArg Category.withName? h
  rw [Category.withName?_name, Category.withName?_name] at hread
  exact Option.some.inj hread

theorem entryHead_append_inj {t c d t' c' d' : String} {r r' : List Piece}
    (h : entryHead t c d ++ r = entryHead t' c' d' ++ r') :
    t = t' ∧ c = c' ∧ d = d' ∧ r = r' := by
  simpa [entryHead, and_assoc] using h

theorem examplePieces_append_inj {l t l' t' : String} {r r' : List Piece}
    (h : examplePieces l t ++ r = examplePieces l' t' ++ r') : t = t' ∧ r = r' := by
  simp only [examplePieces, List.cons_append, List.nil_append, List.cons.injEq,
    Piece.mk.injEq, true_and] at h
  exact ⟨h.1.2, h.2⟩

/-- An entry is read off its pieces, whatever follows them. -/
theorem entryPieces_append_inj {e e' : Entry} {r r' : List Piece}
    (h : entryPieces fenceTag e ++ r = entryPieces fenceTag' e' ++ r') : e = e' ∧ r = r' := by
  simp only [entryPieces, List.append_assoc] at h
  obtain ⟨htoken, hname, hdescription, hrest⟩ := entryHead_append_inj h
  have hfields : e.token = e'.token ∧ e.category = e'.category ∧ e.description = e'.description :=
    ⟨escape_injective htoken, name_injective hname, escape_injective hdescription⟩
  have hexample : e.example? = e'.example? ∧ r = r' := by
    cases he : e.example? with
    | none =>
        cases he' : e'.example? with
        | none => simpa [he, he'] using hrest
        | some text => simp [he, he', examplePieces] at hrest
    | some text =>
        cases he' : e'.example? with
        | none => simp [he, he', examplePieces] at hrest
        | some text' =>
            rw [he, he', Option.map_some, Option.map_some, Option.getD_some, Option.getD_some]
              at hrest
            obtain ⟨htext, hr⟩ := examplePieces_append_inj hrest
            exact ⟨congrArg some (escape_injective htext), (List.cons.inj hr).2⟩
  refine ⟨?_, hexample.2⟩
  cases e
  cases e'
  rw [Entry.mk.injEq]
  exact ⟨hfields.1, hfields.2.1, hfields.2.2, hexample.1⟩

theorem entryPieces_append_ne (e : Entry) (r r' : List Piece) :
    entryPieces fenceTag e ++ r ≠ ⟨"/section", "\n"⟩ :: r' := by
  simp [entryPieces, entryHead]

theorem sectionHead_append_inj {t c t' c' : String} {r r' : List Piece}
    (h : sectionHead t c ++ r = sectionHead t' c' ++ r') : t = t' ∧ r = r' := by
  simp only [sectionHead, List.cons_append, List.nil_append, List.cons.injEq, Piece.mk.injEq,
    true_and] at h
  exact ⟨(String.append_left_inj " ").1 h.1, h.2.2⟩

/-- A section is read off its pieces, whatever follows them. -/
theorem sectionPieces_append_inj {s s' : DocumentSection} {r r' : List Piece}
    (h : sectionPieces fenceTag s ++ r = sectionPieces fenceTag' s' ++ r') :
    (s.title, s.entries) = (s'.title, s'.entries) ∧ r = r' := by
  simp only [sectionPieces, List.append_assoc, List.singleton_append] at h
  obtain ⟨htitle, hrest⟩ := sectionHead_append_inj h
  obtain ⟨hentries, hr⟩ := Text.flatMap_eq_of_stop id
    (fun _ _ _ _ => entryPieces_append_inj) entryPieces_append_ne entryPieces_append_ne hrest
  rw [List.map_id, List.map_id] at hentries
  exact ⟨Prod.ext (escape_injective htitle) hentries, hr⟩

theorem sectionPieces_append_ne (s : DocumentSection) (r r' : List Piece) :
    sectionPieces fenceTag s ++ r ≠ ⟨"/body", "\n"⟩ :: r' := by
  simp [sectionPieces, sectionHead]

theorem pageHead_append_inj {t l t' l' : String} {r r' : List Piece}
    (h : pageHead t l ++ r = pageHead t' l' ++ r') : t = t' ∧ r = r' := by
  simp only [pageHead, List.cons_append, List.nil_append, List.cons.injEq, Piece.mk.injEq,
    true_and] at h
  exact ⟨h.1, h.2.2.2⟩

/-- A document is read off the pieces of its page. -/
theorem pagePieces_inj {d d' : Document} (h : pagePieces d fenceTag = pagePieces d' fenceTag') :
    d.title = d'.title ∧
      d.sections.map (fun s => (s.title, s.entries)) =
        d'.sections.map fun s => (s.title, s.entries) := by
  rw [pagePieces, pagePieces] at h
  obtain ⟨htitle, hrest⟩ := pageHead_append_inj h
  obtain ⟨hsections, -⟩ := Text.flatMap_eq_of_stop (fun s => (s.title, s.entries))
    (fun _ _ _ _ => sectionPieces_append_inj) sectionPieces_append_ne sectionPieces_append_ne hrest
  exact ⟨escape_injective htitle, hsections⟩

end Reading

/-! ## No text of a document reaches the markup -/

/-- Documents with one outline have pages with the same tags, and documents with one
page say the same. -/
theorem page_confines :
    (∀ (d e : Document) (fenceTag : String), outline d = outline e →
      tags (page d fenceTag).toList = tags (page e fenceTag).toList) ∧
    (∀ (d e : Document) (fenceTag fenceTag' : String), page d fenceTag = page e fenceTag' →
      d.title = e.title ∧
        d.sections.map (fun s => (s.title, s.entries)) =
          e.sections.map fun s => (s.title, s.entries)) := by
  refine ⟨?_, ?_⟩
  · intro d e fenceTag houtline
    rw [tags_page, tags_page, houtline]
  · intro d e fenceTag fenceTag' hpage
    have hchars := congrArg String.toList hpage
    rw [toList_page, toList_page] at hchars
    exact pagePieces_inj
      (flatMap_chars_injective plain_of_mem_pagePieces plain_of_mem_pagePieces hchars)

/-- Closing tags and a script in every text leave the tags of the page as they were.
A page does not tell of which kind a section is, nor the language if there is no
example, but all that its texts say. -/
theorem page_confines_script :
    let plain : Document := ⟨"", [⟨.keywords, "", [⟨"if", .keyword, "", some ""⟩]⟩]⟩
    let hostile : Document :=
      ⟨"</title><script>", [⟨.keywords, "</h2>",
        [⟨"</code>", .builtinType, "&lt;/p></div>", some "</pre>\"'>"⟩]⟩]⟩
    let bare : Document := ⟨"<", [⟨.keywords, "&lt;", [⟨"if", .keyword, "", none⟩]⟩]⟩
    let other : Document := ⟨"<", [⟨.builtins, "&lt;", [⟨"if", .keyword, "", none⟩]⟩]⟩
    (outline hostile = outline plain ∧
      tags (page hostile "c").toList = tags (page plain "c").toList) ∧
    page bare "c" = page other "python" ∧
      bare.sections.map (fun s => (s.title, s.entries)) =
        other.sections.map fun s => (s.title, s.entries) := by
  intro plain hostile bare other
  have houtline : outline hostile = outline plain := rfl
  have hpage : page bare "c" = page other "python" := by decide +kernel
  exact ⟨⟨houtline, page_confines.1 hostile plain "c" houtline⟩, hpage,
    (page_confines.2 bare other "c" "python" hpage).2⟩

end Html

end Glossary
