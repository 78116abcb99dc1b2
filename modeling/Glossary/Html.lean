import Glossary.Document

/-!
# Reference pages

A document as a page of HTML that stands by itself. Every text from the document is escaped, so
the tags of a page come from here alone.

## Main results

* `noMarkup_escapeChars` — an escaped text holds none of the characters that end or begin markup.
-/

namespace Glossary.Html

/-- One character of a text in a page. -/
def escapeChar (c : Char) : List Char :=
  match c with
  | '&' => "&amp;".toList
  | '<' => "&lt;".toList
  | '>' => "&gt;".toList
  | '"' => "&quot;".toList
  | '\'' => "&#39;".toList
  | c => [c]

/-- A text as it stands in a page. -/
def escapeChars (s : List Char) : List Char := s.flatMap escapeChar

/-- A text as it stands in a page. -/
def escape (s : String) : String := String.ofList (escapeChars s.toList)

/-- Characters that begin or end a tag or the value of an attribute. -/
def isMarkup (c : Char) : Bool := c == '<' || c == '>' || c == '"' || c == '\''

theorem noMarkup_escapeChar {c d : Char} (h : d ∈ escapeChar c) : isMarkup d = false := by
  unfold escapeChar at h
  split at h
  case h_6 hamp hlt hgt hquot happ =>
      simp only [List.mem_singleton] at h
      subst h
      simp only [isMarkup, Bool.or_eq_false_iff, beq_eq_false_iff_ne]
      exact ⟨⟨⟨hlt, hgt⟩, hquot⟩, happ⟩
  all_goals
    exact List.all_eq_true.1 (show List.all _ (fun e => isMarkup e == false) = true by decide) d h
      |> beq_iff_eq.1

theorem noMarkup_escapeChars {s : List Char} {d : Char} (h : d ∈ escapeChars s) :
    isMarkup d = false := by
  obtain ⟨c, -, h⟩ := List.mem_flatMap.1 h
  exact noMarkup_escapeChar h

/-- The style of a page. -/
def style : String :=
  "body\x7bfont-family:sans-serif;max-width:60em;margin:auto;padding:1em\x7d" ++
  "h2\x7bborder-bottom:1px solid #ccc\x7d" ++
  ".entry\x7bmargin:1em 0\x7d" ++
  ".category\x7bcolor:#666;font-size:0.9em\x7d" ++
  "pre\x7bbackground:#f5f5f5;padding:0.5em;overflow-x:auto\x7d"

/-- The lines of an entry. -/
def entryLines (fenceTag : String) (e : Entry) : List String :=
  ["<div class=\"entry\">",
    "<h3><code>" ++ escape e.token ++ "</code> <span class=\"category\">" ++ e.category.name ++
      "</span></h3>",
    "<p>" ++ escape e.description ++ "</p>"] ++
  (e.example?.map fun text =>
    "<pre><code class=\"language-" ++ escape fenceTag ++ "\">" ++ escape text ++
      "</code></pre>").toList ++
  ["</div>"]

/-- The lines of a section. -/
def sectionLines (fenceTag : String) (s : DocumentSection) : List String :=
  ["<section>",
    "<h2>" ++ escape s.title ++ " <small>(" ++ toString s.entries.length ++ ")</small></h2>"] ++
  s.entries.flatMap (entryLines fenceTag) ++
  ["</section>"]

/-- The lines of a page. -/
def pageLines (d : Document) (fenceTag : String) : List String :=
  let title := escape d.title
  ["<!DOCTYPE html>", "<html lang=\"en\">", "<head>", "<meta charset=\"utf-8\">",
    "<title>" ++ title ++ "</title>", "<style>" ++ style ++ "</style>", "</head>", "<body>",
    "<h1>" ++ title ++ "</h1>"] ++
  d.sections.flatMap (sectionLines fenceTag) ++
  ["</body>", "</html>"]

/-- The page that shows a document. Examples are marked with the tag of their language. -/
def page (d : Document) (fenceTag : String) : String :=
  String.join ((pageLines d fenceTag).map (· ++ "\n"))

end Glossary.Html
