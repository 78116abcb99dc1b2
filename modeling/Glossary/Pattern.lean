import Glossary.Pattern.Meaning
import Glossary.Pattern.Reading.Body
import Glossary.Pattern.Size

/-!
# Patterns

Regular expressions that ask whether a text has a part of some form. A pattern that is malformed,
or too large, is refused with a text that shows what is wrong.

## Main results

* `size_le_of_read` — a pattern that is accepted keeps the limit.
-/

namespace Glossary

/-- A pattern that has been accepted. -/
structure Pattern where
  form : Pattern.Form
  deriving DecidableEq, Repr

/-- Why a pattern is refused. -/
inductive PatternError where
  | flawed (pattern : String) (finding : Pattern.Finding)
  | tooLarge
  deriving DecidableEq, Repr

def PatternError.message : PatternError → String
  | .flawed pattern finding => finding.display pattern
  | .tooLarge => s!"Compiled regex exceeds size limit of {Pattern.sizeLimit} bytes."

namespace Pattern

/-- Reads a pattern. -/
def read (text : String) : Except PatternError Pattern :=
  match Expr.read text >>= Expr.form .initial with
  | .error finding => .error (.flawed text finding)
  | .ok (form, _) => if sizeLimit < form.size then .error .tooLarge else .ok ⟨form⟩

theorem size_le_of_read {text : String} {p : Pattern} (h : read text = .ok p) :
    p.form.size ≤ sizeLimit := by
  unfold read at h
  split at h
  · simp at h
  · split at h
    · simp at h
    · next hs =>
        obtain rfl := Except.ok.inj h
        exact Nat.le_of_not_lt hs

/-- Whether a text has a part that the pattern stands for. -/
def occursIn (p : Pattern) (text : String) : Bool := p.form.occursIn text.toList

end Pattern

end Glossary
