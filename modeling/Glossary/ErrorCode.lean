import Glossary.Analysis
import Glossary.Log.Code
import Glossary.Store

/-!
# Codes of errors

Which registered code each cause of failure carries. An error that wraps another carries the code
of the one inside.

## Main results

* `DictionaryError.isRegistered_code` — every cause has a registered code.
-/

namespace Glossary

def ScanError.code : ScanError → Code
  | .inputTooLarge _ => .inputTooLarge
  | .tooManyTokens _ => .tooManyTokens

def AnalysisError.code : AnalysisError → Code
  | .scan error => error.code

def EntryFlaw.code : EntryFlaw → Code
  | .emptyToken => .emptyToken
  | .whitespaceInToken _ => .whitespaceInToken
  | .reservedCategory _ => .reservedCategory
  | .missingDescription _ => .missingDescription
  | .descriptionTooLong _ _ => .descriptionTooLong

def ReferenceError.code : ReferenceError → Code
  | .unterminatedExample _ _ => .unterminatedExample

def DictionaryError.code : DictionaryError → Code
  | .flawed flaw => flaw.code
  | .tooManyEntries => .tooManyEntries
  | .invalidJson => .invalidJson
  | .reference error => error.code

theorem DictionaryError.isRegistered_code (e : DictionaryError) : e.code.isRegistered = true := by
  cases e with
  | flawed flaw => cases flaw <;> rfl
  | tooManyEntries => rfl
  | invalidJson => rfl
  | reference error => cases error; rfl

end Glossary
