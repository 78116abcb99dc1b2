/-!
# Codes

Every error and every log event carries a code. The registry says what a code is about, how bad
it is, whether the program can go on, and describes it in a few words. Codes that are not
registered are allowed, and are of medium severity.

## Main results

* `Code.registry_nodup` — no code is registered twice.
-/

namespace Glossary

/-- The code of an error or a log event. -/
structure Code where
  text : String
  deriving DecidableEq, Repr

inductive Severity where
  | critical
  | high
  | medium
  | low
  deriving DecidableEq, Repr

def Severity.name : Severity → String
  | .critical => "Critical"
  | .high => "High"
  | .medium => "Medium"
  | .low => "Low"

/-- What is registered about a code. -/
structure CodeInfo where
  code : Code
  area : String
  severity : Severity
  halts : Bool
  description : String
  deriving DecidableEq, Repr

namespace Code

def internalError : Code := ⟨"ERR001"⟩
def initializationFailure : Code := ⟨"ERR002"⟩
def fileNotFound : Code := ⟨"E005"⟩
def unsupportedLanguage : Code := ⟨"E006"⟩
def fileTooLarge : Code := ⟨"E007"⟩
def invalidEncoding : Code := ⟨"E010"⟩
def ioError : Code := ⟨"E011"⟩
def positionOutOfRange : Code := ⟨"E012"⟩
def inputTooLarge : Code := ⟨"E020"⟩
def tooManyTokens : Code := ⟨"E027"⟩
def invalidPattern : Code := ⟨"E029"⟩
def emptyToken : Code := ⟨"E060"⟩
def whitespaceInToken : Code := ⟨"E061"⟩
def missingDescription : Code := ⟨"E062"⟩
def reservedCategory : Code := ⟨"E063"⟩
def tooManyEntries : Code := ⟨"E064"⟩
def descriptionTooLong : Code := ⟨"E065"⟩
def invalidJson : Code := ⟨"E066"⟩
def unterminatedExample : Code := ⟨"E070"⟩
def duplicateEntry : Code := ⟨"W060"⟩
def dictionaryLoaded : Code := ⟨"I010"⟩
def scanComplete : Code := ⟨"I020"⟩
def analysisComplete : Code := ⟨"I030"⟩
def generationComplete : Code := ⟨"I040"⟩

/-- Codes of events that are about nothing registered. -/
def plainWarning : Code := ⟨"W000"⟩
def plainInfo : Code := ⟨"I000"⟩
def plainDebug : Code := ⟨"D000"⟩

/-- All that is known about codes. -/
def registry : List CodeInfo := [
  ⟨internalError, "System", .critical, true, "Critical internal error"⟩,
  ⟨initializationFailure, "System", .critical, true, "Initialization failed"⟩,
  ⟨fileNotFound, "Source", .high, true, "Source file not found"⟩,
  ⟨unsupportedLanguage, "Source", .medium, true, "No dictionary for this file type"⟩,
  ⟨fileTooLarge, "Source", .high, true, "Source file exceeds size limit"⟩,
  ⟨invalidEncoding, "Source", .high, true, "Source file is not valid UTF-8"⟩,
  ⟨ioError, "Source", .high, true, "I/O error while reading source"⟩,
  ⟨positionOutOfRange, "Source", .medium, false, "Line and column fall outside the source"⟩,
  ⟨inputTooLarge, "Lexical", .high, true, "Input buffer exceeds size limit"⟩,
  ⟨tooManyTokens, "Lexical", .high, true, "Token count limit exceeded"⟩,
  ⟨invalidPattern, "Lexical", .critical, true, "Token pattern failed to compile"⟩,
  ⟨emptyToken, "Dictionary", .critical, true, "Dictionary entry has an empty token"⟩,
  ⟨whitespaceInToken, "Dictionary", .critical, true, "Dictionary token contains whitespace"⟩,
  ⟨missingDescription, "Dictionary", .critical, true, "Dictionary entry has no description"⟩,
  ⟨reservedCategory, "Dictionary", .critical, true,
    "Dictionary entry uses the reserved identifier category"⟩,
  ⟨tooManyEntries, "Dictionary", .critical, true, "Dictionary exceeds entry limit"⟩,
  ⟨descriptionTooLong, "Dictionary", .critical, true,
    "Dictionary description exceeds length limit"⟩,
  ⟨invalidJson, "Dictionary", .critical, true, "Dictionary JSON is malformed"⟩,
  ⟨unterminatedExample, "Dictionary", .critical, true, "Example code fence is never closed"⟩,
  ⟨duplicateEntry, "Dictionary", .low, false, "Later dictionary entry replaced an earlier one"⟩,
  ⟨dictionaryLoaded, "Dictionary", .low, false, "Dictionary loaded"⟩,
  ⟨scanComplete, "Lexical", .low, false, "Tokenization complete"⟩,
  ⟨analysisComplete, "Analysis", .low, false, "Analysis pass complete"⟩,
  ⟨generationComplete, "Generator", .low, false, "Dictionary files generated"⟩]

theorem registry_nodup : (registry.map (·.code)).Nodup := by decide +kernel

/-- What is registered about a code. -/
def info? (c : Code) : Option CodeInfo := registry.find? (·.code == c)

def isRegistered (c : Code) : Bool := c.info?.isSome

def severity (c : Code) : Severity := (c.info?.map (·.severity)).getD .medium

/-- Whether the program stops on an error with this code. -/
def halts (c : Code) : Bool := (c.info?.map (·.halts)).getD false

def description (c : Code) : String := (c.info?.map (·.description)).getD "Unknown error"

/-- The part of the program that the code belongs to. -/
def area (c : Code) : String := (c.info?.map (·.area)).getD "Unknown"

end Code

end Glossary
