/-!
# Limits

The fixed bounds of the program: how much it reads, how much it remembers and how long it waits.
-/

namespace Glossary.Limits

/-- Largest source file that is read, in bytes. -/
def maxFileSize : Nat := 10485760

/-- Largest text that is scanned, in bytes. -/
def maxInputSize : Nat := 10485760

/-- Most tokens that one full scan may give. -/
def maxTokenCount : Nat := 2000000

/-- Most entries that a dictionary may hold, counted before duplicates are merged. -/
def maxEntries : Nat := 10000

/-- Longest description of an entry, in bytes. -/
def maxDescriptionLength : Nat := 16384

/-- Milliseconds between the last edit and the analysis it schedules. -/
def debounceDelay : Nat := 500

/-- Milliseconds between two looks at a watched file. -/
def pollInterval : Nat := 100

/-- Longest message of a log event, in bytes. -/
def maxLogMessageLength : Nat := 4096

/-- Most context pairs of a log event. -/
def maxContextEntries : Nat := 32

/-- Says which profile the limits belong to. -/
def sourceInfo : String := "Generated from config/development.toml"

/-- A file that may be read is never too large to scan. -/
theorem maxFileSize_le_maxInputSize : maxFileSize ≤ maxInputSize := by decide

end Glossary.Limits
