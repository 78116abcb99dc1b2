import Glossary.Unicode.CharSet
import Glossary.Unicode.Property.Table

/-!
# Properties of characters

The sets of characters that have a property. Properties that the tables list are the sets of
what is listed; the others here are made from general categories and listed characters.

## Main results

* `contains_cased_of_uppercase` — capital characters have a case.
-/

namespace Glossary.Unicode.CharSet

open Property GeneralCategory

/-- The letters of all sorts. -/
def letters : CharSet :=
  .categories [uppercaseLetter, lowercaseLetter, titlecaseLetter, modifierLetter, otherLetter]

def lowercase : CharSet := .categories [lowercaseLetter] ||| .ranges otherLowercase

def uppercase : CharSet := .categories [uppercaseLetter] ||| .ranges otherUppercase

/-- Characters that have a case. -/
def cased : CharSet := uppercase ||| (lowercase ||| .categories [titlecaseLetter])

theorem contains_cased_of_uppercase {c : Char} (h : uppercase.contains c = true) :
    cased.contains c = true := by
  simp [cased, h]

/-- Characters that are passed over when the case around them is asked for. -/
def caseIgnorable : CharSet :=
  .categories [nonspacingMark, enclosingMark, format, modifierLetter, modifierSymbol] |||
    .ranges midWord

/-- Characters that alphabets are made of. -/
def alphabetic : CharSet :=
  letters ||| .categories [letterNumber] |||
    (.ranges otherLowercase ||| .ranges otherUppercase ||| .ranges otherAlphabetic)

/-- Characters that numbers are made of. -/
def numeric : CharSet := .categories [decimalNumber, letterNumber, otherNumber]

/-- Characters that words are made of. -/
def word : CharSet :=
  alphabetic ||| .categories [nonspacingMark, spacingMark, enclosingMark, decimalNumber,
    connectorPunctuation] ||| .ranges joinControl

/-- Characters that join the one before them. -/
def graphemeExtend : CharSet :=
  .categories [nonspacingMark, enclosingMark] ||| .ranges otherGraphemeExtend

/-- Characters that others can join. -/
def graphemeBase : CharSet :=
  .not (.categories [control, format, surrogate, privateUse, unassigned, lineSeparator,
    paragraphSeparator] ||| graphemeExtend)

/-- Characters of mathematics. -/
def math : CharSet := .categories [mathSymbol] ||| .ranges otherMath

/-- Characters that a name may begin with. -/
def idStart : CharSet :=
  (letters ||| .categories [letterNumber] ||| .ranges otherIdStart) \ .ofText "2e2f"

/-- Characters that a name may be made of. -/
def idContinue : CharSet :=
  idStart ||| ((.categories [nonspacingMark, spacingMark, decimalNumber, connectorPunctuation] |||
    .ranges otherIdContinue) \ .ofText "2e2f")

/-- Characters of names that may not begin or go on with them in a compatible form. -/
def incompatible : CharSet :=
  .ofText "37a 309b-309c fc5e-fc63 fdfa-fdfb fe70 fe72 fe74 fe76 fe78 fe7a fe7c fe7e"

/-- Characters that a name may begin with, in every form of the text. -/
def xidStart : CharSet := idStart \ (incompatible ||| .ofText "e33 eb3 ff9e-ff9f")

/-- Characters that a name may be made of, in every form of the text. -/
def xidContinue : CharSet := idContinue \ incompatible

/-! ### What changes with the case -/

/-- The characters with the given numbers. -/
def ofNumbers (ns : List Nat) : CharSet :=
  .ranges ⟨((ns.mergeSort).map fun n => (n, n)).toArray⟩

/-- The numbers of the capitals beyond ASCII, each with how far its small letter is. -/
def capitalNumbers : List (Nat × Int) :=
  capitalRuns.flatMap fun r =>
    (List.range ((r.last - r.first) / r.step + 1)).map fun i => (r.first + i * r.step, r.shift)

/-- Characters with a small letter. -/
def changesLowercased : CharSet :=
  .ofText "41-5a 130" ||| ofNumbers (capitalNumbers.map (·.1))

/-- Characters that are the small letter of another one. -/
def smallLetters : CharSet :=
  .ofText "61-7a" ||| ofNumbers (capitalNumbers.map fun n => (n.1 + n.2).toNat)

/-- Forms of small letters. -/
def variants : CharSet := ofNumbers (smallVariants.map (·.1))

/-- Small characters without a capital of one character. -/
def loneSmall : CharSet :=
  .ofText <| "131 149 1f0 390 3b0 587 1e96-1e9a 1f50 1f52 1f54 1f56 1fb2 1fb4 1fb6-1fb7 1fc2 " ++
    "1fc4 1fc6-1fc7 1fd2 1fd6-1fd7 1fe2 1fe4 1fe6-1fe7 1ff2 1ff4 1ff6-1ff7 fb00-fb04 fb06 " ++
    "fb13-fb17"

/-- Characters that are not the same in capitals. -/
def changesUppercased : CharSet :=
  smallLetters ||| variants ||| loneSmall |||
    .ofText "1c5 1c8 1cb 1f2 1f88-1f8f 1f98-1f9f 1fa8-1faf 1fbc 1fcc 1ffc"

/-- Characters that are not the same at the start of a title. -/
def changesTitlecased : CharSet :=
  (smallLetters ||| variants ||| loneSmall ||| .ofText "1c4 1c7 1ca 1f1") \
    .ofText "10d0-10fa 10fd-10ff"

/-- Characters that are not the same when case is left aside. -/
def changesFolded : CharSet :=
  (changesLowercased ||| variants |||
    .ofText ("df 149 587 13f8-13fd 1e9a 1f80-1f87 1f90-1f97 1fa0-1fa7 1fb2-1fb4 1fb7 " ++
      "1fc2-1fc4 1fc7 1ff2-1ff4 1ff7 ab70-abbf fb00-fb04 fb06 fb13-fb17")) \
    .ofText "13a0-13f5 1fbe 1fd3 1fe3"

/-- Characters that some change of case changes. -/
def changesCase : CharSet :=
  changesLowercased ||| (changesUppercased ||| (changesTitlecased ||| changesFolded))

end Glossary.Unicode.CharSet
