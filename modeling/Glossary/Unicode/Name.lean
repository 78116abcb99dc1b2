import Glossary.Unicode.Property

/-!
# Names of sets of characters

The names by which sets of characters are asked for: properties, general categories, scripts, and
a few sets besides. Names are compared loosely: capitals are small letters, and spaces, hyphens
and underscores do not count, nor does the word "is" in front.

## Main results

* `ofName_of_lookup` — the name of a property comes before those of categories and scripts.
-/

namespace Glossary.Unicode

/-- A name as it is compared. -/
def loose (name : List Char) : String :=
  let isWord := (name.take 2).map Char.toLower == ['i', 's']
  let rest := (if isWord then name.drop 2 else name).filter fun c =>
    c.toNat < 128 && c != ' ' && c != '_' && c != '-'
  let rest := rest.map Char.toLower
  if isWord && rest == ['c'] then "isc" else String.ofList rest

/-- Why a set cannot be given. -/
inductive NameError where
  | unknownProperty
  | unknownValue
  deriving DecidableEq, Repr

namespace CharSet

open Property GeneralCategory

/-- Names of properties, each with its set. -/
def properties : List (String × CharSet) := [
  ("asciihexdigit", .ranges asciiHexDigit), ("ahex", .ranges asciiHexDigit),
  ("alphabetic", alphabetic), ("alpha", alphabetic),
  ("bidicontrol", .ranges bidiControl), ("bidic", .ranges bidiControl),
  ("bidimirrored", .ranges bidiMirrored), ("bidim", .ranges bidiMirrored),
  ("caseignorable", caseIgnorable), ("ci", caseIgnorable), ("cased", cased),
  ("changeswhencasefolded", changesFolded), ("cwcf", changesFolded),
  ("changeswhencasemapped", changesCase), ("cwcm", changesCase),
  ("changeswhenlowercased", changesLowercased), ("cwl", changesLowercased),
  ("changeswhentitlecased", changesTitlecased), ("cwt", changesTitlecased),
  ("changeswhenuppercased", changesUppercased), ("cwu", changesUppercased),
  ("dash", .ranges dash),
  ("defaultignorablecodepoint", .ranges defaultIgnorable), ("di", .ranges defaultIgnorable),
  ("deprecated", .ranges deprecated), ("dep", .ranges deprecated),
  ("diacritic", .ranges diacritic), ("dia", .ranges diacritic),
  ("emoji", .ranges emoji), ("emojicomponent", .ranges emojiComponent),
  ("ecomp", .ranges emojiComponent), ("emojimodifier", .ranges emojiModifier),
  ("emod", .ranges emojiModifier), ("emojimodifierbase", .ranges emojiModifierBase),
  ("ebase", .ranges emojiModifierBase), ("emojipresentation", .ranges emojiPresentation),
  ("epres", .ranges emojiPresentation), ("extendedpictographic", .ranges extendedPictographic),
  ("extpict", .ranges extendedPictographic), ("extender", .ranges extender),
  ("ext", .ranges extender), ("graphemebase", graphemeBase), ("grbase", graphemeBase),
  ("graphemeextend", graphemeExtend), ("grext", graphemeExtend),
  ("graphemelink", .ranges graphemeLink), ("grlink", .ranges graphemeLink),
  ("hexdigit", .ranges hexDigit), ("hex", .ranges hexDigit), ("hyphen", .ranges hyphen),
  ("idsbinaryoperator", .ranges idsBinaryOperator), ("idsb", .ranges idsBinaryOperator),
  ("idstrinaryoperator", .ranges idsTrinaryOperator), ("idst", .ranges idsTrinaryOperator),
  ("idsunaryoperator", .ranges idsUnaryOperator), ("idsu", .ranges idsUnaryOperator),
  ("idcompatmathcontinue", .ranges idCompatMathContinue),
  ("idcompatmathstart", .ranges idCompatMathStart),
  ("idcontinue", idContinue), ("idc", idContinue), ("idstart", idStart), ("ids", idStart),
  ("ideographic", .ranges ideographic), ("ideo", .ranges ideographic),
  ("joincontrol", .ranges joinControl), ("joinc", .ranges joinControl),
  ("logicalorderexception", .ranges logicalOrderException),
  ("loe", .ranges logicalOrderException), ("lowercase", lowercase), ("lower", lowercase),
  ("math", math), ("modifiercombiningmark", .ranges modifierCombiningMark),
  ("mcm", .ranges modifierCombiningMark),
  ("noncharactercodepoint", .ranges noncharacter), ("nchar", .ranges noncharacter),
  ("otheralphabetic", .ranges otherAlphabetic), ("oalpha", .ranges otherAlphabetic),
  ("otherdefaultignorablecodepoint", .ranges otherDefaultIgnorable),
  ("odi", .ranges otherDefaultIgnorable), ("othergraphemeextend", .ranges otherGraphemeExtend),
  ("ogrext", .ranges otherGraphemeExtend), ("otheridcontinue", .ranges otherIdContinue),
  ("oidc", .ranges otherIdContinue), ("otheridstart", .ranges otherIdStart),
  ("oids", .ranges otherIdStart), ("otherlowercase", .ranges otherLowercase),
  ("olower", .ranges otherLowercase), ("othermath", .ranges otherMath),
  ("omath", .ranges otherMath), ("otheruppercase", .ranges otherUppercase),
  ("oupper", .ranges otherUppercase), ("patternsyntax", .ranges patternSyntax),
  ("patsyn", .ranges patternSyntax), ("patternwhitespace", .ranges patternWhiteSpace),
  ("patws", .ranges patternWhiteSpace),
  ("prependedconcatenationmark", .ranges prependedMark), ("pcm", .ranges prependedMark),
  ("quotationmark", .ranges quotationMark), ("qmark", .ranges quotationMark),
  ("radical", .ranges radical), ("regionalindicator", .ranges regionalIndicator),
  ("ri", .ranges regionalIndicator), ("sentenceterminal", .ranges sentenceTerminal),
  ("sterm", .ranges sentenceTerminal), ("softdotted", .ranges softDotted),
  ("sd", .ranges softDotted), ("terminalpunctuation", .ranges terminalPunctuation),
  ("term", .ranges terminalPunctuation), ("unifiedideograph", .ranges unifiedIdeograph),
  ("uideo", .ranges unifiedIdeograph), ("uppercase", uppercase), ("upper", uppercase),
  ("variationselector", .ranges variationSelector), ("vs", .ranges variationSelector),
  ("whitespace", .ranges whiteSpace), ("wspace", .ranges whiteSpace),
  ("space", .ranges whiteSpace), ("xidcontinue", xidContinue), ("xidc", xidContinue),
  ("xidstart", xidStart), ("xids", xidStart)]

/-- Names of properties that are not sets and whose values are not told apart here. -/
def valuedNames : List String := [
  "age", "bc", "bidiclass", "bidimirroringglyph", "bidipairedbracket", "bidipairedbrackettype",
  "blk", "block", "bmg", "bpb", "bpt", "canonicalcombiningclass", "casefolding", "ccc", "ce",
  "cf", "changeswhennfkccasefolded", "compex", "compositionexclusion", "cwkcf",
  "decompositionmapping", "decompositiontype", "dm", "dt", "ea", "eastasianwidth",
  "equivalentunifiedideograph", "equideo", "fullcompositionexclusion", "gcb",
  "graphemeclusterbreak", "hangulsyllabletype", "hst", "incb", "indicconjunctbreak",
  "indicpositionalcategory", "indicsyllabiccategory", "inpc", "insc", "isc", "isocomment",
  "jamoshortname", "jg", "joininggroup", "joiningtype", "jsn", "jt", "lb", "lc", "linebreak",
  "lowercasemapping", "na", "na1", "name", "namealias", "nfcqc", "nfcquickcheck", "nfdqc",
  "nfdquickcheck", "nfkccasefold", "nfkccf", "nfkcqc", "nfkcquickcheck", "nfkcscf",
  "nfkcsimplecasefold", "nfkdqc", "nfkdquickcheck", "nt", "numerictype", "numericvalue", "nv",
  "sb", "scf", "sentencebreak", "sfc", "simplecasefolding", "simplelowercasemapping",
  "simpletitlecasemapping", "simpleuppercasemapping", "slc", "stc", "suc", "tc",
  "titlecasemapping", "uc", "unicode1name", "uppercasemapping", "verticalorientation", "vo", "wb",
  "wordbreak"]

/-- Names of categories and of groups of them. -/
def categoryNames : List (List String × List GeneralCategory) := [
  (["l", "letter"], [uppercaseLetter, lowercaseLetter, titlecaseLetter, modifierLetter,
    otherLetter]),
  (["lc", "casedletter"], [uppercaseLetter, lowercaseLetter, titlecaseLetter]),
  (["lu", "uppercaseletter"], [uppercaseLetter]), (["ll", "lowercaseletter"], [lowercaseLetter]),
  (["lt", "titlecaseletter"], [titlecaseLetter]), (["lm", "modifierletter"], [modifierLetter]),
  (["lo", "otherletter"], [otherLetter]),
  (["m", "mark", "combiningmark"], [nonspacingMark, spacingMark, enclosingMark]),
  (["mn", "nonspacingmark"], [nonspacingMark]), (["mc", "spacingmark"], [spacingMark]),
  (["me", "enclosingmark"], [enclosingMark]),
  (["n", "number"], [decimalNumber, letterNumber, otherNumber]),
  (["nd", "decimalnumber", "digit"], [decimalNumber]), (["nl", "letternumber"], [letterNumber]),
  (["no", "othernumber"], [otherNumber]),
  (["p", "punctuation", "punct"], [connectorPunctuation, dashPunctuation, openPunctuation,
    closePunctuation, initialPunctuation, finalPunctuation, otherPunctuation]),
  (["pc", "connectorpunctuation"], [connectorPunctuation]),
  (["pd", "dashpunctuation"], [dashPunctuation]), (["ps", "openpunctuation"], [openPunctuation]),
  (["pe", "closepunctuation"], [closePunctuation]),
  (["pi", "initialpunctuation"], [initialPunctuation]),
  (["pf", "finalpunctuation"], [finalPunctuation]),
  (["po", "otherpunctuation"], [otherPunctuation]),
  (["s", "symbol"], [mathSymbol, currencySymbol, modifierSymbol, otherSymbol]),
  (["sm", "mathsymbol"], [mathSymbol]), (["sc", "currencysymbol"], [currencySymbol]),
  (["sk", "modifiersymbol"], [modifierSymbol]), (["so", "othersymbol"], [otherSymbol]),
  (["z", "separator"], [spaceSeparator, lineSeparator, paragraphSeparator]),
  (["zs", "spaceseparator"], [spaceSeparator]), (["zl", "lineseparator"], [lineSeparator]),
  (["zp", "paragraphseparator"], [paragraphSeparator]),
  (["c", "other"], [control, format, surrogate, privateUse, unassigned]),
  (["cc", "control", "cntrl"], [control]), (["cf", "format"], [format]),
  (["co", "privateuse"], [privateUse]), (["cn", "unassigned"], [unassigned])]

/-- The code of the script with a name. A script may be asked for by its code, and two scripts by
codes of old. -/
def scriptNamed? (name : String) : Option String :=
  if name = "qaac" then some "Copt"
  else if name = "qaai" then some "Zinh"
  else
    (scriptNames.find? fun s => name == s.1.toLower || name == loose s.2.toList).map (·.1)

/-- The set of a general category, or of one of the three sets that are asked for like one. That
of the halves of pairs is no set of characters. -/
def ofCategory? (name : String) : Option (Except NameError CharSet) :=
  if name = "any" then some (.ok all)
  else if name = "ascii" then some (.ok (.ofText "0-7f"))
  else if name = "assigned" then some (.ok (.not (.categories [unassigned])))
  else if name = "cs" ∨ name = "surrogate" then some (.error .unknownValue)
  else (categoryNames.find? (·.1.contains name)).map fun g => .ok (.categories g.2)

/-- The set of the characters of a script, made from its code by `make`. There is none for
characters of no known script. -/
def ofScript? (make : String → CharSet) (name : String) : Option (Except NameError CharSet) :=
  if name = "zzzz" ∨ name = "unknown" ∨ name = "hrkt" ∨ name = "katakanaorhiragana" then
    some (.error .unknownValue)
  else (scriptNamed? name).map (.ok ∘ make)

/-- The set with a name, which is that of a property, a general category or a script. -/
def ofName (name : List Char) : Except NameError CharSet :=
  let name := loose name
  match properties.lookup name with
  | some s => .ok s
  | none => (ofCategory? name <|> ofScript? .script name).getD (.error .unknownProperty)

theorem ofName_of_lookup {name : List Char} {s : CharSet}
    (h : properties.lookup (loose name) = some s) : ofName name = .ok s := by
  simp [ofName, h]

/-- The set of the characters for which a property has a value. -/
def ofValue (property value : List Char) : Except NameError CharSet :=
  let property := loose property
  let value := loose value
  if property = "gc" ∨ property = "generalcategory" then
    (ofCategory? value).getD (.error .unknownValue)
  else if property = "sc" ∨ property = "script" then
    (ofScript? .script value).getD (.error .unknownValue)
  else if property = "scx" ∨ property = "scriptextensions" then
    (ofScript? .scriptUse value).getD (.error .unknownValue)
  else if (properties.lookup property).isSome ∨ property ∈ valuedNames then
    .error .unknownValue
  else .error .unknownProperty

end CharSet

end Glossary.Unicode
