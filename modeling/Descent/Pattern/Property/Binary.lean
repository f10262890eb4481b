import Descent.Regex.CharSet.Standard

/-! # Properties that a character has or has not

Most of them are put together from categories and case; traits are what is left over. -/
namespace Descent.Pattern

open CharSet

def titlecase : CharSet := category .titlecaseLetter

def graphemeExtend : CharSet :=
  union (categories [.nonspacingMark, .enclosingMark]) (trait .otherGraphemeExtend)

def graphemeBase : CharSet :=
  diff (categories Unicode.Category.assigned)
    (union (categories [.control, .format, .privateUse, .lineSeparator, .paragraphSeparator])
      graphemeExtend)

/-! ## Case -/

def cased : CharSet := union lowercase (union uppercase titlecase)

def caseIgnorable : CharSet :=
  union (categories [.nonspacingMark, .enclosingMark, .format, .modifierLetter, .modifierSymbol])
    (trait .otherCaseIgnorable)

def changesWhenLowercased : CharSet := diff (union uppercase titlecase) (trait .fixedUppercase)

def changesWhenUppercased : CharSet := diff (union lowercase titlecase) (trait .fixedLowercase)

/-- Of each letter written as two there is an uppercase form that titlecase changes; a Georgian
letter stays as it is. -/
def changesWhenTitlecased : CharSet :=
  diff
    (union changesWhenUppercased
      (ranges [('\u01C4', '\u01C4'), ('\u01C7', '\u01C7'), ('\u01CA', '\u01CA'),
        ('\u01F1', '\u01F1')]))
    (union titlecase (ranges [('\u10D0', '\u10FA'), ('\u10FD', '\u10FF')]))

/-- Uppercase Cherokee letters are what their lowercase forms fold to. -/
def changesWhenCasefolded : CharSet :=
  diff (union changesWhenLowercased (trait .foldedLowercase)) (range '\u13A0' '\u13F5')

def changesWhenCasemapped : CharSet :=
  union changesWhenLowercased (union changesWhenUppercased changesWhenTitlecased)

/-! ## Identifiers -/

def idStart : CharSet :=
  diff (union (categories (.letterNumber :: Unicode.Category.letters)) (trait .otherIdStart))
    (union (trait .patternSyntax) (trait .patternWhiteSpace))

def idContinue : CharSet :=
  union idStart
    (union (categories [.nonspacingMark, .spacingMark, .decimalNumber, .connector])
      (trait .otherIdContinue))

def identifierMath : CharSet := union (trait .identifierMark) (trait .identifierScript)

/-! ## Names -/

def binaryProperties : List (List String × CharSet) := [
  (["asciihexdigit", "ahex"], ranges [('0', '9'), ('A', 'F'), ('a', 'f')]),
  (["alphabetic", "alpha"], alphabetic),
  (["bidicontrol", "bidic"], trait .bidiControl),
  (["bidimirrored", "bidim"], trait .bidiMirrored),
  (["caseignorable", "ci"], caseIgnorable),
  (["cased"], cased),
  (["changeswhencasefolded", "cwcf"], changesWhenCasefolded),
  (["changeswhencasemapped", "cwcm"], changesWhenCasemapped),
  (["changeswhenlowercased", "cwl"], changesWhenLowercased),
  (["changeswhentitlecased", "cwt"], changesWhenTitlecased),
  (["changeswhenuppercased", "cwu"], changesWhenUppercased),
  (["dash"], trait .dash),
  (["defaultignorablecodepoint", "di"], trait .defaultIgnorable),
  (["deprecated", "dep"], trait .deprecated),
  (["diacritic", "dia"], trait .diacritic),
  (["emoji"], trait .emoji),
  (["emojicomponent", "ecomp"], trait .emojiComponent),
  (["emojimodifier", "emod"], trait .emojiModifier),
  (["emojimodifierbase", "ebase"], trait .emojiModifierBase),
  (["emojipresentation", "epres"], trait .emojiPresentation),
  (["extendedpictographic", "extpict"], trait .extendedPictographic),
  (["extender", "ext"], trait .extender),
  (["graphemebase", "grbase"], graphemeBase),
  (["graphemeextend", "grext"], graphemeExtend),
  (["graphemelink", "grlink"], trait .graphemeLink),
  (["hexdigit", "hex"], trait .hexDigit),
  (["hyphen"], trait .hyphen),
  (["idsbinaryoperator", "idsb"], trait .ideographBinary),
  (["idstrinaryoperator", "idst"], trait .ideographTernary),
  (["idsunaryoperator", "idsu"], trait .ideographUnary),
  (["idcompatmathcontinue"], identifierMath),
  (["idcompatmathstart"], trait .identifierMark),
  (["idcontinue", "idc"], idContinue),
  (["idstart", "ids"], idStart),
  (["ideographic", "ideo"], trait .ideographic),
  (["joincontrol", "joinc"], range '\u200C' '\u200D'),
  (["logicalorderexception", "loe"], trait .logicalOrderException),
  (["lowercase", "lower"], lowercase),
  (["math"], union (categories [.mathSymbol]) (trait .otherMath)),
  (["modifiercombiningmark", "mcm"], trait .modifierCombiningMark),
  (["noncharactercodepoint", "nchar"], trait .noncharacter),
  (["otheralphabetic", "oalpha"],
    diff alphabetic (categories (.letterNumber :: Unicode.Category.letters))),
  (["otherdefaultignorablecodepoint", "odi"], trait .otherDefaultIgnorable),
  (["othergraphemeextend", "ogrext"], trait .otherGraphemeExtend),
  (["otheridcontinue", "oidc"], trait .otherIdContinue),
  (["otheridstart", "oids"], trait .otherIdStart),
  (["otherlowercase", "olower"], diff lowercase (categories [.lowercaseLetter])),
  (["othermath", "omath"], trait .otherMath),
  (["otheruppercase", "oupper"], diff uppercase (categories [.uppercaseLetter])),
  (["patternsyntax", "patsyn"], trait .patternSyntax),
  (["patternwhitespace", "patws"], trait .patternWhiteSpace),
  (["prependedconcatenationmark", "pcm"], trait .prependedConcatenationMark),
  (["quotationmark", "qmark"], trait .quotationMark),
  (["radical"], trait .radical),
  (["regionalindicator", "ri"], trait .regionalIndicator),
  (["sentenceterminal", "sterm"], trait .sentenceTerminal),
  (["softdotted", "sd"], trait .softDotted),
  (["terminalpunctuation", "term"], trait .terminalPunctuation),
  (["unifiedideograph", "uideo"], trait .unifiedIdeograph),
  (["uppercase", "upper"], uppercase),
  (["variationselector", "vs"], trait .variationSelector),
  (["whitespace", "wspace", "space"], whiteSpace),
  (["xidcontinue", "xidc"], diff idContinue (trait .splitContinue)),
  (["xidstart", "xids"], diff idStart (trait .splitStart))]

def named? (sets : List (List String × CharSet)) (name : String) : Option CharSet :=
  (sets.find? fun p => p.1.contains name).map (·.2)

def binary? (name : String) : Option CharSet := named? binaryProperties name

/-- Properties that are not there to be asked for, or only with a value. -/
def otherPropertyNames : List String := [
  "age", "bc", "bidiclass", "bidimirroringglyph", "bidipairedbracket", "bidipairedbrackettype",
  "blk", "block", "bmg", "bpb", "bpt", "canonicalcombiningclass", "casefolding", "ccc", "ce", "cf",
  "changeswhennfkccasefolded", "cjkaccountingnumeric", "cjkcompatibilityvariant", "cjkiicore",
  "cjkirggsource", "cjkirghsource", "cjkirgjsource", "cjkirgkpsource", "cjkirgksource",
  "cjkirgmsource", "cjkirgssource", "cjkirgtsource", "cjkirguksource", "cjkirgusource",
  "cjkirgvsource", "cjkothernumeric", "cjkprimarynumeric", "cjkrsunicode", "compex",
  "compositionexclusion", "cwkcf", "decompositionmapping", "decompositiontype", "dm", "dt", "ea",
  "eastasianwidth", "equideo", "equivalentunifiedideograph", "expandsonnfc", "expandsonnfd",
  "expandsonnfkc", "expandsonnfkd", "fcnfkc", "fcnfkcclosure", "fullcompositionexclusion", "gc",
  "gcb", "generalcategory", "graphemeclusterbreak", "hangulsyllabletype", "hst", "incb",
  "indicconjunctbreak", "indicpositionalcategory", "indicsyllabiccategory", "inpc", "insc", "isc",
  "jamoshortname", "jg", "joininggroup", "joiningtype", "jsn", "jt", "kaccountingnumeric",
  "kcompatibilityvariant", "kehcat", "kehcore", "kehdesc", "kehfunc", "kehfval", "kehhg", "kehifao",
  "kehjsesh", "kehnomirror", "kehnorotate", "kehunik", "kiicore", "kirggsource", "kirghsource",
  "kirgjsource", "kirgkpsource", "kirgksource", "kirgmsource", "kirgssource", "kirgtsource",
  "kirguksource", "kirgusource", "kirgvsource", "kothernumeric", "kprimarynumeric", "krsunicode",
  "lb", "lc", "linebreak", "lowercasemapping", "na", "na1", "name", "namealias", "nfcqc",
  "nfcquickcheck", "nfdqc", "nfdquickcheck", "nfkccasefold", "nfkccf", "nfkcqc", "nfkcquickcheck",
  "nfkcscf", "nfkcsimplecasefold", "nfkdqc", "nfkdquickcheck", "nt", "numerictype", "numericvalue",
  "nv", "ocomment", "sb", "sc", "scf", "script", "scriptextensions", "scx", "sentencebreak", "sfc",
  "simplecasefolding", "simplelowercasemapping", "simpletitlecasemapping",
  "simpleuppercasemapping", "slc", "stc", "suc", "tc", "titlecasemapping", "uc", "unicode1name",
  "unicoderadicalstroke", "uppercasemapping", "urs", "verticalorientation", "vo", "wb", "wordbreak",
  "xonfc", "xonfd", "xonfkc", "xonfkd"]

def isPropertyName (name : String) : Bool :=
  (binary? name).isSome || otherPropertyNames.contains name

end Descent.Pattern
