import Descent.Pattern.Property.Binary

/-! # Where a text may be divided

The standard sorts characters into classes that tell where a text may be divided into characters as
a reader sees them, into words and into sentences. Most classes follow from other properties, and
what is left over is listed. -/
namespace Descent.Pattern

open CharSet

/-- Format characters that stand in front of the number or the word that they belong to. -/
def leadingFormat : CharSet := trait .prependedConcatenationMark

def joiner : CharSet := single '\u200D'

/-! ## Characters as a reader sees them -/

/-- Among what is not assigned yet, some is sure to be invisible. -/
def graphemeControl : CharSet :=
  diff
    (union (categories [.lineSeparator, .paragraphSeparator, .control, .format])
      (diff (trait .defaultIgnorable) (categories Unicode.Category.assigned)))
    (union (ranges [('\n', '\n'), ('\r', '\r')])
      (union joiner (union leadingFormat graphemeExtend)))

def graphemePrepend : CharSet :=
  union leadingFormat (ofRanges [
    (0xD4E, 0xD4E), (0x111C2, 0x111C3), (0x113D1, 0x113D1), (0x1193F, 0x1193F), (0x11941, 0x11941),
    (0x11A3A, 0x11A3A), (0x11A84, 0x11A89), (0x11D46, 0x11D46), (0x11F02, 0x11F02)])

/-- Spacing marks that stand by themselves are left out. -/
def graphemeSpacing : CharSet :=
  diff (union (category .spacingMark) (ofRanges [(0xE33, 0xE33), (0xEB3, 0xEB3)]))
    (union graphemeExtend (ofRanges [
      (0x102B, 0x102C), (0x1038, 0x1038), (0x1062, 0x1064), (0x1067, 0x106D), (0x1083, 0x1083),
      (0x1087, 0x108C), (0x108F, 0x108F), (0x109A, 0x109C), (0x1A61, 0x1A61), (0x1A63, 0x1A64),
      (0xAA7B, 0xAA7B), (0xAA7D, 0xAA7D), (0x11720, 0x11721)]))

def hangulSyllable : CharSet := range '\uAC00' '\uD7A3'

/-- Syllables that end in their vowel come before all that have the same beginning. -/
def openSyllable : CharSet := ofRanges (Unicode.Strides.toRanges [(0xAC00, 0xD788, 28)])

def graphemeBreaks : List (List String × CharSet) := [
  (["cn", "control"], graphemeControl),
  (["cr"], single '\r'),
  (["ex", "extend"], union graphemeExtend (trait .emojiModifier)),
  (["l"], ofRanges [(0x1100, 0x115F), (0xA960, 0xA97C)]),
  (["lf"], single '\n'),
  (["lv"], openSyllable),
  (["lvt"], diff hangulSyllable openSyllable),
  (["pp", "prepend"], graphemePrepend),
  (["regionalindicator", "ri"], trait .regionalIndicator),
  (["sm", "spacingmark"], graphemeSpacing),
  (["t"], ofRanges [(0x11A8, 0x11FF), (0xD7CB, 0xD7FB)]),
  (["v"], ofRanges [(0x1160, 0x11A7), (0xD7B0, 0xD7C6), (0x16D63, 0x16D63), (0x16D67, 0x16D6A)]),
  (["zwj"], joiner)]

/-! ## Words -/

def wordExtend : CharSet :=
  union (category .spacingMark) (union graphemeExtend (trait .emojiModifier))

def wordFormat : CharSet :=
  diff (category .format) (union (range '\u200B' '\u200D') (union leadingFormat graphemeExtend))

def wordKatakana : CharSet :=
  union (script .katakana) (ofRanges [
    (0x3031, 0x3035), (0x309B, 0x309C), (0x30A0, 0x30A0), (0x30FC, 0x30FC), (0xFF70, 0xFF70)])

def hebrewLetter : CharSet := inter (script .hebrew) (category .otherLetter)

/-- What belongs to scripts whose words cannot be told apart without a dictionary. -/
def unspaced : CharSet :=
  [Unicode.Script.ahom, .khmer, .lao, .myanmar, .newTaiLue, .taiLe, .taiTham, .taiViet, .thai].foldr
    (fun s t => union (script s) t) none

def wordLetter : CharSet :=
  diff
    (union alphabetic (ofRanges [
      (0x2C2, 0x2C5), (0x2D2, 0x2D7), (0x2DE, 0x2DF), (0x2E5, 0x2EB), (0x2ED, 0x2ED),
      (0x2EF, 0x2FF), (0x55A, 0x55C), (0x55E, 0x55E), (0x58A, 0x58A), (0x5F3, 0x5F3),
      (0x70F, 0x70F), (0xA708, 0xA716), (0xA720, 0xA721), (0xA789, 0xA78A), (0xAB5B, 0xAB5B)]))
    (union (trait .ideographic) (union wordKatakana (union (script .hiragana)
      (union wordExtend (union hebrewLetter unspaced)))))

/-- Digits and what stands in front of numbers, with the decimal separator of Arabic. -/
def wordNumeric : CharSet :=
  union (category .decimalNumber) (union (single '\u066B') (diff leadingFormat (single '\u070F')))

def wordBreaks : List (List String × CharSet) := [
  (["aletter", "le"], wordLetter),
  (["cr"], single '\r'),
  (["doublequote", "dq"], single '"'),
  (["ex", "extendnumlet"], union (category .connector) (single '\u202F')),
  (["extend"], wordExtend),
  (["fo", "format"], wordFormat),
  (["hebrewletter", "hl"], hebrewLetter),
  (["ka", "katakana"], wordKatakana),
  (["lf"], single '\n'),
  (["mb", "midnumlet"], ofRanges [
    (0x2E, 0x2E), (0x2018, 0x2019), (0x2024, 0x2024), (0xFE52, 0xFE52), (0xFF07, 0xFF07),
    (0xFF0E, 0xFF0E)]),
  (["midletter", "ml"], ofRanges [
    (0x3A, 0x3A), (0xB7, 0xB7), (0x387, 0x387), (0x55F, 0x55F), (0x5F4, 0x5F4), (0x2027, 0x2027),
    (0xFE13, 0xFE13), (0xFE55, 0xFE55), (0xFF1A, 0xFF1A)]),
  (["midnum", "mn"], ofRanges [
    (0x2C, 0x2C), (0x3B, 0x3B), (0x37E, 0x37E), (0x589, 0x589), (0x60C, 0x60D), (0x66C, 0x66C),
    (0x7F8, 0x7F8), (0x2044, 0x2044), (0xFE10, 0xFE10), (0xFE14, 0xFE14), (0xFE50, 0xFE50),
    (0xFE54, 0xFE54), (0xFF0C, 0xFF0C), (0xFF1B, 0xFF1B)]),
  (["newline", "nl"], ofRanges [(0xB, 0xC), (0x85, 0x85), (0x2028, 0x2029)]),
  (["nu", "numeric"], wordNumeric),
  (["regionalindicator", "ri"], trait .regionalIndicator),
  (["singlequote", "sq"], single '\''),
  (["wsegspace"],
    diff (category .spaceSeparator) (ofRanges [(0xA0, 0xA0), (0x2007, 0x2007), (0x202F, 0x202F)])),
  (["zwj"], joiner)]

/-! ## Sentences -/

def sentenceSeparator : CharSet := ofRanges [(0x85, 0x85), (0x2028, 0x2029)]

def sentenceExtend : CharSet := union (category .spacingMark) (union graphemeExtend joiner)

def sentenceNumeric : CharSet := union wordNumeric (single '\u066C')

def sentenceFormat : CharSet :=
  diff (category .format) (union joiner (union graphemeExtend sentenceNumeric))

/-- Georgian letters have two cases, but no sentence begins with a capital one. -/
def sentenceLower : CharSet :=
  diff lowercase (union graphemeExtend (ofRanges [(0x10D0, 0x10FA), (0x10FD, 0x10FF)]))

def sentenceUpper : CharSet :=
  diff (union titlecase uppercase) (ofRanges [(0x1C90, 0x1CBA), (0x1CBD, 0x1CBF)])

def sentenceLetter : CharSet :=
  diff (union alphabetic (single '\u05F3'))
    (union sentenceLower (union sentenceUpper sentenceExtend))

def ambiguousStop : CharSet :=
  ofRanges [(0x2E, 0x2E), (0x2024, 0x2024), (0xFE52, 0xFE52), (0xFF0E, 0xFF0E)]

/-- Brackets and quotation marks. -/
def sentenceClose : CharSet :=
  union (categories [.opening, .closing, .initialQuote, .finalQuote]) (ofRanges [
    (0x22, 0x22), (0x27, 0x27), (0x275B, 0x2760), (0x2E00, 0x2E01), (0x2E06, 0x2E08),
    (0x2E0B, 0x2E0B), (0x1F676, 0x1F678)])

def sentenceBreaks : List (List String × CharSet) := [
  (["at", "aterm"], ambiguousStop),
  (["cl", "close"], sentenceClose),
  (["cr"], single '\r'),
  (["ex", "extend"], sentenceExtend),
  (["fo", "format"], sentenceFormat),
  (["le", "oletter"], sentenceLetter),
  (["lf"], single '\n'),
  (["lo", "lower"], sentenceLower),
  (["nu", "numeric"], sentenceNumeric),
  (["sc", "scontinue"], ofRanges [
    (0x2C, 0x2D), (0x3A, 0x3B), (0x37E, 0x37E), (0x55D, 0x55D), (0x60C, 0x60D), (0x7F8, 0x7F8),
    (0x1802, 0x1802), (0x1808, 0x1808), (0x2013, 0x2014), (0x3001, 0x3001), (0xFE10, 0xFE11),
    (0xFE13, 0xFE14), (0xFE31, 0xFE32), (0xFE50, 0xFE51), (0xFE54, 0xFE55), (0xFE58, 0xFE58),
    (0xFE63, 0xFE63), (0xFF0C, 0xFF0D), (0xFF1A, 0xFF1B), (0xFF64, 0xFF64)]),
  (["se", "sep"], sentenceSeparator),
  (["sp"], diff whiteSpace (union sentenceSeparator (ranges [('\n', '\n'), ('\r', '\r')]))),
  (["st", "sterm"], diff (trait .sentenceTerminal) ambiguousStop),
  (["up", "upper"], sentenceUpper)]

end Descent.Pattern
