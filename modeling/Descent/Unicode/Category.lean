import Descent.Unicode.Control
import Descent.Unicode.Digit
import Descent.Unicode.Letter
import Descent.Unicode.Mark
import Descent.Unicode.Punctuation
import Descent.Unicode.Symbol

/-! # General categories

Every character that is assigned has one category. Surrogates, which have one of their own, are no
characters. -/
namespace Descent.Unicode

inductive Category where
  | uppercaseLetter | lowercaseLetter | titlecaseLetter | modifierLetter | otherLetter
  | nonspacingMark | spacingMark | enclosingMark
  | decimalNumber | letterNumber | otherNumber
  | connector | dash | opening | closing | initialQuote | finalQuote | otherPunctuation
  | mathSymbol | currencySymbol | modifierSymbol | otherSymbol
  | spaceSeparator | lineSeparator | paragraphSeparator
  | control | format | privateUse
deriving DecidableEq

def Category.ranges : Category → Ranges
  | uppercaseLetter => Unicode.uppercaseLetter.toRanges
  | lowercaseLetter => Unicode.lowercaseLetter.toRanges
  | titlecaseLetter => Unicode.titlecaseLetter
  | modifierLetter => Unicode.modifierLetter
  | otherLetter => Unicode.otherLetter
  | nonspacingMark => Unicode.nonspacingMark
  | spacingMark => Unicode.spacingMark
  | enclosingMark => Unicode.enclosingMark
  | decimalNumber => Unicode.decimalDigit
  | letterNumber => Unicode.letterNumber
  | otherNumber => Unicode.otherNumber
  | connector => Unicode.connector
  | dash => Unicode.dash
  | opening => Unicode.opening
  | closing => Unicode.closing
  | initialQuote => Unicode.initialQuote
  | finalQuote => Unicode.finalQuote
  | otherPunctuation => Unicode.otherPunctuation
  | mathSymbol => Unicode.mathSymbol
  | currencySymbol => Unicode.currencySymbol
  | modifierSymbol => Unicode.modifierSymbol
  | otherSymbol => Unicode.otherSymbol
  | spaceSeparator => Unicode.spaceSeparator
  | lineSeparator => Unicode.lineSeparator
  | paragraphSeparator => Unicode.paragraphSeparator
  | control => Unicode.control
  | format => Unicode.format
  | privateUse => Unicode.privateUse

namespace Category

def casedLetters : List Category := [uppercaseLetter, lowercaseLetter, titlecaseLetter]

def letters : List Category := casedLetters ++ [modifierLetter, otherLetter]

def marks : List Category := [nonspacingMark, spacingMark, enclosingMark]

def numbers : List Category := [decimalNumber, letterNumber, otherNumber]

def punctuation : List Category :=
  [connector, dash, opening, closing, initialQuote, finalQuote, otherPunctuation]

def symbols : List Category := [mathSymbol, currencySymbol, modifierSymbol, otherSymbol]

def separators : List Category := [spaceSeparator, lineSeparator, paragraphSeparator]

/-- What is assigned and no control, format or private use. -/
def visible : List Category := letters ++ marks ++ numbers ++ punctuation ++ symbols ++ separators

def assigned : List Category := visible ++ [control, format, privateUse]

end Category
end Descent.Unicode
