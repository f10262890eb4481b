import Descent.Unicode.Alphabetic
import Descent.Unicode.Digit
import Descent.Unicode.Punctuation

/-! # Word characters

Letters, marks, decimal digits, connecting punctuation and the two joiners make words. -/
namespace Descent.Unicode

def joinControl : Ranges := [(0x200C, 0x200D)]

def isWord (c : Char) : Bool :=
  alphabetic.holds c.toNat || decimalDigit.holds c.toNat || connector.holds c.toNat ||
    joinControl.holds c.toNat || otherMark.holds c.toNat

/-! ## Names

What names are made of includes what version 17 of the standard adds. -/

def isNameLetter (c : Char) : Bool :=
  alphabetic.holds c.toNat || recentAlphabetic.holds c.toNat

def isNameCharacter (c : Char) : Bool :=
  isNameLetter c || decimalDigit.holds c.toNat || otherNumber.holds c.toNat ||
    recentDigit.holds c.toNat

end Descent.Unicode
