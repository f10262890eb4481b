import Descent.Regex.CharSet
import Descent.Unicode.Word

/-! # Regular expressions for ordered matching

The order of `alt` and the greed of a loop say which of several matches is preferred. Labels stand
where paths part and at loops. A label is passed once between two characters, by whoever is
preferred: so no way is gone twice, and no loop turns without reading. -/
namespace Descent

/-- What counts as a part of a word: by the standard, or by ASCII alone. -/
inductive WordKind where
  | full | ascii
deriving DecidableEq

def isAsciiWord (c : Char) : Bool := c.isAlphanum || c == '_'

def WordKind.holds : WordKind → Option Char → Bool
  | full, c => c.any Unicode.isWord
  | ascii, c => c.any isAsciiWord

inductive Anchor where
  | textStart | textEnd
  /-- Lines end with a line feed. -/
  | lineStart | lineEnd
  /-- Lines end with a line feed, a carriage return, or both in this order. -/
  | returnStart | returnEnd
  | wordBoundary (k : WordKind) | notWordBoundary (k : WordKind)
  | wordStart (k : WordKind) | wordEnd (k : WordKind)
  | wordStartHalf (k : WordKind) | wordEndHalf (k : WordKind)
deriving DecidableEq

/-- The characters on both sides of a position; there is none at an end of the text. -/
structure Look where
  before : Option Char
  after : Option Char

def Anchor.holds (a : Anchor) (l : Look) : Bool :=
  match a with
  | textStart => l.before.isNone
  | textEnd => l.after.isNone
  | lineStart => l.before.all (· == '\n')
  | lineEnd => l.after.all (· == '\n')
  | returnStart => l.before.all (· == '\n') || l.before == some '\r' && l.after != some '\n'
  | returnEnd => l.after.all (· == '\r') || l.after == some '\n' && l.before != some '\r'
  | wordBoundary k => k.holds l.before != k.holds l.after
  | notWordBoundary k => k.holds l.before == k.holds l.after
  | wordStart k => !k.holds l.before && k.holds l.after
  | wordEnd k => k.holds l.before && !k.holds l.after
  | wordStartHalf k => !k.holds l.before
  | wordEndHalf k => !k.holds l.after

inductive Regex where
  | empty
  | chars (s : CharSet)
  | anchor (a : Anchor)
  | once (label : Nat)
  | cat (a b : Regex)
  | alt (a b : Regex)
  | again (label : Nat) (greedy : Bool) (a : Regex)
deriving DecidableEq

namespace Regex

/-- Concatenation that leaves out an empty first part. -/
def seq : Regex → Regex → Regex
  | empty, b => b
  | a, b => cat a b

/-- The characters of a text in a row. -/
def spell (t : List Char) : Regex := t.foldr (fun c r => seq (chars (.single c)) r) empty

end Regex
end Descent
