import Descent.Fault
import Descent.Pattern.Compile

/-! # Cursors

A cursor is a place between two characters of a source, kept as the text on both sides, with the
pattern of what may be skipped there. -/
namespace Descent

/-- A compiled pattern of text to skip. Two are equal as soon as their texts are. -/
structure SkipPattern where
  pattern : Text
  regex : Regex
  compiled : Pattern.compileAnchored pattern = .ok regex

namespace SkipPattern

theorem eq_of_pattern_eq {k k' : SkipPattern} (h : k.pattern = k'.pattern) : k = k' := by
  cases k with | mk p r hr =>
  cases k' with | mk p' r' hr' =>
  cases h
  cases Except.ok.inj (hr.symm.trans hr')
  rfl

instance : DecidableEq SkipPattern := fun k k' =>
  if h : k.pattern = k'.pattern then isTrue (eq_of_pattern_eq h)
  else isFalse fun e => h (e ▸ rfl)

def compile (pattern : Text) : Except PatternError SkipPattern :=
  match h : Pattern.compileAnchored pattern with
  | .ok r => .ok ⟨pattern, r, h⟩
  | .error e => .error e

def whiteSpaceRegex : Regex :=
  .cat (.anchor .textStart)
    (.cat (.chars .whiteSpace) (.again 0 true (.chars .whiteSpace)))

theorem compileAnchored_whiteSpace :
    Pattern.compileAnchored ['\\', 's', '+'] = .ok whiteSpaceRegex :=
  ok_of_toOption (by decide +kernel)

/-- One white-space character or more. -/
def whiteSpace : SkipPattern := ⟨['\\', 's', '+'], whiteSpaceRegex, compileAnchored_whiteSpace⟩

/-- The size of the text up to the end of the first match, which need not start at the front. -/
def matchLength (k : SkipPattern) (t : Text) : Option Nat :=
  (k.regex.find t).map fun (i, n) => Text.size (t.take (i + n))

end SkipPattern

structure Cursor where
  behind : Text
  ahead : Text
  skip : Option SkipPattern
deriving DecidableEq

namespace Cursor

def start (source : Text) (skip : Option SkipPattern := some .whiteSpace) : Cursor :=
  ⟨[], source, skip⟩

def source (c : Cursor) : Text := c.behind ++ c.ahead

def offset (c : Cursor) : Nat := Text.size c.behind

def atEnd (c : Cursor) : Bool := c.ahead.isEmpty

/-- The cursor at another offset of the same source. -/
def advance (c : Cursor) (offset : Nat) : Except Fault Cursor :=
  match Text.cut offset c.source with
  | some (behind, ahead) => .ok { c with behind, ahead }
  | none => .error (.badOffset offset (Text.size c.source))

/-- The cursor after `n` more bytes. -/
def forward (c : Cursor) (n : Nat) : Except Fault Cursor := c.advance (c.offset + n)

def skipAhead (c : Cursor) : Except Fault Cursor :=
  match c.skip.bind (·.matchLength c.ahead) with
  | some n => c.forward n
  | none => .ok c

end Cursor
end Descent
