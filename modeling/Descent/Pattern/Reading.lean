import Descent.Pattern.Basic
import Descent.Pattern.Error
import Descent.Unicode.WhiteSpace

/-! # Reading a pattern character by character

The state is what has been counted off, what is left, the flags in force and the groups met so far.
In extended mode white space and comments are skipped where a step says so. Errors about what a
well-formed pattern means come after errors of form, so the first of them is kept until the end. -/
namespace Descent.Pattern

structure Reading where
  pos : Nat := 0
  rest : Text
  flags : Flags := {}
  groups : Nat := 0
  names : List (Text × Extent) := []
  late : Option SyntaxError := none

abbrev Reads := StateT Reading (Except SyntaxError)

def failAt {α : Type} (start stop : Nat) (kind : ErrorKind) (clash : Option Extent := none) :
    Reads α :=
  fun _ => .error ⟨kind, ⟨start, stop⟩, clash⟩

/-- Keeps an error for the end, unless there is an earlier one. -/
def failLate (x : Extent) (kind : ErrorKind) : Reads Unit :=
  modify fun s => { s with late := s.late.or (some ⟨kind, x, none⟩) }

def here : Reads Nat := return (← get).pos

/-- The current character. -/
def current? : Reads (Option Char) := return (← get).rest.head?

/-- The character after the current one. -/
def peek? : Reads (Option Char) := return (← get).rest.tail.head?

def flags : Reads Flags := return (← get).flags

def setFlags (f : Flags) : Reads Unit := modify fun s => { s with flags := f }

/-- Moves past one character and tells whether another follows. -/
def bump : Reads Bool := fun s => match s.rest with
  | [] => .ok (false, s)
  | _ :: rest => .ok (!rest.isEmpty, { s with pos := s.pos + 1, rest })

/-- Drops white space and comments, inside a comment first if the flag is set. -/
def blank : Bool → Nat → Text → Nat × Text
  | _, pos, [] => (pos, [])
  | true, pos, c :: rest => blank (c != '\n') (pos + 1) rest
  | false, pos, c :: rest =>
    if Unicode.isWhiteSpace c then blank false (pos + 1) rest
    else if c = '#' then blank true (pos + 1) rest
    else (pos, c :: rest)

def skipBlank : Reads Unit := modify fun s =>
  if s.flags.extended then
    let (pos, rest) := blank false s.pos s.rest
    { s with pos, rest }
  else s

/-- Moves past one character and what is skipped after it; tells whether a character follows. -/
def bumpBlank : Reads Bool := do
  if ← bump then
    skipBlank
    return (← current?).isSome
  else return false

/-- Moves past `t` if it comes next. -/
def bumpIf (t : Text) : Reads Bool := fun s =>
  if t.isPrefixOf s.rest then
    .ok (true, { s with pos := s.pos + t.length, rest := s.rest.drop t.length })
  else .ok (false, s)

/-- The character after the current one. In extended mode white space is passed over, and so is one
number sign with the white space behind it, unless nothing is left there. -/
def peekBlank? : Reads (Option Char) := do
  let s ← get
  let next := s.rest.tail
  if !s.flags.extended then return next.head?
  match next.dropWhile Unicode.isWhiteSpace with
  | [] => return next.head?
  | '#' :: rest => match rest.dropWhile Unicode.isWhiteSpace with
    | [] => return next.head?
    | c :: _ => return some c
  | c :: _ => return some c

end Descent.Pattern
