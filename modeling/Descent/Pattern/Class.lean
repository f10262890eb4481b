import Descent.Pattern.Escape
import Descent.Pattern.Nest

/-! # Bracketed classes

A class is read with a stack: a bracket that is still open, or the left side of an operation whose
right side is being read. Operations have one precedence and group to the left. -/
namespace Descent.Pattern

inductive ClassOp where
  | inter | diff | symmDiff
deriving DecidableEq

def ClassOp.apply : ClassOp → CharSet → CharSet → CharSet
  | inter => .inter
  | diff => .diff
  | symmDiff => .symmDiff

/-- What a bracket holds so far: the set, how many items make it up, the range they span, and what
is nested in them. -/
structure Found where
  set : CharSet
  items : Nat
  extent : Extent
  nests : List Nest

namespace Found

def nothing (p : Nat) : Found := ⟨.none, 0, ⟨p, p⟩, []⟩

def add (f : Found) (s : CharSet) (x : Extent) (nests : List Nest := []) : Found where
  set := .union f.set s
  items := f.items + 1
  extent := ⟨if f.items = 0 then x.start else f.extent.start, x.stop⟩
  nests := f.nests ++ nests

def side (f : Found) : List Nest := Nest.gather (1 < f.items) f.extent f.nests

end Found

/-- One side of an operation. -/
structure Side where
  set : CharSet
  extent : Extent
  nests : List Nest

inductive ClassFrame where
  | opened (extent : Extent) (negated : Bool) (outer : Found)
  | operation (op : ClassOp) (left : Side)

def asciiClass? (name : Text) : Option CharSet :=
  match String.ofList name with
  | "alnum" => some (.ranges [('0', '9'), ('A', 'Z'), ('a', 'z')])
  | "alpha" => some (.ranges [('A', 'Z'), ('a', 'z')])
  | "ascii" => some ascii
  | "blank" => some (.ranges [('\t', '\t'), (' ', ' ')])
  | "cntrl" => some (.ranges [('\x00', '\x1f'), ('\x7f', '\x7f')])
  | "digit" => some asciiDigit
  | "graph" => some (.range '!' '~')
  | "lower" => some (.range 'a' 'z')
  | "print" => some (.range ' ' '~')
  | "punct" => some (.ranges [('!', '/'), (':', '@'), ('[', '\x60'), ('\x7b', '~')])
  | "space" => some asciiSpace
  | "upper" => some (.range 'A' 'Z')
  | "word" => some asciiWord
  | "xdigit" => some (.ranges [('0', '9'), ('A', 'F'), ('a', 'f')])
  | _ => none

/-- The characters whose case variants a set holds. -/
def foldSet (f : Flags) (s : CharSet) : CharSet :=
  if !f.ignoreCase then s else if f.unicode then .fold s else .inter ascii (.fold s)

/-- Case is ignored before a set is complemented. -/
def finishSet (x : Extent) (negated : Bool) (s : CharSet) : Reads CharSet := do
  let s := foldSet (← flags) s
  if negated then complement x s else return s

/-- A class such as `[:alpha:]`; where there is none, nothing is read. -/
def asciiClass : Reads (Option (CharSet × Extent)) := do
  let before ← get
  if ← bumpIf ['[', ':'] then
    let negated ← bumpIf ['^']
    let s ← get
    let name := s.rest.takeWhile (· != ':')
    match asciiClass? name, (s.rest.drop name.length) with
    | some named, ':' :: ']' :: rest =>
      set { s with pos := s.pos + name.length + 2, rest }
      let x : Extent := ⟨before.pos, ← here⟩
      return some (← finishSet x negated named, x)
    | _, _ =>
      set before
      return none
  else return none

/-- Reads a bracket, a circumflex, hyphens and a closing bracket that stands first; gives the range
read, whether the class is negated, and the characters found. -/
def classOpen : Reads (Extent × Bool × Found) := do
  let start ← here
  if !(← bumpBlank) then failAt start (← here) .classUnclosed
  else
    let negated := (← current?) == some '^'
    if negated then
      if !(← bumpBlank) then failAt start (← here) .classUnclosed
      else finish start true
    else finish start false
where
  hyphens (start : Nat) : Nat → Found → Reads Found
    | 0, found => return found
    | fuel + 1, found => do
      let p ← here
      if (← current?) = some '-' then
        if !(← bumpBlank) then failAt start start .classUnclosed
        else hyphens start fuel (found.add (.single '-') ⟨p, p + 1⟩)
      else return found
  finish (start : Nat) (negated : Bool) : Reads (Extent × Bool × Found) := do
    let p ← here
    let found ← hyphens start (← get).rest.length (.nothing p)
    if found.items = 0 ∧ (← current?) = some ']' then
      if !(← bumpBlank) then failAt start (← here) .classUnclosed
      else return (⟨start, ← here⟩, negated, found.add (.single ']') ⟨p, p + 1⟩)
    else return (⟨start, ← here⟩, negated, found)

/-- The error of a class that ends with the pattern, at the innermost bracket. -/
def classUnclosed {α : Type} : List ClassFrame → Reads α
  | [] => do
    let p ← here
    failAt p p .classUnclosed
  | .opened x _ _ :: _ => failAt x.start x.stop .classUnclosed
  | .operation _ _ :: frames => classUnclosed frames

def classItem : Reads Placed := do
  let p ← here
  match ← current? with
  | some '\\' => escape
  | some c =>
    let _ ← bump
    return ⟨.literal c, ⟨p, p + 1⟩⟩
  | none => failAt p p .classUnclosed

/-- A character that a set may hold. -/
def member (x : Extent) (c : Char) : Reads Unit := do
  if !(← flags).unicode ∧ 127 < c.toNat then failLate x .beyondAscii

def Placed.toSet (p : Placed) : Reads CharSet :=
  match p.primitive with
  | .literal c => do
    member p.extent c
    return .single c
  | .set s => return s
  | .anchor _ => failAt p.extent.start p.extent.stop .classEscapeInvalid

def Placed.toBound (p : Placed) : Reads Char :=
  match p.primitive with
  | .literal c => return c
  | _ => failAt p.extent.start p.extent.stop .classRangeLiteral

/-- One member, or a range of characters. -/
def classRange (frames : List ClassFrame) : Reads (CharSet × Extent) := do
  let first ← classItem
  skipBlank
  match ← current? with
  | none => classUnclosed frames
  | some c =>
    let next ← peekBlank?
    if c ≠ '-' ∨ next = some ']' ∨ next = some '-' then return (← first.toSet, first.extent)
    else if !(← bumpBlank) then classUnclosed frames
    else
      let last ← classItem
      let a ← first.toBound
      let b ← last.toBound
      let x : Extent := ⟨first.extent.start, last.extent.stop⟩
      if b < a then failAt x.start x.stop .classRangeInvalid
      else
        member first.extent a
        member last.extent b
        return (.range a b, x)

/-- Completes the operation whose right side has been read, if there is one. -/
def closeOperation (f : Flags) (right : Side) : List ClassFrame → Side × List ClassFrame
  | .operation op left :: frames =>
    let x : Extent := ⟨left.extent.start, right.extent.stop⟩
    let s := op.apply (foldSet f left.set) (foldSet f right.set)
    (⟨s, x, [.node x (left.nests ++ right.nests)]⟩, frames)
  | frames => (right, frames)

def Found.close (f : Flags) (found : Found) (frames : List ClassFrame) : Side × List ClassFrame :=
  closeOperation f ⟨found.set, found.extent, found.side⟩ frames

def classOp? : Reads (Option ClassOp) := do
  if ← bumpIf ['&', '&'] then return some .inter
  else if ← bumpIf ['-', '-'] then return some .diff
  else if ← bumpIf ['~', '~'] then return some .symmDiff
  else return none

/-- Reads the rest of a class; `found` is what the innermost bracket holds so far. -/
def classRest : Nat → List ClassFrame → Found → Reads (CharSet × Nest)
  | 0, frames, _ => classUnclosed frames
  | fuel + 1, frames, found => do
    skipBlank
    match ← current? with
    | none => classUnclosed frames
    | some '[' =>
      match ← asciiClass with
      | some (s, x) => classRest fuel frames (found.add s x)
      | none =>
        let (extent, negated, first) ← classOpen
        classRest fuel (.opened extent negated found :: frames) first
    | some ']' =>
      let (whole, frames) := found.close (← flags) frames
      let _ ← bump
      match frames with
      | .opened extent negated outer :: frames =>
        let x : Extent := ⟨extent.start, ← here⟩
        let s ← finishSet x negated whole.set
        let nest := Nest.node x whole.nests
        if frames.isEmpty then return (s, nest)
        else classRest fuel frames (outer.add s x [nest])
      | frames => classUnclosed frames
    | some _ =>
      match ← classOp? with
      | some op =>
        let (left, frames) := found.close (← flags) frames
        classRest fuel (.operation op left :: frames) (.nothing (← here))
      | none =>
        let (s, x) ← classRange frames
        classRest fuel frames (found.add s x)

/-- Reads a class; its bracket is current. -/
def bracketClass : Reads (CharSet × Nest) := do
  let p ← here
  let (extent, negated, first) ← classOpen
  classRest (← get).rest.length [.opened extent negated (.nothing p)] first

end Descent.Pattern
