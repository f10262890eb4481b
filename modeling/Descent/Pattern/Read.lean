import Descent.Pattern.Basic
import Descent.Pattern.Class
import Descent.Pattern.Group
import Descent.Pattern.Repetition
import Descent.Pattern.Weight

/-! # Patterns read from text

Groups that are still open stand on a stack. What has been read at one level is its finished
branches and the items of the one being read, the last of each first. -/
namespace Descent.Pattern

/-- An item that only sets flags has no pattern. -/
structure Item where
  pattern : Option Pattern
  extent : Extent
  nests : List Nest

structure Level where
  start : Nat
  branchStart : Nat := start
  finished : List (Pattern × List Nest) := []
  items : List Item := []

namespace Level

def push (l : Level) (p : Option Pattern) (x : Extent) (nests : List Nest := []) : Level :=
  { l with items := ⟨p, x, nests⟩ :: l.items }

def branch (l : Level) (stop : Nat) : Pattern × List Nest :=
  let items := l.items.reverse
  (concat (items.filterMap (·.pattern)),
    Nest.gather (1 < items.length) ⟨l.branchStart, stop⟩ (items.flatMap (·.nests)))

/-- Ends a branch with the bar that stands at `stop`. -/
def nextBranch (l : Level) (stop : Nat) : Level where
  start := l.start
  branchStart := stop + 1
  finished := l.branch stop :: l.finished

def close (l : Level) (stop : Nat) : Pattern × List Nest :=
  let all := (l.branch stop :: l.finished).reverse
  (choice (all.map (·.1)), Nest.gather (1 < all.length) ⟨l.start, stop⟩ (all.flatMap (·.2)))

end Level

structure OpenGroup where
  start : Nat
  index : Option Nat
  outer : Level
  flags : Flags

/-- Without Unicode, letters of ASCII alone have two cases. -/
def character (f : Flags) (c : Char) : Pattern :=
  let cased := if f.unicode then (Unicode.caseVariants c).any (· != c) else c.isAlpha
  if f.ignoreCase && cased then ofSet f.unicode (foldSet f (.single c)) else .literal [c]

/-- Reads what is neither a group, nor a class, nor an operator. -/
def primitive : Reads Pattern := do
  let f ← flags
  let p ← here
  match ← current? with
  | some '\\' =>
    match (← escape).primitive with
    | .literal c => return character f c
    | .set s => return ofSet f.unicode s
    | .anchor a => return .anchor a
  | some c =>
    let _ ← bump
    match c with
    | '.' =>
      if !f.unicode then failLate ⟨p, p + 1⟩ .beyondText
      return ofSet true <| if f.dotAll then .all
        else if f.returns then .compl (.ranges [('\n', '\n'), ('\r', '\r')])
        else .compl (.single '\n')
    | '^' =>
      return .anchor <| if !f.multiLine then .textStart
        else if f.returns then .returnStart else .lineStart
    | '$' =>
      return .anchor <| if !f.multiLine then .textEnd
        else if f.returns then .returnEnd else .lineEnd
    | c => return character f c
  | none => return .empty

/-- Repeats the last item of a level, which must not be missing. -/
def repeatLast (c : Char) (l : Level) : Reads Level := do
  let start ← here
  match l.items with
  | ⟨some p, x, nests⟩ :: items =>
    let ((min, max), greedy) ← Pattern.operator c
    let f ← flags
    let x : Extent := ⟨x.start, ← here⟩
    let p := Pattern.repetition min max (greedy != f.swapGreed) p
    return { l with items := ⟨some p, x, [.node x nests]⟩ :: items }
  | _ => failAt start start .repetitionMissing

/-- Reads one item, operator or delimiter. -/
def step (c : Char) (groups : List OpenGroup) (l : Level) : Reads (List OpenGroup × Level) := do
  let start ← here
  match c with
  | '(' =>
    let f ← flags
    match ← groupOpen with
    | .flags after =>
      setFlags after
      return (groups, l.push none ⟨start, ← here⟩)
    | .group inside index =>
      setFlags inside
      return (⟨start, index, l, f⟩ :: groups, { start := ← here })
  | ')' => match groups with
    | [] => failAt start (start + 1) .groupUnopened
    | g :: groups =>
      setFlags g.flags
      let _ ← bump
      let (p, nests) := l.close start
      let x : Extent := ⟨g.start, start + 1⟩
      let p := match g.index with
        | some i => .group i p
        | none => p
      return (groups, g.outer.push (some p) x [.node x nests])
  | '|' =>
    let _ ← bump
    return (groups, l.nextBranch start)
  | '[' =>
    let f ← flags
    let (s, nest) ← bracketClass
    return (groups, l.push (some (ofSet f.unicode s)) ⟨start, ← here⟩ [nest])
  | '?' => return (groups, ← repeatLast c l)
  | '*' => return (groups, ← repeatLast c l)
  | '+' => return (groups, ← repeatLast c l)
  | '\x7b' => return (groups, ← repeatLast c l)
  | _ =>
    let p ← primitive
    return (groups, l.push (some p) ⟨start, ← here⟩)

/-- Of the errors in what the pattern means, the one of nesting comes first. -/
def finish (groups : List OpenGroup) (l : Level) : Reads Pattern := do
  let stop ← here
  match groups with
  | g :: _ => failAt g.start (g.start + 1) .groupUnclosed
  | [] =>
    let (p, nests) := l.close stop
    match nests.findSome? (Nest.beyond? maxNesting) with
    | some x => failAt x.start x.stop .nestedTooDeep
    | none => match (← get).late with
      | some e => throw e
      | none => return p

/-- Every step reads at least one character, so there are no more steps than characters. -/
def readRest : Nat → List OpenGroup → Level → Reads Pattern
  | 0, groups, l => finish groups l
  | fuel + 1, groups, l => do
    skipBlank
    match ← current? with
    | none => finish groups l
    | some c =>
      let (groups, l) ← step c groups l
      readRest fuel groups l

/-- The pattern that a text spells, with flags that are set from the start. -/
def read (t : Text) (f : Flags := {}) : Except SyntaxError Pattern :=
  (readRest (t.length + 1) [] { start := 0 } { rest := t, flags := f }).map (·.1)

end Descent.Pattern
