import Descent.Regex.Basic

/-! # Patterns

What a pattern says once its flags are resolved. Concatenations and choices are kept flat and to the
right: the parts of a concatenation are no concatenations, the branches of a choice no choices, and
characters that follow one another make up one literal. Only a group that captures keeps what is in
it apart. -/
namespace Descent

/-- Sets that are read with Unicode and without it are kept apart, also if they are the same. -/
inductive Pattern where
  | empty
  | literal (t : List Char)
  | chars (unicode : Bool) (s : CharSet)
  | anchor (a : Anchor)
  | group (index : Nat) (p : Pattern)
  | cat (p q : Pattern)
  | alt (p q : Pattern)
  | repeated (min : Nat) (max : Option Nat) (greedy : Bool) (p : Pattern)
deriving DecidableEq

namespace Pattern

/-- A set of one character is that character. -/
def ofSet (unicode : Bool) (s : CharSet) : Pattern :=
  match s.only? with
  | some c => literal [c]
  | none => chars (unicode && s != .none) s

/-! ## Concatenation -/

def parts : Pattern → List Pattern
  | empty => []
  | cat p q => p.parts ++ q.parts
  | p => [p]

/-- Puts a part in front of others; a literal joins the literal that comes first. -/
def prepend : Pattern → List Pattern → List Pattern
  | literal t, literal u :: ps => literal (t ++ u) :: ps
  | p, ps => p :: ps

def inRow : List Pattern → Pattern
  | [] => empty
  | [p] => p
  | p :: ps => cat p (inRow ps)

def concat (ps : List Pattern) : Pattern := inRow ((ps.flatMap parts).foldr prepend [])

/-! ## Choice -/

def branches : Pattern → List Pattern
  | alt p q => p.branches ++ q.branches
  | p => [p]

def oneOf : List Pattern → Pattern
  | [] => empty
  | [p] => p
  | p :: ps => alt p (oneOf ps)

def singleton? : Pattern → Option CharSet
  | literal [c] => some (.single c)
  | _ => none

def set? : Pattern → Option CharSet
  | chars _ s => some s
  | _ => none

/-- The characters of all branches, if each of them has such a set. -/
def union? (one? : Pattern → Option CharSet) : List Pattern → Option CharSet
  | [] => some .none
  | p :: ps => do return .union (← one? p) (← union? one? ps)

/-- Several branches of one character each make up a set, and so do several sets. -/
def eitherOf (ps : List Pattern) : Pattern :=
  match ps with
  | [p] => p
  | ps => match union? singleton? ps, union? set? ps with
    | some s, _ => ofSet true s
    | none, some s => ofSet true s
    | none, none => oneOf ps

def commonPrefix : List Pattern → List Pattern → List Pattern
  | p :: ps, q :: qs => if p = q then p :: commonPrefix ps qs else []
  | _, _ => []

/-- The parts that all branches begin with, if every branch has several parts. -/
def shared (bs : List (List Pattern)) : List Pattern :=
  match bs with
  | b :: bs' => if bs.all (2 ≤ ·.length) then bs'.foldl commonPrefix b else []
  | [] => []

/-- A choice whose branches begin alike is made after what they share. This decides between
matches: what is shared is preferred to the order of the branches. -/
def choice (ps : List Pattern) : Pattern :=
  let bs := (ps.flatMap branches).map parts
  let front := shared bs
  concat (front ++ [eitherOf ((bs.map fun b => inRow (b.drop front.length)).flatMap branches)])

/-! ## Repetition -/

/-- Whether nothing but the empty text can match. -/
def isZeroWidth : Pattern → Bool
  | empty => true
  | literal _ => false
  | chars _ _ => false
  | anchor _ => true
  | group _ p => p.isZeroWidth
  | cat p q => p.isZeroWidth && q.isZeroWidth
  | alt p q => p.isZeroWidth && q.isZeroWidth
  | repeated _ _ _ p => p.isZeroWidth

/-- Whether some look-around lets the empty text match. -/
def isNullable : Pattern → Bool
  | empty => true
  | literal _ => false
  | chars _ _ => false
  | anchor _ => true
  | group _ p => p.isNullable
  | cat p q => p.isNullable && q.isNullable
  | alt p q => p.isNullable || q.isNullable
  | repeated min _ _ p => min = 0 || p.isNullable

/-- What has no width is there or not, so it is repeated once at most. -/
def repetition (min : Nat) (max : Option Nat) (greedy : Bool) (p : Pattern) : Pattern :=
  let (min, max) :=
    if p.isZeroWidth then (min.min 1, some ((max.getD 1).min 1)) else (min, max)
  if max = some 0 then empty
  else if min = 1 ∧ max = some 1 then p
  else repeated min max greedy p

/-! ## Regular expressions -/

/-- Computations that give out labels. -/
abbrev Labelling := StateM Nat

def label : Labelling Nat := fun n => (n, n + 1)

/-- An expression that may be left out, and preferably is if it is not greedy. -/
def skippable (greedy : Bool) (r : Regex) : Regex :=
  if greedy then .alt r .empty else .alt .empty r

/-- One time or more. -/
def plus (greedy : Bool) (body : Labelling Regex) : Labelling Regex := do
  let r ← body
  return .cat r (.again (← label) greedy r)

def star (greedy nullable : Bool) (body : Labelling Regex) : Labelling Regex := do
  if nullable then
    let fork ← label
    return .cat (.once fork) (skippable greedy (← plus greedy body))
  else
    let r ← body
    return .again (← label) greedy r

def copies {α : Type} (n : Nat) (body : Labelling α) : Labelling (List α) :=
  (List.replicate n body).mapM id

/-- Up to `n` times; whoever stops early goes straight to the end. -/
def upTo (greedy : Bool) (n : Nat) (body : Labelling Regex) : Labelling Regex := do
  let turns ← copies n do return (← label, ← body)
  return turns.foldr (fun (fork, r) rest =>
    Regex.cat (.once fork) (skippable greedy (.seq r rest))) .empty

/-- The expression of a pattern: each copy of a part has labels of its own. -/
def labelled : Pattern → Labelling Regex
  | empty => return .empty
  | literal t => return .spell t
  | chars _ s => return .chars s
  | anchor a => return .anchor a
  | group _ p => p.labelled
  | cat p q => return .seq (← p.labelled) (← q.labelled)
  | alt p q => do
    let fork ← label
    return .cat (.once fork) (.alt (← p.labelled) (← q.labelled))
  | repeated min max greedy p => do
    match max with
    | some max =>
      let first ← copies min p.labelled
      return first.foldr .seq (← upTo greedy (max - min) p.labelled)
    | none =>
      if min = 0 then star greedy p.isNullable p.labelled
      else
        let first ← copies (min - 1) p.labelled
        return first.foldr .seq (← plus greedy p.labelled)

def toRegex (p : Pattern) : Regex := (p.labelled 0).1

end Pattern

/-- The switches that a pattern can set for itself. Without `unicode`, sets hold ASCII characters
only; with `returns`, carriage returns end lines too. -/
structure Flags where
  ignoreCase : Bool := false
  multiLine : Bool := false
  dotAll : Bool := false
  swapGreed : Bool := false
  unicode : Bool := true
  returns : Bool := false
  extended : Bool := false
deriving DecidableEq

end Descent
