import Descent.Pattern.Error

/-! # How deep a pattern nests

Groups, classes, repetitions, rows of items and choices lie in one another; single characters and
empty patterns have no depth. -/
namespace Descent.Pattern

inductive Nest where
  | node (extent : Extent) (inside : List Nest)

/-- The first part that lies deeper than the limit. -/
def Nest.beyond? : Nat → Nest → Option Extent
  | 0, node x _ => some x
  | limit + 1, node _ inside => inside.findSome? (beyond? limit)

/-- Things side by side make a level of their own if there are several. -/
def Nest.gather (several : Bool) (x : Extent) (inside : List Nest) : List Nest :=
  if several then [node x inside] else inside

end Descent.Pattern
