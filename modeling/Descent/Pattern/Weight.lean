import Descent.Pattern.Basic

/-! # How large a pattern is

The weight of a pattern is about the number of bytes that its tables take when each copy of each
part gets its own: a state for each byte of a character, an entry for each way out of it. -/
namespace Descent

namespace CharSet

/-- The first and the last code points of the members that follow one another. -/
def intervals (s : CharSet) : List (Nat × Nat) := pairs s.places
where
  pairs : List Nat → List (Nat × Nat)
    | [] => []
    | [first] => [(codeAt first, codeAt (count - 1))]
    | first :: stop :: rest => (codeAt first, codeAt (stop - 1)) :: pairs rest

def isAscii (s : CharSet) : Bool := s.intervals.all (·.2 < 128)

/-- The code points that as many bytes spell, from the first of one number of bytes up to the last;
those of surrogates are left out. -/
def encodings : List (Nat × Nat × Nat) :=
  [(0, 0, 0x7F), (1, 0x80, 0x7FF), (2, 0x800, 0xD7FF), (2, 0xE000, 0xFFFF), (3, 0x10000, 0x10FFFF)]

/-- What spells a range of numbers with `more` bytes behind the first: in each row the first byte
has a range, and so has each byte behind it, whatever the bytes before it are. -/
def rows : Nat → Nat → Nat → List (List (Nat × Nat))
  | 0, first, last => [[(first, last)]]
  | more + 1, first, last =>
    let size := 64 ^ (more + 1)
    let a := first / size
    let b := last / size
    if a = b then (rows more (first % size) (last % size)).map ((a, a) :: ·)
    else
      let front := if first % size = 0 then [] else
        (rows more (first % size) (size - 1)).map ((a, a) :: ·)
      let back := if last % size = size - 1 then [] else
        (rows more 0 (last % size)).map ((b, b) :: ·)
      let a' := if front.isEmpty then a else a + 1
      let b' := if back.isEmpty then b + 1 else b
      let middle := if a' < b' then [(a', b' - 1) :: List.replicate (more + 1) (0, 63)] else []
      front ++ middle ++ back

/-- The states that rows take one after the other: each shares those that it begins with, like the
row before it. -/
def states : List (Nat × Nat) → List (List (Nat × Nat)) → Nat
  | _, [] => 0
  | before, row :: rest =>
    let shared := ((before.zip row).takeWhile fun (x, y) => x = y).length
    row.length - shared + states row rest

/-- The weight of the ways through a set: their states, and where there are several, the entries of
a table of them. -/
def weight (s : CharSet) : Nat :=
  match s.only? with
  | some c => 32 * c.utf8Size
  | Option.none =>
    if s.isAscii then 64 + 8 * s.intervals.length
    else
      let spelled := encodings.map fun (more, low, high) =>
        (s.intervals.filter fun (first, last) => first ≤ high && low ≤ last).flatMap
          fun (first, last) => rows more (first.max low) (last.min high)
      spelled.foldr (fun rs n => 32 * states [] rs + 4 * rs.length + n) 64

end CharSet

namespace Pattern

def weight : Pattern → Nat
  | empty => 32
  | literal t => (t.map fun c => 32 * c.utf8Size).sum
  | chars _ s => s.weight
  | anchor _ => 32
  | group _ p => 64 + p.weight
  | cat p q => p.weight + q.weight
  | alt p q => 72 + p.weight + q.weight
  | repeated min max _ p =>
    match max with
    | none => if min = 0 then (if p.isNullable then 112 else 40) + p.weight else min * p.weight + 40
    | some max =>
      if min = 0 ∧ max = 1 then 72 + p.weight
      else (if min = 0 then 32 else min * p.weight) +
        if min < max then 32 + (max - min) * (40 + p.weight) else 0

/-- The states that start and end every search. -/
def frameWeight : Nat := 128

def maxWeight : Nat := 10485760

def isTooLarge (p : Pattern) : Bool := maxWeight < p.weight + frameWeight

end Pattern
end Descent
