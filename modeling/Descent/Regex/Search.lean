import Descent.Regex.Basic
import Descent.Text.Basic

/-! # Leftmost, most preferred match

A thread is what is still to be matched, part by part. A search keeps the threads that are alive
after the characters read so far, in order of preference. At each position they are unfolded into
their next moves; once one of them can stop, those behind it can no longer win. -/
namespace Descent
namespace Regex

abbrev Thread := List Regex

inductive Move where
  | stop
  | read (s : CharSet) (rest : Thread)
deriving DecidableEq

/-- The labels passed at a position, as the bits of a number, and the moves found there, the last
one first. -/
structure Frontier where
  passed : Nat := 0
  moves : List Move := []

namespace Frontier

def add (m : Move) (f : Frontier) : Frontier := { f with moves := m :: f.moves }

/-- Goes on past a label, unless someone has been there. -/
def pass (label : Nat) (next : Frontier → Frontier) (f : Frontier) : Frontier :=
  if f.passed.testBit label then f else next { f with passed := f.passed ||| 1 <<< label }

end Frontier

/-- Unfolds an expression that `rest` follows; `next` unfolds `rest` where it begins at the same
position. A loop that comes back to its label has read nothing and ends there. -/
def explore (l : Look) : Regex → Thread → (Frontier → Frontier) → Frontier → Frontier
  | empty, _, next => next
  | chars s, rest, _ => Frontier.add (.read s rest)
  | anchor a, _, next => if a.holds l then next else id
  | once label, _, next => Frontier.pass label next
  | cat a b, rest, next => explore l a (b :: rest) (explore l b rest next)
  | alt a b, rest, next => explore l b rest next ∘ explore l a rest next
  | again label greedy a, rest, next =>
    let turn := explore l a (again label greedy a :: rest) id
    Frontier.pass label (if greedy then next ∘ turn else turn ∘ next)

def exploreThread (l : Look) : Thread → Frontier → Frontier
  | [] => Frontier.add .stop
  | r :: rest => explore l r rest (exploreThread l rest)

/-- The next moves of all threads, most preferred first. -/
def moves (l : Look) (alive : List Thread) : List Move :=
  (alive.foldl (fun f t => exploreThread l t f) {}).moves.reverse

/-- What is alive after `c`, most preferred first. -/
def survivors (c : Char) : List Move → List Thread
  | [] => []
  | .stop :: _ => []
  | .read s rest :: ms => if s.mem c then rest :: survivors c ms else survivors c ms

/-- The number of characters of the preferred match of the threads at the start of the text, given
the character before it. -/
def scan : List Thread → Option Char → Text → Option Nat
  | [], _, _ => none
  | alive, before, [] => if (moves ⟨before, none⟩ alive).contains .stop then some 0 else none
  | alive, before, c :: rest =>
    let next := moves ⟨before, some c⟩ alive
    match scan (survivors c next) (some c) rest with
    | some n => some (n + 1)
    | none => if next.contains .stop then some 0 else none

/-- The preferred match at the start of a text that is all there is. -/
def atStart (r : Regex) (t : Text) : Option Nat := scan [[r]] none t

/-- The first position from which the expression matches, and the length of the preferred match
there, both in characters. -/
def findFrom (r : Regex) (before : Option Char) (t : Text) : Option (Nat × Nat) :=
  match scan [[r]] before t, t with
  | some n, _ => some (0, n)
  | none, [] => none
  | none, c :: rest => (findFrom r (some c) rest).map fun (i, n) => (i + 1, n)

def find (r : Regex) (t : Text) : Option (Nat × Nat) := findFrom r none t

end Regex
end Descent
