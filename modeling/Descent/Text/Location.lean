import Descent.Fault
import Descent.Text.Basic

/-! # Places in a source as people read them

A place is an offset; its readable form counts lines from 1 and bytes within the line from 0. The
context of a place is its line with up to two lines on either side and a pointer under the place. -/
namespace Descent

structure Location where
  source : Text
  offset : Nat

structure Position where
  line : Nat
  byteOffset : Nat
deriving DecidableEq

/-- The position that is reached by reading a text from the start. -/
def Position.after (read : Text) : Position :=
  ⟨read.count '\n' + 1, Text.size ((Text.lines read).getLastD [])⟩

namespace Location

/-- An offset past the end stands for the end. -/
def position (l : Location) : Except Fault Position :=
  match Text.cut (min l.offset (Text.size l.source)) l.source with
  | some (read, _) => .ok (.after read)
  | none => .error .badSlice

def spaces (n : Nat) : Text := List.replicate n ' '

/-- What stands before a line in its context, which marks the line of the place. -/
def margin (number : Nat) (marked : Bool) : Text :=
  (if marked then "  > ".toList else "    ".toList) ++ (toString number).toList ++ " | ".toList

def pointer (column : Nat) : Text := spaces column ++ "^--- here".toList

def showLine (p : Position) (number : Nat) (line : Text) : List Text :=
  let head := margin number (number == p.line)
  if number = p.line then [head ++ line, pointer (Text.size head + p.byteOffset)]
  else [head ++ line]

def contextAt (source : Text) (p : Position) : List Text :=
  (Text.lines source).zipIdx.flatMap fun (line, i) =>
    if p.line - 2 ≤ i + 1 ∧ i + 1 ≤ p.line + 2 then showLine p (i + 1) line else []

def contextLines (l : Location) : Except Fault (List Text) :=
  return contextAt l.source (← l.position)

end Location
end Descent
