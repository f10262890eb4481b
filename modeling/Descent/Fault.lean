/-! # Faults

A fault stops a whole computation: an operation was used outside its range. It is no outcome of a
parse, which either succeeds or fails. -/
namespace Descent

inductive Fault where
  | badOffset (offset size : Nat)
  | noResult (message parser : String) (offset : Nat)
  | badSlice
  | badSpan
deriving DecidableEq

/-- Slices and spans say nothing about what went wrong. -/
def Fault.message? : Fault → Option String
  | badOffset offset size => some <|
    s!"cursor offset {offset} is outside the source or inside a character " ++
      s!"(source length {size})"
  | noResult message parser offset => some
    s!"no result in failure: {message} (in {parser} at byte {offset})"
  | badSlice => none
  | badSpan => none

end Descent
