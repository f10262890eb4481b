import Descent.Text.Basic

/-! # Integers read from decimal text

An optional sign, then digits; the value must stay within bounds from the first digit on. -/
namespace Descent

inductive IntegerError where
  | empty | invalidDigit | tooLarge | tooSmall
deriving DecidableEq

def IntegerError.message : IntegerError → String
  | empty => "cannot parse integer from empty string"
  | invalidDigit => "invalid digit found in string"
  | tooLarge => "number too large to fit in target type"
  | tooSmall => "number too small to fit in target type"

namespace Integer

def digit? (c : Char) : Option Nat := if c.isDigit then some (c.toNat - '0'.toNat) else none

/-- Reads digits after `value`, away from zero in the direction of the sign. -/
def digits (min max : Int) (negative : Bool) (value : Int) : Text → Except IntegerError Int
  | [] => .ok value
  | c :: rest => match digit? c with
    | none => .error .invalidDigit
    | some d =>
      let next := if negative then value * 10 - d else value * 10 + d
      if next < min then .error .tooSmall
      else if max < next then .error .tooLarge
      else digits min max negative next rest

/-- Without negative numbers in range, a minus sign is no sign at all. -/
def read (min max : Int) : Text → Except IntegerError Int
  | [] => .error .empty
  | '+' :: [] => .error .invalidDigit
  | '-' :: [] => .error .invalidDigit
  | '+' :: rest => digits min max false 0 rest
  | '-' :: rest =>
    if min < 0 then digits min max true 0 rest else .error .invalidDigit
  | t => digits min max false 0 t

def read64 (t : Text) : Except IntegerError Int64 :=
  (read (-9223372036854775808) 9223372036854775807 t).map Int64.ofInt

def readByte (t : Text) : Except IntegerError Int64 := (read 0 255 t).map Int64.ofInt

end Integer
end Descent
