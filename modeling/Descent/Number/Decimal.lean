import Descent.Number.Integer

/-! # Decimal numbers

A number is read as a sign, the digits without their point, and the power of ten they are scaled
by; the float nearest to it is taken. -/
namespace Descent

structure Decimal where
  negative : Bool
  digits : Nat
  exponent : Int
deriving DecidableEq

namespace Decimal

def naturalOf (ds : Text) : Nat := ds.foldl (fun n c => n * 10 + (c.toNat - '0'.toNat)) 0

/-- A sign, if there is one, and the rest. -/
def splitSign : Text → Bool × Text
  | '+' :: t => (false, t)
  | '-' :: t => (true, t)
  | t => (false, t)

/-- The exponent that ends a number, `some 0` if there is none. -/
def exponent? : Text → Option Int
  | [] => some 0
  | c :: t =>
    if c = 'e' ∨ c = 'E' then
      let (negative, ds) := splitSign t
      if !ds.isEmpty && ds.all Char.isDigit then
        some (if negative then -(naturalOf ds : Int) else naturalOf ds)
      else none
    else none

/-- An optional sign; digits, with or without a point and digits behind it, or a point and digits;
and an optional exponent. -/
def read? (t : Text) : Option Decimal :=
  let (negative, t) := splitSign t
  let whole := t.takeWhile Char.isDigit
  let t := t.dropWhile Char.isDigit
  let (fraction, t) := match t with
    | '.' :: t => (t.takeWhile Char.isDigit, t.dropWhile Char.isDigit)
    | t => ([], t)
  if whole.isEmpty && fraction.isEmpty then none
  else (exponent? t).map fun e =>
    ⟨negative, naturalOf (whole ++ fraction), e - fraction.length⟩

/-- The nearest float. Powers of ten far outside the range of floats are not computed. -/
def toFloat (d : Decimal) : Float :=
  let magnitude := d.exponent + (Nat.toDigits 10 d.digits).length
  let x :=
    if d.digits = 0 ∨ magnitude < -400 then 0
    else if 400 < magnitude then 1 / 0
    else if d.exponent < 0 then Float.ofScientific d.digits true d.exponent.natAbs
    else Float.ofScientific d.digits false d.exponent.natAbs
  if d.negative then -x else x

end Decimal
end Descent
