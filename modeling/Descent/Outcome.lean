import Descent.Failure
import Descent.Value

/-! # Outcomes of a parse -/
namespace Descent

inductive Outcome where
  | success (value : Value) (rest : Cursor)
  | failure (f : Failure)

namespace Outcome

def fail (rest : Cursor) (reason : Reason) (parser : String) : Outcome :=
  failure ⟨rest, reason, parser⟩

def rest : Outcome → Cursor
  | success _ rest => rest
  | failure f => f.rest

def remaining (o : Outcome) : Text := o.rest.ahead

def isSuccess : Outcome → Bool
  | success _ _ => true
  | failure _ => false

def value? : Outcome → Option Value
  | success v _ => some v
  | failure _ => none

def failure? : Outcome → Option Failure
  | success _ _ => none
  | failure f => some f

def map (f : Value → Value) : Outcome → Outcome
  | success v rest => success (f v) rest
  | failure e => failure e

def toExcept : Outcome → Except Failure (Value × Cursor)
  | success v rest => .ok (v, rest)
  | failure f => .error f

/-- The value of a success; asking a failure for it is a fault. -/
def get : Outcome → Except Fault Value
  | success v _ => .ok v
  | failure f => .error (.noResult f.message f.parser f.rest.offset)

def same : Outcome → Outcome → Bool
  | success v rest, success v' rest' => v.same v' && rest == rest'
  | failure f, failure f' => f.same f'
  | _, _ => false

end Outcome
end Descent
