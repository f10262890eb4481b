import Descent.Number.Integer
import Descent.Value

/-! # Checks of values

A check passes a value on, perhaps converted, or says what is wrong with it. -/
namespace Descent.Check

def mismatch : Except String Value := .error "type mismatch"

def converted (r : Except IntegerError Int64) : Except String Value :=
  match r with
  | .ok n => .ok (.int n)
  | .error e => .error e.message

/-- A text that spells a number from 0 to 255. -/
def byte : Value → Except String Value
  | .text t => converted (Integer.readByte t)
  | _ => mismatch

/-- A text that spells a number of 64 bits. -/
def integer : Value → Except String Value
  | .text t => converted (Integer.read64 t)
  | _ => mismatch

def even : Value → Except String Value
  | .int n => if n % 2 == 0 then .ok (.int n) else .error s!"{n.toInt} is not even"
  | _ => mismatch

def maxLength (n : Nat) : Value → Except String Value
  | .text t =>
    if Text.size t ≤ n then .ok (.text t)
    else .error s!"`{String.ofList t}` is longer than {n} bytes"
  | .list vs =>
    if vs.length ≤ n then .ok (.list vs) else .error s!"{vs.length} items is more than {n}"
  | _ => mismatch

def refuse (message : String) : Value → Except String Value := fun _ => .error message

end Descent.Check
