import Descent.Value

/-! # Mappings of values

Each mapping expects values of one shape and leaves all others as they are. -/
namespace Descent.Mapping

def first : Value → Value
  | .pair a _ => a
  | v => v

def second : Value → Value
  | .pair _ b => b
  | v => v

def swap : Value → Value
  | .pair a b => .pair b a
  | v => v

/-- Bytes of a text, items of a list. -/
def length : Value → Value
  | .text t => .int (Int64.ofNat (Text.size t))
  | .list vs => .int (Int64.ofNat vs.length)
  | v => v

def texts? : List Value → Option Text
  | [] => some []
  | .text t :: vs => (texts? vs).map (t ++ ·)
  | _ => none

def concat : Value → Value
  | .list vs => match texts? vs with
    | some t => .text t
    | none => .list vs
  | v => v

/-- Puts the first of a pair in front of the list that is the second. -/
def cons : Value → Value
  | .pair v (.list vs) => .list (v :: vs)
  | v => v

def add (n : Int64) : Value → Value
  | .int m => .int (m + n)
  | v => v

/-! ## Left folds of operators and operands -/

/-- Integers wrap, and their division truncates and is zero for the divisor zero. Any operator but
three divides. -/
def operate (op : Text) : Value → Value → Option Value
  | .int a, .int b => some <| .int <|
    if op = ['+'] then a + b else if op = ['-'] then a - b else if op = ['*'] then a * b else a / b
  | .float a, .float b => some <| .float <|
    if op = ['+'] then a + b else if op = ['-'] then a - b else if op = ['*'] then a * b else a / b
  | _, _ => none

/-- Applies pairs of an operator and a right operand, from the left. Without any, no shape is asked
of the first value. -/
def foldFrom : Value → List Value → Option Value
  | v, [] => some v
  | v, .pair (.text op) w :: steps => (operate op v w).bind fun u => foldFrom u steps
  | _, _ :: _ => none

def fold : Value → Value
  | .pair v (.list steps) => (foldFrom v steps).getD (.pair v (.list steps))
  | v => v

/-- Folds a list of pairs on from a value that is known before. -/
def foldOnto (v : Value) : Value → Value
  | .list steps => (foldFrom v steps).getD (.list steps)
  | w => w

end Descent.Mapping
