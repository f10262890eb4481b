import Descent.Grammar
import Descent.Vocabulary.Mapping

/-! # Continuations

What to run next, chosen by the value read so far. -/
namespace Descent.Continuation

def mismatch : Grammar := .failure "type mismatch"

/-- The same text again. -/
def same : Value → Grammar
  | .text t => .literal t
  | _ => mismatch

def closeTag : Value → Grammar
  | .text t => .literal ("</".toList ++ t ++ ['>'])
  | _ => mismatch

/-- A pattern as often as the number says; a number that is no count makes the pattern invalid. -/
def repeated (pattern : Text) : Value → Grammar
  | .int n =>
    let counted := pattern ++ "\x7b".toList ++ (toString n.toInt).toList ++ "\x7d".toList
    match Pattern.compileAnchored counted with
    | .ok r => .matching (.ofPattern counted r)
    | .error e => .failure e.message
  | _ => mismatch

/-- As many copies as the number says, at most a hundred. -/
def times (g : Grammar) : Value → Grammar
  | .int n => .sequence (List.replicate (min n.toInt.toNat 100) g)
  | _ => mismatch

/-- Operators with operands, folded from the left onto the value. -/
def leftFold (operator operand : Grammar) (v : Value) : Grammar :=
  .map (Mapping.foldOnto v) (.many (.both operator operand))

/-- The grammar beside the first equal value, or else the given one. -/
def switch (cases : List (Value × Grammar)) (default : Grammar) (v : Value) : Grammar :=
  match cases.find? fun (w, _) => w.same v with
  | some (_, g) => g
  | none => default

def succeed (v : Value) : Grammar := .success v

def fail : Value → Grammar
  | .text t => .failure (String.ofList t)
  | _ => mismatch

end Descent.Continuation
