import Descent.Text.Span

/-! # Values

What a parser can yield. Integers have 64 bits and wrap; floats follow IEEE arithmetic, comparison
included. -/
namespace Descent

inductive Value where
  | text (t : Text)
  | unit
  | int (n : Int64)
  | float (x : Float)
  | list (vs : List Value)
  | pair (a b : Value)
  | none
  | some (v : Value)
  | tagged (tag : String) (v : Value)
  | spanned (v : Value) (s : Span)

namespace Value

mutual

/-- Structural equality, but for floats: there zeros are equal and no NaN equals itself. -/
def same : Value → Value → Bool
  | text t, text t' => t == t'
  | unit, unit => true
  | int n, int n' => n == n'
  | float x, float x' => x == x'
  | list vs, list vs' => sameAll vs vs'
  | pair a b, pair a' b' => a.same a' && b.same b'
  | none, none => true
  | some v, some v' => v.same v'
  | tagged t v, tagged t' v' => t == t' && v.same v'
  | spanned v s, spanned v' s' => v.same v' && s == s'
  | _, _ => false

def sameAll : List Value → List Value → Bool
  | [], [] => true
  | v :: vs, v' :: vs' => v.same v' && sameAll vs vs'
  | _, _ => false

end

end Value
end Descent
