import Descent.Fault
import Descent.Text.Basic

/-! # Spans of a source -/
namespace Descent

/-- The bytes of a source from `start` up to `stop`. -/
structure Span where
  source : Text
  start : Nat
  stop : Nat
deriving DecidableEq

namespace Span

/-- A span within the source; its ends are not asked to fall between characters. -/
def within (source : Text) (start stop : Nat) : Except Fault Span :=
  if start ≤ stop ∧ stop ≤ Text.size source then .ok ⟨source, start, stop⟩ else .error .badSpan

def length (s : Span) : Nat := s.stop - s.start

def isEmpty (s : Span) : Bool := s.start == s.stop

/-- The text of the span, whose ends must fall between characters. -/
def text (s : Span) : Except Fault Text :=
  match (Text.cut s.stop s.source).bind fun (read, _) => Text.cut s.start read with
  | some (_, piece) => .ok piece
  | none => .error .badSlice

def display (s : Span) : String := s!"{s.start}..{s.stop}"

end Span
end Descent
