import Descent.Proofs.Cursor
import Descent.Grammar

/-! # What leaves answer

A leaf sees nothing of its cursor but the text ahead. Its answer is to accept some characters of it
or to refuse, and it is one and the same at every cursor with this text ahead. -/
namespace Descent

namespace Leaf

inductive Answer where
  /-- The value read, and the number of characters. -/
  | accepts (v : Value) (n : Nat)
  | refuses (reason : Reason) (parser : String)

/-- What an answer comes to at a cursor: a refusal stays there. -/
def Answer.outcome (c : Cursor) : Answer → Outcome
  | accepts v n => .success v (c.past n)
  | refuses reason parser => .fail c reason parser

def answerLiteral (expected t : Text) : Answer :=
  if expected.isPrefixOf t then .accepts (.text expected) expected.length
  else if t.isPrefixOf expected then .refuses (.cutShort expected) (literalName expected)
  else .refuses (.mismatch expected (t.take expected.length)) (literalName expected)

def answerMatch (m : Matcher) (t : Text) : Answer :=
  match m.regex.atStart t with
  | some n => .accepts (.text (t.take n)) n
  | none => .refuses (.noMatch m.expected) m.name

def answerDecimal (t : Text) : Answer :=
  match decimalRegex.atStart t with
  | none => .refuses .noDecimal "decimal"
  | some n => match Decimal.read? (t.take n) with
    | some d => .accepts (.float d.toFloat) n
    | none => .refuses (.badDecimal (t.take n)) "decimal"

def answerInteger (t : Text) : Answer :=
  match integerRegex.atStart t with
  | none => .refuses .noInteger "integer"
  | some n => match Integer.read64 (t.take n) with
    | .ok i => .accepts (.int i) n
    | .error e => .refuses (.badInteger (t.take n) e) "integer"

def answerEnd (t : Text) : Answer :=
  if t.isEmpty then .accepts .unit 0 else .refuses (.notAtEnd (t.take 16)) "end"

variable (c : Cursor)

theorem accept_take (n : Nat) (v : Value) :
    accept c (c.ahead.take n) v = .ok (.success v (c.past n)) := by
  rw [accept, Cursor.forward_size_take]
  rfl

theorem literal_eq (expected : Text) :
    literal expected c = .ok ((answerLiteral expected c.ahead).outcome c) := by
  unfold literal answerLiteral
  split
  · rename_i h
    have ht : expected = c.ahead.take expected.length :=
      List.prefix_iff_eq_take.1 (List.isPrefixOf_iff_prefix.1 h)
    have ha := accept_take c expected.length (.text expected)
    rwa [← ht] at ha
  · dsimp only
    split <;> rfl

theorem read_eq (m : Matcher) : m.read c = .ok ((answerMatch m c.ahead).outcome c) := by
  unfold Matcher.read answerMatch matched?
  cases m.regex.atStart c.ahead with
  | none => rfl
  | some n => exact accept_take c _ _

theorem decimal_eq : decimal c = .ok ((answerDecimal c.ahead).outcome c) := by
  unfold decimal answerDecimal matched?
  cases decimalRegex.atStart c.ahead with
  | none => rfl
  | some n =>
    simp only [Option.map_some]
    cases Decimal.read? (c.ahead.take n) with
    | none => rfl
    | some d => exact accept_take c _ _

theorem integer_eq : integer c = .ok ((answerInteger c.ahead).outcome c) := by
  unfold integer answerInteger matched?
  cases integerRegex.atStart c.ahead with
  | none => rfl
  | some n =>
    simp only [Option.map_some]
    cases Integer.read64 (c.ahead.take n) with
    | error e => rfl
    | ok i => exact accept_take c _ _

theorem atEnd_eq : atEnd c = (answerEnd c.ahead).outcome c := by
  unfold atEnd answerEnd Cursor.atEnd
  split
  · simp [Answer.outcome]
  · rfl

end Leaf

/-- The answers of a grammar that runs no other. -/
def Grammar.leaf? : Grammar → Option (Text → Leaf.Answer)
  | literal expected => some (Leaf.answerLiteral expected)
  | matching m => some (Leaf.answerMatch m)
  | decimal => some Leaf.answerDecimal
  | integer => some Leaf.answerInteger
  | atEnd => some Leaf.answerEnd
  | success v => some fun _ => .accepts v 0
  | failure message => some fun _ => .refuses (.custom message) "failure"
  | _ => none

end Descent
