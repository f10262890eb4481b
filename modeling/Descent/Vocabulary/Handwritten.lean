import Descent.Grammar

/-! # Parsers written by hand -/
namespace Descent.Handwritten

/-- Goes on at another cursor, if there is one. -/
def continueAt (c : Except Fault Cursor) (next : Cursor → Outcome) : Script :=
  match c with
  | .ok c => .give (next c)
  | .error f => .halt f

def fail (name : String) (c : Cursor) (message : String) : Outcome := .fail c (.custom message) name

/-- One character of a kind. -/
def character (name : String) (accepts : Char → Bool) (expected : String) : Grammar :=
  .script name fun c => match c.ahead with
    | [] => .give (fail name c s!"expected {expected}")
    | x :: _ =>
      if accepts x then continueAt (c.forward x.utf8Size) (.success (.text [x]))
      else .give (fail name c s!"expected {expected}")

def vowel (name : String) : Grammar := character name ("aeiou".toList.contains ·) "a vowel"

def uppercase (name : String) : Grammar := character name Unicode.isCapital "an uppercase letter"

/-- A number of characters; too few are refused at the end of the source. -/
def take (name : String) (n : Nat) : Grammar :=
  .script name fun c =>
    let t := c.ahead.take n
    if t.length < n then
      continueAt (c.forward (Text.size c.ahead)) fun c => fail name c s!"expected {n} characters"
    else continueAt (c.forward (Text.size t)) (.success (.text t))

def jump (name : String) (offset : Nat) : Grammar :=
  .script name fun c => continueAt (c.advance offset) (.success .unit)

def failAt (name : String) (offset : Nat) (message : String) : Grammar :=
  .script name fun c => continueAt (c.advance offset) fun c => fail name c message

/-- Reads nothing and tells the offset and the skip pattern. -/
def state (name : String) : Grammar :=
  .script name fun c =>
    let skip := match c.skip with
      | some k => Value.some (.text k.pattern)
      | none => Value.none
    .give (.success (.pair (.int (Int64.ofNat c.offset)) skip) c)

def remaining (name : String) : Grammar :=
  .script name fun c =>
    continueAt (c.forward (Text.size c.ahead)) (.success (.text c.ahead))

/-- Runs a parser right where it is. -/
def raw (name : String) (g : Grammar) : Grammar := .script name fun c => .run .apply g c .give

/-- Runs a parser with nothing to skip; a success goes on as before. -/
def noSkip (name : String) (g : Grammar) : Grammar :=
  .script name fun c => .run .parse g { c with skip := none } fun
    | .success v r => continueAt (c.advance r.offset) (.success v)
    | .failure f => .give (.failure f)

end Descent.Handwritten
