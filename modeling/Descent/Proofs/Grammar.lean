import Descent.Grammar

/-! # Parts of grammars

What can be run by the steps of a grammar, rules apart. A condition that holds of a grammar with all
its parts goes over to the parts, so it need not be spelled out for each form. -/
namespace Descent.Grammar

/-- The parts at the head of a grammar. -/
inductive Part : Grammar → Grammar → Prop where
  | bothLeft (a b : Grammar) : Part a (both a b)
  | bothRight (a b : Grammar) : Part b (both a b)
  | eitherLeft (a b : Grammar) : Part a (either a b)
  | eitherRight (a b : Grammar) : Part b (either a b)
  | many (g : Grammar) : Part g (many g)
  | many1 (g : Grammar) : Part g (many1 g)
  | item (a b : Grammar) : Part a (many1Sep a b)
  | separator (a b : Grammar) : Part b (many1Sep a b)
  | optional (g : Grammar) : Part g (optional g)
  | absent (g : Grammar) : Part g (absent g)
  | present (g : Grammar) : Part g (present g)
  | kept (a b : Grammar) : Part a (keepLeft a b)
  | dropped (a b : Grammar) : Part b (keepLeft a b)
  | droppedFirst (a b : Grammar) : Part a (keepRight a b)
  | keptLast (a b : Grammar) : Part b (keepRight a b)
  | member {g : Grammar} {gs : List Grammar} : g ∈ gs → Part g (sequence gs)
  | spanned (g : Grammar) : Part g (spanned g)
  | named (name : String) (g : Grammar) : Part g (named name g)
  | shared (g : Grammar) : Part g (shared g)
  | map (f : Value → Value) (g : Grammar) : Part g (map f g)
  | check (f : Value → Except String Value) (g : Grammar) : Part g (check f g)
  | first (g : Grammar) (next : Value → Grammar) : Part g (andThen g next)
  | next (g : Grammar) (next : Value → Grammar) (v : Value) : Part (next v) (andThen g next)

/-- The grammar with other parts at its head: `operand` stands for those that are parsed, `body` for
those that are run right where the whole is. -/
def mapParts (operand body : Grammar → Grammar) : Grammar → Grammar
  | both a b => both (operand a) (operand b)
  | either a b => either (operand a) (operand b)
  | many g => many (operand g)
  | many1 g => many1 (operand g)
  | many1Sep a b => many1Sep (operand a) (operand b)
  | optional g => optional (operand g)
  | absent g => absent (operand g)
  | present g => present (operand g)
  | keepLeft a b => keepLeft (operand a) (operand b)
  | keepRight a b => keepRight (operand a) (operand b)
  | sequence gs => sequence (gs.map operand)
  | spanned g => spanned (operand g)
  | named name g => named name (body g)
  | shared g => shared (body g)
  | map f g => map f (operand g)
  | check f g => check f (operand g)
  | andThen g next => andThen (operand g) fun v => operand (next v)
  | g => g

theorem mapParts_id (g : Grammar) : g.mapParts id id = g := by
  cases g <;> simp [mapParts]

/-- The condition holds of a grammar, of its parts and of theirs. -/
inductive Everywhere (P : Grammar → Prop) : Grammar → Prop where
  | intro {g : Grammar} : P g → (∀ h, Part h g → Everywhere P h) → Everywhere P g

namespace Everywhere

variable {P : Grammar → Prop} {g h : Grammar}

theorem head (hg : Everywhere P g) : P g := by
  cases hg with
  | intro hp _ => exact hp

theorem part (hg : Everywhere P g) (hp : Part h g) : Everywhere P h := by
  cases hg with
  | intro _ hparts => exact hparts h hp

end Everywhere
end Descent.Grammar
