import Descent.Leaf

/-! # Grammars

A grammar is data: leaves, combinators, references to named rules, and parsers written by hand.
Those are scripts, which look at a cursor and either give an outcome or have another grammar run
first. -/
namespace Descent

/-- A parser is entered with what may be skipped still ahead, or right where it is. -/
inductive Mode where
  | parse | apply
deriving DecidableEq

mutual

inductive Grammar where
  | literal (expected : Text)
  | matching (m : Leaf.Matcher)
  | decimal
  | integer
  | atEnd
  | success (v : Value)
  | failure (message : String)
  | both (a b : Grammar)
  | either (a b : Grammar)
  | many (g : Grammar)
  | many1 (g : Grammar)
  | many1Sep (item separator : Grammar)
  | optional (g : Grammar)
  | absent (g : Grammar)
  | present (g : Grammar)
  | keepLeft (a b : Grammar)
  | keepRight (a b : Grammar)
  | sequence (gs : List Grammar)
  | spanned (g : Grammar)
  | named (name : String) (g : Grammar)
  | shared (g : Grammar)
  | map (f : Value → Value) (g : Grammar)
  | check (f : Value → Except String Value) (g : Grammar)
  | andThen (g : Grammar) (next : Value → Grammar)
  | rule (name : String)
  | script (name : String) (body : Cursor → Script)

inductive Script where
  | give (o : Outcome)
  | halt (f : Fault)
  | note (key : String) (next : Script)
  | run (mode : Mode) (g : Grammar) (c : Cursor) (next : Outcome → Script)

end

namespace Grammar

def between (opening g closing : Grammar) : Grammar := keepLeft (keepRight opening g) closing

def email : Grammar := matching Leaf.email

/-- What failures and log entries call a parser. -/
def name : Grammar → String
  | literal expected => Leaf.literalName expected
  | matching m => m.name
  | decimal => "decimal"
  | integer => "integer"
  | atEnd => "end"
  | success _ => "success"
  | failure _ => "failure"
  | both _ _ => "then"
  | either _ _ => "or"
  | many _ => "rep"
  | many1 _ => "rep1"
  | many1Sep _ _ => "rep1_sep"
  | optional _ => "opt"
  | absent _ => "not"
  | present _ => "guard"
  | keepLeft _ _ => "save_left"
  | keepRight _ _ => "save_right"
  | sequence _ => "sequence"
  | spanned g => g.name
  | named name _ => name
  | shared g => g.name
  | map _ _ => "map"
  | check _ _ => "try_map"
  | andThen _ _ => "and_then"
  | rule _ => "lazy"
  | script name _ => name

/-- The parser `g` under its own name, with a note each time it runs. -/
def counted (key : String) (g : Grammar) : Grammar :=
  script g.name fun c => .note key (.run .apply g c .give)

end Grammar

/-- What the named rules of a grammar stand for. -/
abbrev Rules := String → Grammar

end Descent
