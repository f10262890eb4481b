import Descent.Cursor
import Descent.Number.Integer
import Descent.Text.Location

/-! # Failures

A failure says where a parser gave up, which one it was and why. -/
namespace Descent

inductive Reason where
  /-- The remaining text differs from the expected one. -/
  | mismatch (expected found : Text)
  /-- The remaining text is the start of the expected one. -/
  | cutShort (expected : Text)
  | noMatch (expected : String)
  | noDecimal
  | noInteger
  | badDecimal (found : Text)
  | badInteger (found : Text) (e : IntegerError)
  | notAtEnd (found : Text)
  | unexpectedMatch (parser : String)
  | missingMatch (parser : String)
  | custom (message : String)
deriving DecidableEq

def Reason.message : Reason → String
  | mismatch expected found =>
    s!"expected `{String.ofList expected}`, found `{String.ofList found}`"
  | cutShort expected => s!"expected `{String.ofList expected}`, but reached end of input"
  | noMatch expected => s!"input does not match {expected}"
  | noDecimal => "expected a decimal number"
  | noInteger => "expected an integer"
  | badDecimal found => s!"invalid decimal `{String.ofList found}`: invalid float literal"
  | badInteger found e => s!"invalid integer `{String.ofList found}`: {e.message}"
  | notAtEnd found => s!"expected end of input, found `{String.ofList found}`"
  | unexpectedMatch parser => s!"negative lookahead failed: unexpected match of {parser}"
  | missingMatch parser => s!"positive lookahead failed: no match of {parser}"
  | custom message => message

structure Failure where
  rest : Cursor
  reason : Reason
  parser : String
deriving DecidableEq

namespace Failure

def message (f : Failure) : String := f.reason.message

/-- Reasons count by what they say. -/
def same (f g : Failure) : Bool :=
  f.rest == g.rest && f.message == g.message && f.parser == g.parser

def location (f : Failure) : Location := ⟨f.rest.source, f.rest.offset⟩

/-- The failure with its place and the lines around it. -/
def display (f : Failure) : Except Fault String := do
  let p ← f.location.position
  let lines ← f.location.contextLines
  return s!"Syntax error at line {p.line}, byte offset {p.byteOffset} in {f.parser}: " ++
    s!"{f.message}\n\n" ++ String.join (lines.map fun l => String.ofList l ++ "\n")

end Failure
end Descent
