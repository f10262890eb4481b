import Descent.Pattern.Read
import Descent.Pattern.Weight
import Descent.Regex.Search

/-! # Patterns made ready to search

A pattern is compiled as given, or held to the start of the text. The second adds text around the
pattern, so a pattern whose parentheses do not pair up can reach outside of what is added. -/
namespace Descent

theorem ok_of_toOption {ε α : Type} {x : Except ε α} {a : α} (h : x.toOption = some a) :
    x = .ok a := by
  cases x with
  | error => cases h
  | ok => exact congrArg Except.ok (Option.some.inj h)

inductive PatternProblem where
  | malformed (e : Pattern.SyntaxError)
  | tooLarge
deriving DecidableEq

structure PatternError where
  pattern : Text
  /-- What was read: the pattern with what was added to it. -/
  spelled : Text
  problem : PatternProblem
deriving DecidableEq

def PatternError.message (e : PatternError) : String :=
  let problem := match e.problem with
    | .malformed error => error.report e.spelled
    | .tooLarge => s!"Compiled regex exceeds size limit of {Pattern.maxWeight} bytes."
  s!"invalid pattern `{String.ofList e.pattern}`: {problem}"

namespace Pattern

def compileAs (pattern spelled : Text) (flags : Flags) : Except PatternError Regex :=
  match read spelled flags with
  | .error e => .error ⟨pattern, spelled, .malformed e⟩
  | .ok p => if p.isTooLarge then .error ⟨pattern, spelled, .tooLarge⟩ else .ok p.toRegex

def compile (pattern : Text) (flags : Flags := {}) : Except PatternError Regex :=
  compileAs pattern pattern flags

def anchoredText (pattern : Text) : Text := ['^', '(', '?', ':'] ++ pattern ++ [')']

/-- The error speaks of the pattern, and shows the text that was read. -/
def compileAnchored (pattern : Text) : Except PatternError Regex :=
  compileAs pattern (anchoredText pattern) {}

end Pattern
end Descent
