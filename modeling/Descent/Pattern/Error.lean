import Descent.Text.Basic

/-! # What can be wrong with a pattern

An error has a kind and a range of characters, and a second range where two places clash. The
report quotes the pattern and marks the ranges under its lines. -/
namespace Descent

/-- A range of characters of a pattern; it may be empty. -/
structure Extent where
  start : Nat
  stop : Nat
deriving DecidableEq

namespace Pattern

inductive ErrorKind where
  | classEscapeInvalid | classRangeInvalid | classRangeLiteral | classUnclosed
  | decimalInvalid | countEmpty | countInvalid | countUnclosed | repetitionMissing
  | escapeEnds | escapeUnknown | hexEmpty | hexInvalid | hexDigitInvalid
  | flagUnknown | flagDuplicate | flagEnds | negationDangling | negationRepeated
  | groupUnclosed | groupUnopened
  | nameDuplicate | nameEmpty | nameInvalid | nameUnclosed
  | boundaryUnclosed | boundaryUnknown | boundaryEnds
  | propertyInvalid | propertyUnknown | propertyValueUnknown
  | backreference | lookAround
  | beyondAscii | beyondText
  | nestedTooDeep
deriving DecidableEq

/-- How deep groups, classes, repetitions, rows and choices may lie in one another. -/
def maxNesting : Nat := 250

def ErrorKind.message : ErrorKind → String
  | classEscapeInvalid => "invalid escape sequence found in character class"
  | classRangeInvalid => "invalid character class range, the start must be <= the end"
  | classRangeLiteral => "invalid range boundary, must be a literal"
  | classUnclosed => "unclosed character class"
  | decimalInvalid => "decimal literal invalid"
  | countEmpty => "repetition quantifier expects a valid decimal"
  | countInvalid => "invalid repetition count range, the start must be <= the end"
  | countUnclosed => "unclosed counted repetition"
  | repetitionMissing => "repetition operator missing expression"
  | escapeEnds => "incomplete escape sequence, reached end of pattern prematurely"
  | escapeUnknown => "unrecognized escape sequence"
  | hexEmpty => "hexadecimal literal empty"
  | hexInvalid => "hexadecimal literal is not a Unicode scalar value"
  | hexDigitInvalid => "invalid hexadecimal digit"
  | flagUnknown => "unrecognized flag"
  | flagDuplicate => "duplicate flag"
  | flagEnds => "expected flag but got end of regex"
  | negationDangling => "dangling flag negation operator"
  | negationRepeated => "flag negation operator repeated"
  | groupUnclosed => "unclosed group"
  | groupUnopened => "unopened group"
  | nameDuplicate => "duplicate capture group name"
  | nameEmpty => "empty capture group name"
  | nameInvalid => "invalid capture group character"
  | nameUnclosed => "unclosed capture group name"
  | boundaryUnclosed =>
    "special word boundary assertion is either unclosed or contains an invalid character"
  | boundaryUnknown =>
    "unrecognized special word boundary assertion, valid choices are: start, end, start-half " ++
      "or end-half"
  | boundaryEnds =>
    "found either the beginning of a special word boundary or a bounded repetition on a " ++
      "\\b with an opening brace, but no closing brace"
  | propertyInvalid => "invalid Unicode character class"
  | propertyUnknown => "Unicode property not found"
  | propertyValueUnknown => "Unicode property value not found"
  | backreference => "backreferences are not supported"
  | lookAround => "look-around, including look-ahead and look-behind, is not supported"
  | beyondAscii => "Unicode not allowed here"
  | beyondText => "pattern can match invalid UTF-8"
  | nestedTooDeep => s!"exceed the maximum number of nested parentheses/brackets ({maxNesting})"

structure SyntaxError where
  kind : ErrorKind
  extent : Extent
  clash : Option Extent := none
deriving DecidableEq

/-- Line and column of a character of the text, both from 1. -/
def place (t : Text) (i : Nat) : Nat × Nat :=
  let read := t.take i
  (read.count '\n' + 1, (read.reverse.takeWhile (· ≠ '\n')).length + 1)

namespace SyntaxError

def extents (e : SyntaxError) : List Extent :=
  match e.clash with
  | none => [e.extent]
  | some x => if x.start < e.extent.start then [x, e.extent] else [e.extent, x]

/-- Carets under the columns of each range, at least one for each. -/
def carets (ranges : List (Nat × Nat)) : List Char :=
  ranges.foldl (fun out (first, stop) =>
    out ++ List.replicate (first - 1 - out.length) ' ' ++
      List.replicate (Nat.max 1 (stop - first)) '^') []

/-- The lines to show: a last line that is empty is left out, and a carriage return before the line
feed belongs to the line end. -/
def shownLines (t : Text) : List Text :=
  let ls := Text.lines t
  let shown := if ls.getLast? = some [] then ls.dropLast else ls
  shown.zipIdx.map fun (l, i) =>
    if i + 1 < ls.length ∧ l.getLast? = some '\r' then l.dropLast else l

/-- The pattern with its marked ranges and the kind of error. -/
def report (e : SyntaxError) (t : Text) : String :=
  let many := t.contains '\n'
  let shown := shownLines t
  let count := (Text.lines t).length
  let width := if count ≤ 1 then 0 else (toString count).length
  let padding := if width = 0 then 4 else width + 2
  let placed := e.extents.map fun x => (place t x.start, place t x.stop)
  let body := shown.zipIdx.map fun (line, i) =>
    let number := toString (i + 1)
    let margin := if width = 0 then "    "
      else String.ofList (List.replicate (width - number.length) ' ') ++ number ++ ": "
    let marks := placed.filterMap fun (a, b) =>
      if a.1 = i + 1 ∧ b.1 = i + 1 then some (a.2, b.2) else none
    let note := if marks.isEmpty then "" else
      String.ofList (List.replicate padding ' ' ++ carets marks) ++ "\n"
    margin ++ String.ofList line ++ "\n" ++ note
  let divider := if many then String.ofList (List.replicate 79 '~') ++ "\n" else ""
  let across := placed.filterMap fun (a, b) =>
    if a.1 = b.1 then none
    else some s!"on line {a.1} (column {a.2}) through line {b.1} (column {b.2 - 1})\n"
  "regex parse error:\n" ++ divider ++ String.join body ++ divider ++
    (if many then String.join across else "") ++ "error: " ++ e.kind.message

end SyntaxError
end Pattern
end Descent
