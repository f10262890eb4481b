import Descent.Number.Decimal
import Descent.Outcome

/-! # Leaves

What reads text without running other parsers. A leaf looks at the text ahead of its cursor and
skips nothing. -/
namespace Descent.Leaf

/-- Success with the given value after the text `read`. -/
def accept (c : Cursor) (read : Text) (v : Value) : Except Fault Outcome :=
  return .success v (← c.forward (Text.size read))

def literalName (expected : Text) : String := s!"literal[{String.ofList expected}]"

def literal (expected : Text) (c : Cursor) : Except Fault Outcome :=
  if expected.isPrefixOf c.ahead then accept c expected (.text expected)
  else
    let reason : Reason :=
      if c.ahead.isPrefixOf expected then .cutShort expected
      else .mismatch expected (c.ahead.take expected.length)
    .ok (.fail c reason (literalName expected))

/-- The text that an expression prefers at the cursor. -/
def matched? (r : Regex) (c : Cursor) : Option Text := (r.atStart c.ahead).map c.ahead.take

/-- A parser that yields what an expression matches: the expression, the name of the parser, and
how failures call what was expected. -/
structure Matcher where
  regex : Regex
  name : String
  expected : String

def Matcher.ofPattern (pattern : Text) (r : Regex) : Matcher :=
  ⟨r, s!"regex[{String.ofList pattern}]", s!"regex `{String.ofList pattern}`"⟩

def Matcher.read (m : Matcher) (c : Cursor) : Except Fault Outcome :=
  match matched? m.regex c with
  | some t => accept c t (.text t)
  | none => .ok (.fail c (.noMatch m.expected) m.name)

/-! ## The patterns of numbers and addresses -/

def among (cs : List Char) : Pattern := .chars true (.ranges (cs.map fun c => (c, c)))

def digitSet : CharSet := .range '0' '9'

def digits : Pattern := .repeated 1 none true (.chars true digitSet)

def optional (p : Pattern) : Pattern := .repeated 0 (some 1) true p

def sign : Pattern := optional (among ['+', '-'])

def integerPattern : Pattern := .cat sign digits

def integerRegex : Regex := integerPattern.toRegex

def decimalPattern : Pattern :=
  let fraction : Pattern := .cat (.literal ['.']) digits
  let whole : Pattern := .cat digits (optional fraction)
  let exponent : Pattern := .cat (among ['e', 'E']) (.cat sign digits)
  .cat sign (.cat (.alt whole fraction) (optional exponent))

def decimalRegex : Regex := decimalPattern.toRegex

def labelSet : CharSet := .ranges [('A', 'Z'), ('a', 'z'), ('0', '9'), ('-', '-')]

def localSet : CharSet :=
  .ranges [('A', 'Z'), ('a', 'z'), ('0', '9'), ('.', '.'), ('_', '_'), ('%', '%'), ('+', '+'),
    ('-', '-')]

def letterSet : CharSet := .ranges [('A', 'Z'), ('a', 'z')]

def emailPattern : Pattern :=
  let several (min : Nat) (s : CharSet) : Pattern := .repeated min none true (.chars true s)
  let point : Pattern := .literal ['.']
  .cat (several 1 localSet) (.cat (.literal ['@']) (.cat (several 1 labelSet)
    (.cat (.repeated 0 none true (.cat point (several 1 labelSet)))
      (.cat point (several 2 letterSet)))))

def emailRegex : Regex := emailPattern.toRegex

def email : Matcher := ⟨emailRegex, "email", "an email address"⟩

def decimal (c : Cursor) : Except Fault Outcome :=
  match matched? decimalRegex c with
  | none => .ok (.fail c .noDecimal "decimal")
  | some t => match Decimal.read? t with
    | some d => accept c t (.float d.toFloat)
    | none => .ok (.fail c (.badDecimal t) "decimal")

def integer (c : Cursor) : Except Fault Outcome :=
  match matched? integerRegex c with
  | none => .ok (.fail c .noInteger "integer")
  | some t => match Integer.read64 t with
    | .ok n => accept c t (.int n)
    | .error e => .ok (.fail c (.badInteger t e) "integer")

def atEnd (c : Cursor) : Outcome :=
  if c.atEnd then .success .unit c else .fail c (.notAtEnd (c.ahead.take 16)) "end"

end Descent.Leaf
