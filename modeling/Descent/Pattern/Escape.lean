import Descent.Pattern.Property
import Descent.Pattern.Reading

/-! # Escape sequences -/
namespace Descent.Pattern

/-- What one escape sequence or one plain character stands for. -/
inductive Primitive where
  | literal (c : Char)
  | set (s : CharSet)
  | anchor (a : Anchor)
deriving DecidableEq

structure Placed where
  primitive : Primitive
  extent : Extent

def isMeta (c : Char) : Bool := "\\.+*?()|[]\x7b\x7d^$#&-~".toList.contains c

def isEscapable (c : Char) : Bool :=
  isMeta c || (c.toNat < 128 && !c.isAlphanum && c != '<' && c != '>')

def hexValue? (c : Char) : Option Nat :=
  if '0' ≤ c ∧ c ≤ '9' then some (c.toNat - '0'.toNat)
  else if 'a' ≤ c ∧ c ≤ 'f' then some (c.toNat - 'a'.toNat + 10)
  else if 'A' ≤ c ∧ c ≤ 'F' then some (c.toNat - 'A'.toNat + 10)
  else none

/-- The character with the given code point, which neither a surrogate nor a number that is too
large has. -/
def scalar? (n : Nat) : Option Char := if n.isValidChar then some (Char.ofNat n) else none

/-- Reads `count` digits from the current character on, `value` being that of the digits before. -/
def fixedHex : Nat → Nat → Reads Nat
  | 0, value => return value
  | count + 1, value => do
    let p ← here
    match ← current? with
    | none => failAt p p .escapeEnds
    | some c => match hexValue? c with
      | none => failAt p (p + 1) .hexDigitInvalid
      | some d =>
        let more ← bumpBlank
        if count ≠ 0 ∧ !more then
          let p ← here
          failAt p p .escapeEnds
        else fixedHex count (value * 16 + d)

/-- Reads digits up to the closing brace; `digits` counts them. -/
def bracedHex : Nat → Nat → Nat → Reads (Nat × Nat)
  | 0, digits, value => return (digits, value)
  | fuel + 1, digits, value => do
    match ← current? with
    | none => return (digits, value)
    | some '\x7d' => return (digits, value)
    | some c => match hexValue? c with
      | none =>
        let p ← here
        failAt p (p + 1) .hexDigitInvalid
      | some d =>
        let _ ← bumpBlank
        bracedHex fuel (digits + 1) (value * 16 + d)

/-- A code point in hexadecimal: the letter of the escape is current, and says how many digits there
are unless they stand in braces. Also tells whether they do. -/
def hexEscape (letter : Char) : Reads (Char × Bool) := do
  let more ← bumpBlank
  let p ← here
  if !more then failAt p p .escapeEnds
  else match ← current? with
  | some '\x7b' =>
    let _ ← bumpBlank
    let (digits, value) ← bracedHex (← get).rest.length 0 0
    let stop ← here
    if (← current?).isNone then failAt p stop .escapeEnds
    else
      let _ ← bumpBlank
      if digits = 0 then failAt p (← here) .hexEmpty
      else match scalar? value with
        | none => failAt (p + 1) stop .hexInvalid
        | some c => return (c, true)
  | _ =>
    let value ← fixedHex (if letter = 'x' then 2 else if letter = 'u' then 4 else 8) 0
    match scalar? value with
    | none => failAt p (← here) .hexInvalid
    | some c => return (c, false)

/-- Reads up to the closing brace. -/
def bracedName : Nat → List Char → Reads (List Char)
  | 0, name => return name
  | fuel + 1, name => do
    match ← current? with
    | none => return name
    | some '\x7d' => return name
    | some c =>
      let _ ← bumpBlank
      bracedName fuel (name ++ [c])

/-- The set of a property, whose escape started at `start` and has been read. -/
def namedSet (start : Nat) (name : List Char) (negated : Bool) : Reads CharSet := do
  let x : Extent := ⟨start, ← here⟩
  let f ← flags
  match f.unicode, propertySet name with
  | false, _ =>
    failLate x .beyondAscii
    return .none
  | true, .error kind =>
    failLate x kind
    return .none
  | true, .ok s =>
    let s := if f.ignoreCase then CharSet.fold s else s
    return if negated then .compl s else s

def propertyEscape (start : Nat) (negated : Bool) : Reads CharSet := do
  let more ← bumpBlank
  let p ← here
  if !more then failAt p p .escapeEnds
  else match ← current? with
  | some '\x7b' =>
    let _ ← bumpBlank
    let name ← bracedName (← get).rest.length []
    let p ← here
    if (← current?).isNone then failAt p p .escapeEnds
    else
      let _ ← bump
      namedSet start name negated
  | some '\\' => failAt p (p + 1) .propertyInvalid
  | some c =>
    let _ ← bumpBlank
    namedSet start [c] negated
  | none => failAt p p .escapeEnds

/-- Reads letters and hyphens. -/
def boundaryName : Nat → List Char → Reads (List Char)
  | 0, name => return name
  | fuel + 1, name => do
    match ← current? with
    | some c =>
      if c.isAlpha || c == '-' then
        let _ ← bumpBlank
        boundaryName fuel (name ++ [c])
      else return name
    | none => return name

/-- A brace after a word boundary names a special one, unless it starts a repetition: then nothing
is read. -/
def specialBoundary (start : Nat) (k : WordKind) : Reads (Option Anchor) := do
  let before ← get
  let brace ← here
  let more ← bumpBlank
  let contents ← here
  if !more then failAt start contents .boundaryEnds
  else
    let name ← boundaryName before.rest.length []
    if name.isEmpty then
      set before
      return none
    else
      let stop ← here
      if (← current?) ≠ some '\x7d' then failAt brace stop .boundaryUnclosed
      else
        let _ ← bump
        match String.ofList name with
        | "start" => return some (.wordStart k)
        | "end" => return some (.wordEnd k)
        | "start-half" => return some (.wordStartHalf k)
        | "end-half" => return some (.wordEndHalf k)
        | _ => failAt contents stop .boundaryUnknown

/-- The escapes of one letter that stand for one character. -/
def controlEscape? : Char → Option Char
  | 'a' => some '\x07'
  | 'f' => some '\x0c'
  | 't' => some '\t'
  | 'n' => some '\n'
  | 'r' => some '\r'
  | 'v' => some '\x0b'
  | _ => none

def anchorEscape? (k : WordKind) : Char → Option Anchor
  | 'A' => some .textStart
  | 'z' => some .textEnd
  | 'b' => some (.wordBoundary k)
  | 'B' => some (.notWordBoundary k)
  | '<' => some (.wordStart k)
  | '>' => some (.wordEnd k)
  | _ => none

def asciiDigit : CharSet := .range '0' '9'

def asciiSpace : CharSet := .ranges [('\t', '\r'), (' ', ' ')]

def asciiWord : CharSet := .ranges [('0', '9'), ('A', 'Z'), ('_', '_'), ('a', 'z')]

/-- The sets of digits, white space and word characters, and whether the letter is that of the
complement. -/
def setEscape? (unicode : Bool) : Char → Option (CharSet × Bool)
  | 'd' => some (digits, false)
  | 's' => some (space, false)
  | 'w' => some (word, false)
  | 'D' => some (digits, true)
  | 'S' => some (space, true)
  | 'W' => some (word, true)
  | _ => none
where
  digits : CharSet := if unicode then .category .decimalNumber else asciiDigit
  space : CharSet := if unicode then .whiteSpace else asciiSpace
  word : CharSet := if unicode then .word else asciiWord

/-- The complement of an ASCII set would hold parts of characters. -/
def complement (x : Extent) (s : CharSet) : Reads CharSet := do
  if !(← flags).unicode then failLate x .beyondText
  return .compl s

/-- Reads one escape sequence; the backslash is current. -/
def escape : Reads Placed := do
  let start ← here
  let more ← bump
  let p ← here
  match more, ← current? with
  | true, some c =>
    if c.isDigit then failAt start (p + 1) .backreference
    else if c = 'x' ∨ c = 'u' ∨ c = 'U' then
      let (d, braced) ← hexEscape c
      let x : Extent := ⟨start, ← here⟩
      if c = 'x' ∧ !braced ∧ 127 < d.toNat ∧ !(← flags).unicode then failLate x .beyondText
      return ⟨.literal d, x⟩
    else if c = 'p' ∨ c = 'P' then
      let s ← propertyEscape start (c == 'P')
      return ⟨.set s, ⟨start, ← here⟩⟩
    else
      let _ ← bump
      let x : Extent := ⟨start, ← here⟩
      let f ← flags
      let k : WordKind := if f.unicode then .full else .ascii
      if isEscapable c then return ⟨.literal c, x⟩
      else match controlEscape? c, setEscape? f.unicode c, anchorEscape? k c with
        | some d, _, _ => return ⟨.literal d, x⟩
        | _, some (s, negated), _ => return ⟨.set (← if negated then complement x s else pure s), x⟩
        | _, _, some a =>
          if c = 'b' ∧ (← current?) = some '\x7b' then
            let special ← specialBoundary start k
            return ⟨.anchor (special.getD a), ⟨start, ← here⟩⟩
          else return ⟨.anchor a, x⟩
        | _, _, _ => failAt start (← here) .escapeUnknown
  | _, _ => failAt start p .escapeEnds

end Descent.Pattern
