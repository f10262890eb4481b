import Descent.Pattern.Reading

/-! # Repetition operators -/
namespace Descent.Pattern

/-- How often: at least, and at most if there is a bound. -/
abbrev Count := Nat × Option Nat

def skipSpace : Nat → Reads Unit
  | 0 => return
  | fuel + 1 => do
    match ← current? with
    | some c =>
      if Unicode.isWhiteSpace c then
        let _ ← bumpBlank
        skipSpace fuel
      else return
    | none => return

def digits : Nat → Text → Reads Text
  | 0, ds => return ds
  | fuel + 1, ds => do
    match ← current? with
    | some c =>
      if c.isDigit then
        let _ ← bumpBlank
        digits fuel (ds ++ [c])
      else return ds
    | none => return ds

/-- A number with white space around it, or the error of not being one that fits in 32 bits. -/
def decimal : Reads (Except SyntaxError Nat) := do
  let fuel := (← get).rest.length
  skipSpace fuel
  let start ← here
  let ds ← digits fuel []
  let stop ← here
  skipSpace fuel
  let value := ds.foldl (fun n c => n * 10 + (c.toNat - '0'.toNat)) 0
  if ds.isEmpty then return .error ⟨.countEmpty, ⟨start, stop⟩, none⟩
  else if value < 4294967296 then return .ok value
  else return .error ⟨.decimalInvalid, ⟨start, stop⟩, none⟩

/-- Reads a count in braces; its opening brace, at `start`, has been read. -/
def braced (start : Nat) : Reads Count := do
  let unclosed {α : Type} : Reads α := do failAt start (← here) .countUnclosed
  let first ← decimal
  match ← current? with
  | none => unclosed
  | some ',' =>
    if !(← bumpBlank) then unclosed
    else if (← current?) = some '\x7d' then
      let min ← first
      return (min, none)
    else
      let min ← first
      let max ← (← decimal)
      if (← current?) = some '\x7d' then return (min, some max) else unclosed
  | some c =>
    let n ← first
    if c = '\x7d' then return (n, some n) else unclosed

/-- A question mark behind an operator makes it lazy. -/
def lazyMark : Reads Bool := bumpIf ['?']

/-- Reads a repetition operator; its first character is current. -/
def operator (c : Char) : Reads (Count × Bool) := do
  let start ← here
  if c = '\x7b' then
    if !(← bumpBlank) then failAt start (← here) .countUnclosed
    else
      let (min, max) ← braced start
      let _ ← bumpBlank
      let isLazy ← lazyMark
      if max.all (min ≤ ·) then return ((min, max), !isLazy)
      else failAt start (← here) .countInvalid
  else
    let _ ← bump
    let isLazy ← lazyMark
    let count := if c = '?' then (0, some 1) else if c = '*' then (0, none) else (1, none)
    return (count, !isLazy)

end Descent.Pattern
