import Descent.Pattern.Reading
import Descent.Unicode.Word

/-! # Group openings and flags -/
namespace Descent.Pattern

inductive Flag where
  | ignoreCase | multiLine | dotAll | swapGreed | unicode | returns | extended
deriving DecidableEq

def flag? : Char → Option Flag
  | 'i' => some .ignoreCase
  | 'm' => some .multiLine
  | 's' => some .dotAll
  | 'U' => some .swapGreed
  | 'u' => some .unicode
  | 'R' => some .returns
  | 'x' => some .extended
  | _ => none

def Flag.put (on : Bool) (f : Flags) : Flag → Flags
  | ignoreCase => { f with ignoreCase := on }
  | multiLine => { f with multiLine := on }
  | dotAll => { f with dotAll := on }
  | swapGreed => { f with swapGreed := on }
  | extended => { f with extended := on }
  | unicode => { f with unicode := on }
  | returns => { f with returns := on }

/-- A flag, or the hyphen that turns the flags behind it off. -/
abbrev FlagItem := Option Flag × Extent

/-- Reads flags up to a colon or a closing parenthesis, which stays current. -/
def flagItems : Nat → List FlagItem → Reads (List FlagItem)
  | 0, items => return items
  | fuel + 1, items => do
    let p ← here
    match ← current? with
    | none => failAt p p .flagEnds
    | some ':' => close items
    | some ')' => close items
    | some c =>
      let item ← if c = '-' then pure none else match flag? c with
        | none => failAt p (p + 1) .flagUnknown
        | some f => pure (some f)
      match items.find? (·.1 == item) with
      | some (_, x) =>
        failAt p (p + 1) (if item.isNone then .negationRepeated else .flagDuplicate) (some x)
      | none =>
        if ← bump then flagItems fuel (items ++ [(item, ⟨p, p + 1⟩)])
        else failAt (p + 1) (p + 1) .flagEnds
where
  close (items : List FlagItem) : Reads (List FlagItem) :=
    match items.getLast? with
    | some (none, x) => failAt x.start x.stop .negationDangling
    | _ => return items

/-- The flags of `items` over those in force. -/
def applyFlags (f : Flags) (items : List FlagItem) : Flags :=
  (items.foldl (fun (on, f) (item, _) => match item with
    | none => (false, f)
    | some flag => (on, flag.put on f)) (true, f)).2

def isNameChar (first : Bool) (c : Char) : Bool :=
  if first then c == '_' || Unicode.isNameLetter c
  else c == '_' || c == '.' || c == '[' || c == ']' || Unicode.isNameCharacter c

/-- Reads the characters of a name up to the angle bracket. -/
def nameChars : Nat → Text → Reads Text
  | 0, name => return name
  | fuel + 1, name => do
    match ← current? with
    | none => return name
    | some '>' => return name
    | some c =>
      if isNameChar name.isEmpty c then
        let _ ← bump
        nameChars fuel (name ++ [c])
      else
        let p ← here
        failAt p (p + 1) .nameInvalid

/-- Reads a group name and the angle bracket behind it; no name may be given twice. -/
def groupName : Reads Unit := do
  let start ← here
  if (← current?).isNone then failAt start start .nameUnclosed
  else
    let name ← nameChars (← get).rest.length []
    let stop ← here
    if !(← bumpIf ['>']) then failAt stop stop .nameUnclosed
    else if name.isEmpty then failAt start start .nameEmpty
    else match (← get).names.lookup name with
      | some x => failAt start stop .nameDuplicate (some x)
      | none => modify fun s => { s with names := (name, ⟨start, stop⟩) :: s.names }

/-- What an opening parenthesis starts: a group, with the flags to set inside it and its number if
it captures, or nothing but new flags for what follows. -/
inductive Opening where
  | group (inside : Flags) (index : Option Nat)
  | flags (after : Flags)

def lookAround : Reads Bool := do
  if ← bumpIf ['?', '='] then return true
  else if ← bumpIf ['?', '!'] then return true
  else if ← bumpIf ['?', '<', '='] then return true
  else bumpIf ['?', '<', '!']

/-- The number of the next group that captures. -/
def nextIndex : Reads Nat := do
  modify fun s => { s with groups := s.groups + 1 }
  return (← get).groups

/-- Reads the start of a group; its parenthesis is current. -/
def groupOpen : Reads Opening := do
  let start ← here
  let _ ← bump
  skipBlank
  let inner ← here
  if ← lookAround then failAt start (← here) .lookAround
  else
    let f ← flags
    let named ← if ← bumpIf ['?', 'P', '<'] then pure true else bumpIf ['?', '<']
    if named then
      let index ← nextIndex
      groupName
      return .group f (some index)
    else if ← bumpIf ['?'] then
      if (← current?).isNone then failAt start (start + 1) .groupUnclosed
      else
        let items ← flagItems ((← get).rest.length + 1) []
        let closing ← current?
        let _ ← bump
        if closing = some ')' then
          if items.isEmpty then failAt inner inner .repetitionMissing
          else return .flags (applyFlags f items)
        else return .group (applyFlags f items) none
    else return .group f (some (← nextIndex))

end Descent.Pattern
