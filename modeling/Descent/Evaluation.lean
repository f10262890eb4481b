import Descent.Grammar

/-! # Running a grammar

A run is approached in stages. Stage `n + 1` does one step of each job and leaves the jobs that come
up to stage `n`; stage 0 has no answer. A job is answered if some stage answers it, and later stages
give the same answer. -/
namespace Descent

inductive Event where
  /-- A parser that was entered to parse has failed; the offset is that of the failure. -/
  | failed (parser : String) (offset : Nat)
  | counted (key : String)
  /-- A rule was looked up and built. -/
  | built (rule : String)
deriving DecidableEq

/-- The events on the way, and what was come to. -/
structure Traced (α : Type) where
  log : List Event
  result : Except Fault α

/-- A computation that may have no answer yet. -/
def Run (α : Type) : Type := Option (Traced α)

namespace Run

variable {α β : Type}

def done (a : α) : Run α := some ⟨[], .ok a⟩

def lift (r : Except Fault α) : Run α := some ⟨[], r⟩

def log (e : Event) : Run Unit := some ⟨[e], .ok ()⟩

/-- A fault ends the computation; the events before it stay. -/
def bind (x : Run α) (f : α → Run β) : Run β :=
  match x with
  | none => none
  | some ⟨l, .error e⟩ => some ⟨l, .error e⟩
  | some ⟨l, .ok a⟩ => match f a with
    | none => none
    | some ⟨l', r⟩ => some ⟨l ++ l', r⟩

instance : Monad Run where
  pure := done
  bind := bind

/-- Goes on with the value of a success; a failure stays. -/
def onSuccess (x : Run Outcome) (f : Value → Cursor → Run Outcome) : Run Outcome := do
  match ← x with
  | .success v rest => f v rest
  | .failure e => return .failure e

end Run

/-- What can be asked of an evaluator: to run a parser in one of the two modes, to read on after an
item of a separated list, or to carry out a script. -/
inductive Job where
  | run (mode : Mode) (g : Grammar) (c : Cursor)
  | items (item separator : Grammar) (c : Cursor)
  | script (s : Script)

namespace Evaluation

open Run

variable (rules : Rules) (ask : Job → Run Outcome)

/-- Skips, runs the parser where that ends, and logs its failure. -/
def parse (g : Grammar) (c : Cursor) : Run Outcome := do
  let c ← lift c.skipAhead
  match ← ask (.run .apply g c) with
  | .success v rest => return .success v rest
  | .failure f =>
    log (.failed g.name f.rest.offset)
    return .failure f

def cons (v : Value) : Value → Value
  | .list vs => .list (v :: vs)
  | w => w

/-- Reads items with separators before them, until one of the two fails. -/
def items (item separator : Grammar) (c : Cursor) : Run Outcome := do
  match ← ask (.run .parse separator c) with
  | .failure _ => return .success (.list []) c
  | .success _ after =>
    match ← ask (.run .parse item after) with
    | .failure _ => return .success (.list []) c
    | .success v rest => return (← ask (.items item separator rest)).map (cons v)

def script : Script → Run Outcome
  | .give o => done o
  | .halt f => lift (.error f)
  | .note key next => do
    log (.counted key)
    ask (.script next)
  | .run mode g c next => do ask (.script (next (← ask (.run mode g c))))

/-- One step of a parser that does not skip. -/
def apply : Grammar → Cursor → Run Outcome
  | .literal expected, c => lift (Leaf.literal expected c)
  | .matching m, c => lift (m.read c)
  | .decimal, c => lift (Leaf.decimal c)
  | .integer, c => lift (Leaf.integer c)
  | .atEnd, c => done (Leaf.atEnd c)
  | .success v, c => done (.success v c)
  | .failure message, c => done (.fail c (.custom message) "failure")
  | .both a b, c =>
    onSuccess (ask (.run .parse a c)) fun v r => return (← ask (.run .parse b r)).map (.pair v)
  | .either a b, c => do
    match ← ask (.run .parse a c) with
    | .success v r => return .success v r
    | .failure _ => ask (.run .parse b c)
  | .many g, c => do
    match ← ask (.run .parse g c) with
    | .success v r => return (← ask (.run .apply (.many g) r)).map (cons v)
    | .failure _ => return .success (.list []) c
  | .many1 g, c =>
    onSuccess (ask (.run .parse g c)) fun v r =>
      return (← ask (.run .apply (.many g) r)).map (cons v)
  | .many1Sep item separator, c =>
    onSuccess (ask (.run .parse item c)) fun v r =>
      return (← ask (.items item separator r)).map (cons v)
  | .optional g, c => do
    match ← ask (.run .parse g c) with
    | .success v r => return .success (.some v) r
    | .failure _ => return .success .none c
  | .absent g, c => do
    match ← ask (.run .parse g c) with
    | .success _ _ => return .fail c (.unexpectedMatch g.name) "not"
    | .failure _ => return .success .unit c
  | .present g, c => do
    match ← ask (.run .parse g c) with
    | .success _ _ => return .success .unit c
    | .failure _ => return .fail c (.missingMatch g.name) "guard"
  | .keepLeft a b, c =>
    onSuccess (ask (.run .parse a c)) fun v r => return (← ask (.run .parse b r)).map fun _ => v
  | .keepRight a b, c => onSuccess (ask (.run .parse a c)) fun _ r => ask (.run .parse b r)
  | .sequence [], c => done (.success (.list []) c)
  | .sequence (g :: gs), c =>
    onSuccess (ask (.run .parse g c)) fun v r =>
      return (← ask (.run .apply (.sequence gs) r)).map (cons v)
  | .spanned g, c => do
    let start ← lift c.skipAhead
    onSuccess (ask (.run .parse g c)) fun v r => do
      let s ← lift (Span.within c.source start.offset r.offset)
      return .success (.spanned v s) r
  | .named _ g, c => ask (.run .apply g c)
  | .shared g, c => ask (.run .apply g c)
  | .map f g, c => return (← ask (.run .parse g c)).map f
  | .check f g, c =>
    onSuccess (ask (.run .parse g c)) fun v r =>
      match f v with
      | .ok w => return .success w r
      | .error message => return .fail c (.custom message) "try_map"
  | .andThen g next, c => onSuccess (ask (.run .parse g c)) fun v r => ask (.run .parse (next v) r)
  | .rule name, c => do
    log (.built name)
    ask (.run .parse (rules name) c)
  | .script _ body, c => ask (.script (body c))

/-- One step of a job, where `ask` answers the jobs that it raises. -/
def step : Job → Run Outcome
  | .run .parse g c => parse ask g c
  | .run .apply g c => apply rules ask g c
  | .items item separator c => items ask item separator c
  | .script s => script ask s

/-- The answers of a stage. -/
def stage : Nat → Job → Run Outcome
  | 0, _ => none
  | n + 1, job => step rules (stage n) job

end Evaluation

/-- The run of a parser, as far as the given number of stages answers it. -/
def Grammar.runWithin (rules : Rules) (stages : Nat) (mode : Mode) (g : Grammar) (c : Cursor) :
    Run Outcome :=
  Evaluation.stage rules stages (.run mode g c)

end Descent
