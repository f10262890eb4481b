import Descent.Proofs.Evaluation.Comparison
import Descent.Proofs.Grammar

/-! # Grammars of the same form

Two grammars have the same form if they are made alike of parts that correspond. What corresponds is
left open: cursors, values and failures of the two sides are compared by relations that the steps of
the evaluator keep. Then a run of the one side is led by runs of the other, as far as this holds of
the runs of their parts. -/
namespace Descent

inductive Outcome.Related (value : Value → Value → Prop) (cursor : Cursor → Cursor → Prop)
    (failure : Failure → Failure → Prop) : Outcome → Outcome → Prop where
  | success {v w : Value} {c d : Cursor} :
    value v w → cursor c d → Related value cursor failure (.success v c) (.success w d)
  | failure {e f : Failure} : failure e f → Related value cursor failure (.failure e) (.failure f)

/-- Reasons that differ at most in the name of the operand that lookahead quotes. -/
inductive Reason.Alike : Reason → Reason → Prop where
  | same (r : Reason) : Alike r r
  | unexpectedMatch (p q : String) : Alike (.unexpectedMatch p) (.unexpectedMatch q)
  | missingMatch (p q : String) : Alike (.missingMatch p) (.missingMatch q)

/-- What corresponds on two sides of a comparison, closed under all that the evaluator does. -/
structure Correspondence where
  cursor : Cursor → Cursor → Prop
  value : Value → Value → Prop
  failure : Failure → Failure → Prop
  /-- Names of operands that lookahead may quote in the place of one another. -/
  quoted : String → String → Prop
  /-- Rules that are called in the place of one another. -/
  called : String → String → Prop
  leaf : Grammar → Prop
  /-- Whether spans may be compared. -/
  spans : Prop
  seen : Observation
  leaf_answer : ∀ {g}, leaf g → ∃ answer, g.leaf? = some answer ∧ ∀ {c c'}, cursor c c' →
    Outcome.Related value cursor failure ((answer c.ahead).outcome c) ((answer c'.ahead).outcome c')
  value_unit : value .unit .unit
  value_none : value .none .none
  value_nil : value (.list []) (.list [])
  value_some : ∀ {v w}, value v w → value (.some v) (.some w)
  value_pair : ∀ {v w v' w'}, value v w → value v' w' → value (.pair v v') (.pair w w')
  value_cons : ∀ {v w v' w'}, value v w → value v' w' →
    value (Evaluation.cons v v') (Evaluation.cons w w')
  value_spanned : spans → ∀ {c c' d d' v w}, cursor c c' → cursor d d' → value v w →
    Agree seen.fault value ((Span.within c.source c.skipped.offset d.offset).map (.spanned v))
      ((Span.within c'.source c'.skipped.offset d'.offset).map (.spanned w))
  failure_custom : ∀ {c c'} message parser, cursor c c' →
    failure ⟨c, .custom message, parser⟩ ⟨c', .custom message, parser⟩
  failure_unexpected : ∀ {c c' p q}, cursor c c' → quoted p q →
    failure ⟨c, .unexpectedMatch p, "not"⟩ ⟨c', .unexpectedMatch q, "not"⟩
  failure_missing : ∀ {c c' p q}, cursor c c' → quoted p q →
    failure ⟨c, .missingMatch p, "guard"⟩ ⟨c', .missingMatch q, "guard"⟩
  log_built : ∀ {p q}, called p q → seen.logs [.built p] [.built q]
  log_counted : ∀ key, seen.logs [.counted key] [.counted key]

/-- A correspondence of cursors with the same text ahead, where equal values correspond. -/
structure Alignment where
  cursor : Cursor → Cursor → Prop
  failure : Failure → Failure → Prop
  quoted : String → String → Prop
  called : String → String → Prop
  spans : Prop
  seen : Observation
  ahead : ∀ {c c'}, cursor c c' → c.ahead = c'.ahead
  past : ∀ {c c'} n, cursor c c' → cursor (c.past n) (c'.past n)
  refused : ∀ {c c'} reason parser, cursor c c' →
    failure ⟨c, reason, parser⟩ ⟨c', reason, parser⟩
  unexpected : ∀ {c c' p q}, cursor c c' → quoted p q →
    failure ⟨c, .unexpectedMatch p, "not"⟩ ⟨c', .unexpectedMatch q, "not"⟩
  missing : ∀ {c c' p q}, cursor c c' → quoted p q →
    failure ⟨c, .missingMatch p, "guard"⟩ ⟨c', .missingMatch q, "guard"⟩
  spanned : spans → ∀ {c c' d d'} v, cursor c c' → cursor d d' →
    Agree seen.fault Eq ((Span.within c.source c.skipped.offset d.offset).map (Value.spanned v))
      ((Span.within c'.source c'.skipped.offset d'.offset).map (.spanned v))
  built : ∀ {p q}, called p q → seen.logs [.built p] [.built q]
  counted : ∀ key, seen.logs [.counted key] [.counted key]

def Alignment.correspondence (A : Alignment) : Correspondence where
  cursor := A.cursor
  value := Eq
  failure := A.failure
  quoted := A.quoted
  called := A.called
  leaf g := g.leaf?.isSome
  spans := A.spans
  seen := A.seen
  leaf_answer := by
    intro g hg
    obtain ⟨answer, ha⟩ := Option.isSome_iff_exists.1 hg
    refine ⟨answer, ha, fun {c c'} hc => ?_⟩
    rw [← A.ahead hc]
    cases answer c.ahead with
    | accepts v n => exact .success rfl (A.past n hc)
    | refuses reason parser => exact .failure (A.refused reason parser hc)
  value_unit := rfl
  value_none := rfl
  value_nil := rfl
  value_some h := h ▸ rfl
  value_pair h h' := h ▸ h' ▸ rfl
  value_cons h h' := h ▸ h' ▸ rfl
  value_spanned := by
    rintro hs c c' d d' v _ hc hd rfl
    exact A.spanned hs v hc hd
  failure_custom message parser := A.refused (.custom message) parser
  failure_unexpected := A.unexpected
  failure_missing := A.missing
  log_built := A.built
  log_counted := A.counted

namespace Correspondence

variable (K : Correspondence)

def outcome : Outcome → Outcome → Prop := Outcome.Related K.value K.cursor K.failure

variable (operand body : Grammar → Grammar → Prop)

/-- Scripts that do the same with outcomes that correspond. -/
inductive SameScript : Script → Script → Prop where
  | give {o o' : Outcome} : K.outcome o o' → SameScript (.give o) (.give o')
  | halt {f : Fault} : K.seen.fault f → SameScript (.halt f) (.halt f)
  | note (key : String) {s s' : Script} :
    SameScript s s' → SameScript (.note key s) (.note key s')
  | parse {g g' : Grammar} {c c' : Cursor} {next next' : Outcome → Script} :
    operand g g' → K.cursor c c' → (∀ o o', K.outcome o o' → SameScript (next o) (next' o')) →
      SameScript (.run .parse g c next) (.run .parse g' c' next')
  | apply {g g' : Grammar} {c c' : Cursor} {next next' : Outcome → Script} :
    body g g' → K.cursor c c' → (∀ o o', K.outcome o o' → SameScript (next o) (next' o')) →
      SameScript (.run .apply g c next) (.run .apply g' c' next')

/-- Grammars with the same head whose parts correspond: as operands, which are parsed, or as bodies,
which are run right where the whole is. -/
inductive SameForm : Grammar → Grammar → Prop where
  | leaf {g : Grammar} : K.leaf g → SameForm g g
  | both {a a' b b' : Grammar} : operand a a' → operand b b' → SameForm (.both a b) (.both a' b')
  | either {a a' b b' : Grammar} :
    operand a a' → operand b b' → SameForm (.either a b) (.either a' b')
  | many {g g' : Grammar} : operand g g' → SameForm (.many g) (.many g')
  | many1 {g g' : Grammar} : operand g g' → SameForm (.many1 g) (.many1 g')
  | many1Sep {a a' b b' : Grammar} :
    operand a a' → operand b b' → SameForm (.many1Sep a b) (.many1Sep a' b')
  | optional {g g' : Grammar} : operand g g' → SameForm (.optional g) (.optional g')
  | absent {g g' : Grammar} :
    operand g g' → K.quoted g.name g'.name → SameForm (.absent g) (.absent g')
  | present {g g' : Grammar} :
    operand g g' → K.quoted g.name g'.name → SameForm (.present g) (.present g')
  | keepLeft {a a' b b' : Grammar} :
    operand a a' → operand b b' → SameForm (.keepLeft a b) (.keepLeft a' b')
  | keepRight {a a' b b' : Grammar} :
    operand a a' → operand b b' → SameForm (.keepRight a b) (.keepRight a' b')
  | sequence_nil : SameForm (.sequence []) (.sequence [])
  | sequence_cons {g g' : Grammar} {gs gs' : List Grammar} :
    operand g g' → SameForm (.sequence gs) (.sequence gs') →
      SameForm (.sequence (g :: gs)) (.sequence (g' :: gs'))
  | spanned {g g' : Grammar} : K.spans → operand g g' → SameForm (.spanned g) (.spanned g')
  | named (p p' : String) {g g' : Grammar} : body g g' → SameForm (.named p g) (.named p' g')
  | shared {g g' : Grammar} : body g g' → SameForm (.shared g) (.shared g')
  | map {f f' : Value → Value} {g g' : Grammar} :
    (∀ v w, K.value v w → K.value (f v) (f' w)) → operand g g' → SameForm (.map f g) (.map f' g')
  | check {f f' : Value → Except String Value} {g g' : Grammar} :
    (∀ v w, K.value v w → Agree (fun _ => True) K.value (f v) (f' w)) → operand g g' →
      SameForm (.check f g) (.check f' g')
  | andThen {g g' : Grammar} {next next' : Value → Grammar} :
    operand g g' → (∀ v w, K.value v w → operand (next v) (next' w)) →
      SameForm (.andThen g next) (.andThen g' next')
  | rule {p p' : String} : K.called p p' → SameForm (.rule p) (.rule p')
  | script (p p' : String) {s s' : Cursor → Script} :
    (∀ c c', K.cursor c c' → SameScript K operand body (s c) (s' c')) →
      SameForm (.script p s) (.script p' s')

/-- The head of the grammar corresponds to itself. -/
def Allows : Grammar → Prop
  | .spanned _ => K.spans
  | .rule name => K.called name name
  | .script _ s => ∀ c c', K.cursor c c' → SameScript K operand body (s c) (s c')
  | g => g.leaf?.isSome → K.leaf g

/-- The functions at the head of the grammar do the same with values that correspond. -/
def Keeps (p : Grammar → Grammar) : Grammar → Prop
  | .map f _ => ∀ v w, K.value v w → K.value (f v) (f w)
  | .check f _ => ∀ v w, K.value v w → Agree (fun _ => True) K.value (f v) (f w)
  | .andThen _ next => ∀ v w, K.value v w → operand (next v) (p (next w))
  | _ => True

/-- The jobs that corresponding jobs raise. -/
inductive SameJob : Job → Job → Prop where
  | parse {g g' : Grammar} {c c' : Cursor} :
    operand g g' → K.cursor c c' → SameJob (.run .parse g c) (.run .parse g' c')
  | body {g g' : Grammar} {c c' : Cursor} :
    body g g' → K.cursor c c' → SameJob (.run .apply g c) (.run .apply g' c')
  | form {g g' : Grammar} {c c' : Cursor} :
    K.SameForm operand body g g' → K.cursor c c' → SameJob (.run .apply g c) (.run .apply g' c')
  | items {a a' b b' : Grammar} {c c' : Cursor} :
    operand a a' → operand b b' → K.cursor c c' → SameJob (.items a b c) (.items a' b' c')
  | script {s s' : Script} : K.SameScript operand body s s' → SameJob (.script s) (.script s')

end Correspondence

/-! ## Sides that change places -/

theorem Outcome.Related.flip {value : Value → Value → Prop} {cursor : Cursor → Cursor → Prop}
    {failure : Failure → Failure → Prop} {o o' : Outcome} (h : o.Related value cursor failure o') :
    o'.Related (fun w v => value v w) (fun d c => cursor c d) (fun f e => failure e f) o := by
  cases h with
  | success hv hc => exact .success hv hc
  | failure he => exact .failure he

namespace Correspondence

def flip (K : Correspondence) : Correspondence where
  cursor c c' := K.cursor c' c
  value v w := K.value w v
  failure e f := K.failure f e
  quoted p q := K.quoted q p
  called p q := K.called q p
  leaf := K.leaf
  spans := K.spans
  seen := K.seen.flip
  leaf_answer h := by
    obtain ⟨answer, ha, hanswer⟩ := K.leaf_answer h
    exact ⟨answer, ha, fun hc => (hanswer hc).flip⟩
  value_unit := K.value_unit
  value_none := K.value_none
  value_nil := K.value_nil
  value_some := K.value_some
  value_pair := K.value_pair
  value_cons := K.value_cons
  value_spanned hs _ _ _ _ _ _ hc hd hv := (K.value_spanned hs hc hd hv).flip
  failure_custom message parser := K.failure_custom message parser
  failure_unexpected := K.failure_unexpected
  failure_missing := K.failure_missing
  log_built := K.log_built
  log_counted := K.log_counted

variable {K : Correspondence} {operand body : Grammar → Grammar → Prop}

theorem sameForm_sequence {p : Grammar → Grammar} {gs : List Grammar}
    (h : ∀ g ∈ gs, operand g (p g)) :
    K.SameForm operand body (.sequence gs) (.sequence (gs.map p)) := by
  induction gs with
  | nil => exact .sequence_nil
  | cons g gs ih =>
    obtain ⟨hg, hgs⟩ := List.forall_mem_cons.1 h
    exact .sequence_cons hg (ih hgs)

/-- Parts can be replaced by what corresponds to them. -/
theorem sameForm_parts {p b : Grammar → Grammar} {g : Grammar} (hhead : K.Allows operand body g)
    (hkeeps : K.Keeps operand p g) (hoperand : ∀ h, h.Part g → operand h (p h))
    (hquoted : ∀ h, h.Part g → K.quoted h.name (p h).name)
    (hbody : ∀ h, (g = .shared h ∨ ∃ name, g = .named name h) → body h (b h)) :
    K.SameForm operand body g (g.mapParts p b) := by
  cases g with
  | literal | matching | decimal | integer | atEnd | success | failure => exact .leaf (hhead rfl)
  | both x y => exact .both (hoperand x (.bothLeft x y)) (hoperand y (.bothRight x y))
  | either x y => exact .either (hoperand x (.eitherLeft x y)) (hoperand y (.eitherRight x y))
  | many g => exact .many (hoperand g (.many g))
  | many1 g => exact .many1 (hoperand g (.many1 g))
  | many1Sep x y => exact .many1Sep (hoperand x (.item x y)) (hoperand y (.separator x y))
  | optional g => exact .optional (hoperand g (.optional g))
  | absent g => exact .absent (hoperand g (.absent g)) (hquoted g (.absent g))
  | present g => exact .present (hoperand g (.present g)) (hquoted g (.present g))
  | keepLeft x y => exact .keepLeft (hoperand x (.kept x y)) (hoperand y (.dropped x y))
  | keepRight x y => exact .keepRight (hoperand x (.droppedFirst x y)) (hoperand y (.keptLast x y))
  | sequence gs => exact sameForm_sequence fun g hg => hoperand g (.member hg)
  | spanned g => exact .spanned hhead (hoperand g (.spanned g))
  | named name g => exact .named name name (hbody g (.inr ⟨name, rfl⟩))
  | shared g => exact .shared (hbody g (.inl rfl))
  | map f g => exact .map hkeeps (hoperand g (.map f g))
  | check f g => exact .check hkeeps (hoperand g (.check f g))
  | andThen g next => exact .andThen (hoperand g (.first g next)) hkeeps
  | rule name => exact .rule hhead
  | script name s => exact .script name name hhead

/-- Where corresponding values are equal, nothing is asked of functions. -/
theorem sameForm_mapParts {p b : Grammar → Grammar} {g : Grammar}
    (hvalue : ∀ {v w}, K.value v w ↔ v = w) (hhead : K.Allows operand body g)
    (hoperand : ∀ h, h.Part g → operand h (p h))
    (hquoted : ∀ h, h.Part g → K.quoted h.name (p h).name)
    (hbody : ∀ h, (g = .shared h ∨ ∃ name, g = .named name h) → body h (b h)) :
    K.SameForm operand body g (g.mapParts p b) := by
  refine sameForm_parts hhead ?_ hoperand hquoted hbody
  cases g with
  | map f g =>
    intro v w hv
    rw [hvalue.1 hv]
    exact hvalue.2 rfl
  | check f g =>
    intro v w hv
    rw [hvalue.1 hv]
    exact .refl (fun _ => trivial) (fun _ => hvalue.2 rfl) (f w)
  | andThen g next =>
    intro v w hv
    rw [hvalue.1 hv]
    exact hoperand (next w) (.next g next w)
  | _ => exact trivial

theorem SameScript.flip {s s' : Script} (h : K.SameScript operand body s s') :
    K.flip.SameScript (fun a b => operand b a) (fun a b => body b a) s' s := by
  induction h with
  | give ho => exact .give ho.flip
  | halt hf => exact .halt hf
  | note key _ ih => exact .note key ih
  | parse hg hc _ ih => exact .parse hg hc fun o o' ho => ih o' o ho.flip
  | apply hg hc _ ih => exact .apply hg hc fun o o' ho => ih o' o ho.flip

theorem SameForm.flip {g g' : Grammar} (h : K.SameForm operand body g g') :
    K.flip.SameForm (fun a b => operand b a) (fun a b => body b a) g' g := by
  induction h with
  | leaf hl => exact .leaf hl
  | both ha hb => exact .both ha hb
  | either ha hb => exact .either ha hb
  | many hg => exact .many hg
  | many1 hg => exact .many1 hg
  | many1Sep ha hb => exact .many1Sep ha hb
  | optional hg => exact .optional hg
  | absent hg hq => exact .absent hg hq
  | present hg hq => exact .present hg hq
  | keepLeft ha hb => exact .keepLeft ha hb
  | keepRight ha hb => exact .keepRight ha hb
  | sequence_nil => exact .sequence_nil
  | sequence_cons hg _ ih => exact .sequence_cons hg ih
  | spanned hs hg => exact .spanned hs hg
  | named p p' hg => exact .named p' p hg
  | shared hg => exact .shared hg
  | map hf hg => exact .map (fun w v hv => hf v w hv) hg
  | check hf hg => exact .check (fun w v hv => (hf v w hv).flip) hg
  | andThen hg hnext => exact .andThen hg fun w v hv => hnext v w hv
  | rule hp => exact .rule hp
  | script p p' hs => exact .script p' p fun c' c hc => (hs c c' hc).flip

theorem SameJob.flip {j j' : Job} (h : K.SameJob operand body j j') :
    K.flip.SameJob (fun a b => operand b a) (fun a b => body b a) j' j := by
  cases h with
  | parse hg hc => exact .parse hg hc
  | body hg hc => exact .body hg hc
  | form hg hc => exact .form hg.flip hc
  | items ha hb hc => exact .items ha hb hc
  | script hs => exact .script hs.flip

end Correspondence

/-! ## Steps on outcomes that correspond -/

namespace Run.Leads

variable {K : Correspondence} {α β : Type} {R : α → β → Prop}
variable {x : Run Outcome} {ys : Nat → Run Outcome}

/-- A computation that goes on with what it is told. -/
theorem cases {f : Outcome → Run α} {fs : Nat → Outcome → Run β}
    (hx : Leads K.seen K.outcome x ys)
    (hs : ∀ v w c d, K.value v w → K.cursor c d →
      Leads K.seen R (f (.success v c)) fun n => fs n (.success w d))
    (hf : ∀ e e', K.failure e e' → Leads K.seen R (f (.failure e)) fun n => fs n (.failure e')) :
    Leads K.seen R (x >>= f) fun n => ys n >>= fs n := by
  refine hx.bind fun o o' ho => ?_
  cases ho with
  | success hv hc => exact hs _ _ _ _ hv hc
  | failure he => exact hf _ _ he

theorem success {v w : Value} {c d : Cursor} (hv : K.value v w) (hc : K.cursor c d) :
    Leads K.seen K.outcome (Run.done (.success v c)) fun _ => Run.done (.success w d) :=
  done (.success hv hc)

theorem failure {e e' : Failure} (he : K.failure e e') :
    Leads K.seen K.outcome (Run.done (.failure e)) fun _ => Run.done (.failure e') :=
  done (.failure he)

theorem onSuccess {f : Value → Cursor → Run Outcome} {fs : Nat → Value → Cursor → Run Outcome}
    (hx : Leads K.seen K.outcome x ys)
    (hs : ∀ v w c d, K.value v w → K.cursor c d →
      Leads K.seen K.outcome (f v c) fun n => fs n w d) :
    Leads K.seen K.outcome (x.onSuccess f) fun n => (ys n).onSuccess (fs n) :=
  hx.cases hs fun _ _ he => .failure he

theorem mapped {f f' : Value → Value} (hx : Leads K.seen K.outcome x ys)
    (hf : ∀ v w, K.value v w → K.value (f v) (f' w)) :
    Leads K.seen K.outcome (x >>= fun o => pure (o.map f)) fun n =>
      ys n >>= fun o => pure (o.map f') :=
  hx.cases (fun _ _ _ _ hv hc => .success (hf _ _ hv) hc) fun _ _ he => .failure he

end Run.Leads

namespace Evaluation

open Run Correspondence

variable {K : Correspondence} {rules rules' : Rules} {operand body : Grammar → Grammar → Prop}
variable {ask : Job → Run Outcome} {asks : Nat → Job → Run Outcome}

theorem parse_leads {g g' : Grammar} {c c' : Cursor}
    (happly : Leads K.seen K.outcome (ask (.run .apply g c.skipped))
      fun n => asks n (.run .apply g' c'.skipped))
    (hlog : ∀ e e', K.failure e e' →
      K.seen.logs [.failed g.name e.rest.offset] [.failed g'.name e'.rest.offset]) :
    Leads K.seen K.outcome (parse ask g c) fun n => parse (asks n) g' c' := by
  simp only [parse_eq]
  refine happly.cases (fun _ _ _ _ hv hc => .success hv hc) fun e e' he => ?_
  exact (Leads.log (hlog e e' he)).bind fun _ _ _ => .failure he

variable (hask : ∀ {j j'}, K.SameJob operand body j j' →
  Leads K.seen K.outcome (ask j) fun n => asks n j')
include hask

theorem items_leads {a a' b b' : Grammar} {c c' : Cursor} (ha : operand a a') (hb : operand b b')
    (hc : K.cursor c c') :
    Leads K.seen K.outcome (items ask a b c) fun n => items (asks n) a' b' c' := by
  have hstop := Leads.success (K := K) K.value_nil hc
  refine (hask (.parse hb hc)).cases (fun _ _ d d' _ hd => ?_) fun _ _ _ => hstop
  refine (hask (.parse ha hd)).cases (fun v w r r' hv hr => ?_) fun _ _ _ => hstop
  exact (hask (.items ha hb hr)).mapped fun _ _ => K.value_cons hv

theorem script_leads {s s' : Script} (h : K.SameScript operand body s s') :
    Leads K.seen K.outcome (script ask s) fun n => script (asks n) s' := by
  cases h with
  | give ho => exact .done ho
  | halt hf => exact .lift (.error hf)
  | note key hs => exact (Leads.log (K.log_counted key)).bind fun _ _ _ => hask (.script hs)
  | parse hg hc hnext =>
    exact (hask (.parse hg hc)).bind fun o o' ho => hask (.script (hnext o o' ho))
  | apply hg hc hnext =>
    exact (hask (.body hg hc)).bind fun o o' ho => hask (.script (hnext o o' ho))

variable (hrules : ∀ {p p'}, K.called p p' → operand (rules p) (rules' p'))
include hrules

/-- Steps of grammars of the same form lead to outcomes that correspond if the jobs they raise do. -/
theorem apply_leads {g g' : Grammar} {c c' : Cursor} (h : K.SameForm operand body g g')
    (hc : K.cursor c c') :
    Leads K.seen K.outcome (apply rules ask g c) fun n => apply rules' (asks n) g' c' := by
  cases h with
  | leaf hl =>
    obtain ⟨answer, hg, hanswer⟩ := K.leaf_answer hl
    simp only [apply_leaf hg]
    exact .done (hanswer hc)
  | both ha hb =>
    refine (hask (.parse ha hc)).onSuccess fun v w d d' hv hd => ?_
    exact (hask (.parse hb hd)).mapped fun _ _ => K.value_pair hv
  | either ha hb =>
    refine (hask (.parse ha hc)).cases (fun _ _ _ _ hv hd => .success hv hd) fun _ _ _ => ?_
    exact hask (.parse hb hc)
  | many hg =>
    refine (hask (.parse hg hc)).cases (fun v w d d' hv hd => ?_)
      fun _ _ _ => .success K.value_nil hc
    exact (hask (.form (.many hg) hd)).mapped fun _ _ => K.value_cons hv
  | many1 hg =>
    refine (hask (.parse hg hc)).onSuccess fun v w d d' hv hd => ?_
    exact (hask (.form (.many hg) hd)).mapped fun _ _ => K.value_cons hv
  | many1Sep ha hb =>
    refine (hask (.parse ha hc)).onSuccess fun v w d d' hv hd => ?_
    exact (hask (.items ha hb hd)).mapped fun _ _ => K.value_cons hv
  | optional hg =>
    exact (hask (.parse hg hc)).cases (fun _ _ _ _ hv hd => .success (K.value_some hv) hd)
      fun _ _ _ => .success K.value_none hc
  | absent hg hq =>
    exact (hask (.parse hg hc)).cases (fun _ _ _ _ _ _ => .failure (K.failure_unexpected hc hq))
      fun _ _ _ => .success K.value_unit hc
  | present hg hq =>
    exact (hask (.parse hg hc)).cases (fun _ _ _ _ _ _ => .success K.value_unit hc)
      fun _ _ _ => .failure (K.failure_missing hc hq)
  | keepLeft ha hb =>
    refine (hask (.parse ha hc)).onSuccess fun v w d d' hv hd => ?_
    exact (hask (.parse hb hd)).mapped fun _ _ _ => hv
  | keepRight ha hb =>
    exact (hask (.parse ha hc)).onSuccess fun _ _ _ _ _ hd => hask (.parse hb hd)
  | sequence_nil => exact .success K.value_nil hc
  | sequence_cons hg hgs =>
    refine (hask (.parse hg hc)).onSuccess fun v w d d' hv hd => ?_
    exact (hask (.form hgs hd)).mapped fun _ _ => K.value_cons hv
  | spanned hs hg =>
    simp only [apply_spanned]
    refine (hask (.parse hg hc)).onSuccess fun v w d d' hv hd => ?_
    exact (Leads.lift (K.value_spanned hs hc hd hv)).bind fun _ _ hw => .success hw hd
  | named p p' hg => exact hask (.body hg hc)
  | shared hg => exact hask (.body hg hc)
  | map hf hg => exact (hask (.parse hg hc)).mapped hf
  | @check f f' _ _ hf hg =>
    refine (hask (.parse hg hc)).onSuccess fun v w d d' hv hd => ?_
    have hvw := hf v w hv
    revert hvw
    generalize f v = x, f' w = y
    rintro (@⟨message, -⟩ | hw)
    · exact .failure (K.failure_custom message "try_map" hc)
    · exact .success hw hd
  | andThen hg hnext =>
    exact (hask (.parse hg hc)).onSuccess fun v w d d' hv hd => hask (.parse (hnext v w hv) hd)
  | rule hp =>
    exact (Leads.log (K.log_built hp)).bind fun _ _ _ => hask (.parse (hrules hp) hc)
  | script p p' hs => exact hask (.script (hs _ _ hc))

end Evaluation
end Descent
