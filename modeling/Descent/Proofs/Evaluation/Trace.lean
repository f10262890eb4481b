import Descent.Proofs.Evaluation.Answer

/-! # Traces

The trace of a run is what its log says about failures, line by line. A step logs no line but for
the failure of a parser that was parsed, so the trace of any other job is made up of the traces of
the jobs that it raises. -/
namespace Descent

/-- What a trace shows of an event: the parser that failed, and where. -/
def Event.line? : Event → Option (String × Nat)
  | failed parser offset => some (parser, offset)
  | counted _ => none
  | built _ => none

abbrev Trace := List (String × Nat)

def Traced.trace {α : Type} (t : Traced α) : Trace := t.log.filterMap Event.line?

namespace Grammar

variable {rules : Rules} {mode : Mode} {g : Grammar} {c : Cursor} {t : Traced Outcome}

/-- What some stage answers, with all that was logged on the way. -/
def RunsTo (rules : Rules) (mode : Mode) (g : Grammar) (c : Cursor) (t : Traced Outcome) : Prop :=
  ∃ stages, g.runWithin rules stages mode c = some t

theorem runsTo_iff_answer :
    g.RunsTo rules mode c t ↔ Evaluation.answer rules (.run mode g c) = some t :=
  Evaluation.answer_eq_some.symm

end Grammar

namespace Run

variable {α β : Type}

/-- Without an answer there is nothing in the trace. -/
def trace (x : Run α) : Trace := (Option.map Traced.trace x).getD []

/-- A computation that logs no line of its own: there are jobs that it raises one after another, so
that any evaluator with the same results for these brings it to the same result, and its trace is
made up of theirs. -/
def Composed (ask : Job → Run Outcome) (f : (Job → Run Outcome) → Run α) : Prop :=
  ∀ t, f ask = some t → ∃ calls : List Job, (∀ j ∈ calls, ∃ u, ask j = some u) ∧
    ∀ ask' : Job → Run Outcome, (∀ j ∈ calls, (ask' j).result? = (ask j).result?) →
      ∃ t', f ask' = some t' ∧ t'.result = t.result ∧
        t'.trace = calls.flatMap fun j => (ask' j).trace

namespace Composed

variable {ask : Job → Run Outcome}

theorem const {x : Run α} (h : ∀ t, x = some t → t.trace = []) : Composed ask fun _ => x := by
  intro t ht
  exact ⟨[], nofun, fun _ _ => ⟨t, ht, rfl, h t ht⟩⟩

theorem done (a : α) : Composed ask fun _ => Run.done a :=
  .const fun _ h => by cases h; rfl

theorem lift (r : Except Fault α) : Composed ask fun _ => Run.lift r :=
  .const fun _ h => by cases h; rfl

theorem log {e : Event} (he : e.line? = none) : Composed ask fun _ => Run.log e :=
  .const fun _ h => by cases h; simp [Traced.trace, he]

theorem job (j : Job) : Composed ask fun ask => ask j := by
  intro t ht
  refine ⟨[j], by simpa using ⟨t, ht⟩, fun ask' h => ?_⟩
  have hj := h j (List.mem_singleton.2 rfl)
  obtain ⟨l, hl⟩ := result?_eq_some.1 (hj.trans (result?_eq_some.2 ⟨t.log, ht⟩))
  exact ⟨⟨l, t.result⟩, hl, rfl, by simp [Run.trace, hl]⟩

theorem bind {f : (Job → Run Outcome) → Run α} {g : (Job → Run Outcome) → α → Run β}
    (hf : Composed ask f) (hg : ∀ a, Composed ask fun ask => g ask a) :
    Composed ask fun ask => f ask >>= g ask := by
  intro t ht
  rcases bind_eq_some ht with ⟨e, he, hr⟩ | ⟨l, a, u, ha, hu, rfl⟩
  · obtain ⟨calls, hcalls, hforth⟩ := hf _ he
    refine ⟨calls, hcalls, fun ask' h => ?_⟩
    obtain ⟨⟨l, r⟩, hl, rfl, htrace⟩ := hforth ask' h
    exact ⟨_, bind_of_error _ hl, hr.symm, htrace⟩
  · obtain ⟨calls, hcalls, hforth⟩ := hf _ ha
    obtain ⟨more, hmore, hnext⟩ := hg a _ hu
    refine ⟨calls ++ more, fun j hj => ?_, fun ask' h => ?_⟩
    · exact (List.mem_append.1 hj).elim (hcalls j) (hmore j)
    · obtain ⟨⟨m, r⟩, hm, rfl, htrace⟩ :=
        hforth ask' fun j hj => h j (List.mem_append.2 (.inl hj))
      obtain ⟨t', ht', hresult, htrace'⟩ :=
        hnext ask' fun j hj => h j (List.mem_append.2 (.inr hj))
      refine ⟨_, bind_of_ok hm ht', hresult, ?_⟩
      rw [List.flatMap_append, ← htrace, ← htrace']
      exact List.filterMap_append

theorem onSuccess {f : (Job → Run Outcome) → Run Outcome}
    {g : (Job → Run Outcome) → Value → Cursor → Run Outcome} (hf : Composed ask f)
    (hg : ∀ v r, Composed ask fun ask => g ask v r) :
    Composed ask fun ask => (f ask).onSuccess (g ask) :=
  hf.bind fun
    | .success v r => hg v r
    | .failure e => .done (Outcome.failure e)

theorem mapped {f : (Job → Run Outcome) → Run Outcome} (g : Value → Value) (hf : Composed ask f) :
    Composed ask fun ask => f ask >>= fun o => pure (o.map g) :=
  hf.bind fun o => .done (o.map g)

end Composed
end Run

namespace Evaluation

open Run

variable {rules : Rules} {ask : Job → Run Outcome}

theorem apply_composed (g : Grammar) (c : Cursor) :
    Composed ask fun ask => apply rules ask g c := by
  cases hl : g.leaf? with
  | some answer =>
    simp only [apply_leaf hl]
    exact .done _
  | none =>
  cases g with
  | literal | matching | decimal | integer | atEnd | success | failure => cases hl
  | both a b => exact .onSuccess (.job _) fun v r => .mapped _ (.job _)
  | either a b =>
    exact .bind (.job _) fun
      | .success v r => .done _
      | .failure e => .job _
  | many g =>
    exact .bind (.job _) fun
      | .success v r => .mapped _ (.job _)
      | .failure e => .done _
  | many1 g => exact .onSuccess (.job _) fun v r => .mapped _ (.job _)
  | many1Sep a b => exact .onSuccess (.job _) fun v r => .mapped _ (.job _)
  | optional g | absent g | present g =>
    exact .bind (.job _) fun
      | .success v r => .done _
      | .failure e => .done _
  | keepLeft a b => exact .onSuccess (.job _) fun v r => .mapped _ (.job _)
  | keepRight a b => exact .onSuccess (.job _) fun v r => .job _
  | sequence gs =>
    cases gs with
    | nil => exact .done _
    | cons g gs => exact .onSuccess (.job _) fun v r => .mapped _ (.job _)
  | spanned g =>
    simp only [apply_spanned]
    exact .onSuccess (.job _) fun v r => .bind (.lift _) fun w => .done _
  | named name g => exact .job _
  | shared g => exact .job _
  | map f g => exact .mapped f (.job _)
  | check f g =>
    refine .onSuccess (.job _) fun v r => ?_
    cases f v with
    | ok w => exact .done _
    | error message => exact .done _
  | andThen g next => exact .onSuccess (.job _) fun v r => .job _
  | rule name => exact .bind (.log rfl) fun _ => .job _
  | script name s => exact .job _

/-- Only a parser that is parsed logs a line of its own, and only if it fails. -/
theorem step_composed {job : Job} (hjob : ∀ g c, job ≠ .run .parse g c) :
    Composed ask fun ask => step rules ask job := by
  match job with
  | .run .parse g c => exact absurd rfl (hjob g c)
  | .run .apply g c => exact apply_composed g c
  | .items item separator c =>
    exact .bind (.job _) fun
      | .failure _ => .done _
      | .success _ after => .bind (.job _) fun
        | .failure _ => .done _
        | .success v rest => .mapped _ (.job _)
  | .script (.give o) => exact .done o
  | .script (.halt f) => exact .lift _
  | .script (.note key s) => exact .bind (.log rfl) fun _ => .job _
  | .script (.run mode g c next) => exact .bind (.job _) fun o => .job _

/-! ## What is parsed on the way -/

/-- `calls` are the jobs that a job raises, in order: whatever these log, its trace is made up of
what they log, one after another. -/
def Raises (rules : Rules) (job : Job) (calls : List Job) : Prop :=
  ∀ ask : Job → Run Outcome, (∀ j, (ask j).result? = (answer rules j).result?) →
    ∃ t, step rules ask job = some t ∧ t.trace = calls.flatMap fun j => (ask j).trace

/-- The runs of parsers that are parsed on the way of some jobs, in order. Other jobs are looked
into. -/
inductive Invokes (rules : Rules) : List Job → List (Traced Outcome) → Prop where
  | nil : Invokes rules [] []
  | parse {g : Grammar} {c : Cursor} {t : Traced Outcome} {jobs : List Job}
    {runs : List (Traced Outcome)} : g.RunsTo rules .parse c t → Invokes rules jobs runs →
      Invokes rules (.run .parse g c :: jobs) (t :: runs)
  | inside {job : Job} {calls jobs : List Job} {runs runs' : List (Traced Outcome)} :
    (∀ g c, job ≠ .run .parse g c) → Raises rules job calls → Invokes rules calls runs →
      Invokes rules jobs runs' → Invokes rules (job :: jobs) (runs ++ runs')

theorem exists_raises {n : Nat} {job : Job} {t : Traced Outcome}
    (hjob : ∀ g c, job ≠ .run .parse g c) (h : step rules (stage rules n) job = some t) :
    ∃ calls, (∀ j ∈ calls, ∃ u, stage rules n j = some u) ∧ Raises rules job calls := by
  obtain ⟨calls, hcalls, hforth⟩ := step_composed hjob t h
  refine ⟨calls, hcalls, fun ask hask => ?_⟩
  obtain ⟨t', ht', -, htrace⟩ := hforth ask fun j hj => by
    obtain ⟨u, hu⟩ := hcalls j hj
    rw [hask j, answer_of_stage hu, hu]
  exact ⟨t', ht', htrace⟩

theorem exists_invokes (n : Nat) (jobs : List Job)
    (h : ∀ j ∈ jobs, ∃ t, stage rules n j = some t) : ∃ runs, Invokes rules jobs runs := by
  induction n generalizing jobs with
  | zero =>
    cases jobs with
    | nil => exact ⟨[], .nil⟩
    | cons j jobs =>
      obtain ⟨t, ht⟩ := h j List.mem_cons_self
      cases ht
  | succ n ih =>
    induction jobs with
    | nil => exact ⟨[], .nil⟩
    | cons j jobs ihjobs =>
      obtain ⟨⟨t, ht⟩, hjobs⟩ := List.forall_mem_cons.1 h
      obtain ⟨runs', hruns'⟩ := ihjobs hjobs
      by_cases hparse : ∃ g c, j = .run .parse g c
      · obtain ⟨g, c, rfl⟩ := hparse
        exact ⟨t :: runs', .parse ⟨n + 1, ht⟩ hruns'⟩
      · have hj : ∀ g c, j ≠ .run .parse g c := fun g c hj => hparse ⟨g, c, hj⟩
        obtain ⟨calls, hcalls, hraises⟩ := exists_raises hj ht
        obtain ⟨runs, hruns⟩ := ih calls hcalls
        exact ⟨runs ++ runs', .inside hj hraises hruns hruns'⟩

/-- The traces of jobs are made up of those of the parsers that are parsed on the way. -/
theorem Invokes.trace_eq {jobs : List Job} {runs : List (Traced Outcome)}
    (h : Invokes rules jobs runs) :
    jobs.flatMap (fun j => (answer rules j).trace) = runs.flatMap Traced.trace := by
  induction h with
  | nil => rfl
  | parse hrun _ ih =>
    rw [List.flatMap_cons, List.flatMap_cons, ih, Grammar.runsTo_iff_answer.1 hrun]
    rfl
  | inside _ hraises _ _ ih ih' =>
    obtain ⟨t, ht, htrace⟩ := hraises (answer rules) fun _ => rfl
    rw [List.flatMap_cons, List.flatMap_append, ih', ← ih, ← htrace, answer_eq_step, ht]
    rfl

end Evaluation
end Descent
