import Descent.Proofs.Evaluation.Correspondence

/-! # The answer that stages come to

A job that some stage answers has this answer at all stages from some number on. The answers of all
jobs together solve the equation of a single step, so they can be computed step by step without
counting stages. -/
namespace Descent

namespace Correspondence

/-- Everything corresponds to itself. -/
def identity : Correspondence := Alignment.correspondence {
  cursor := Eq
  failure := Eq
  quoted := Eq
  called := Eq
  spans := True
  seen := .exact
  ahead h := h ▸ rfl
  past _ h := h ▸ rfl
  refused _ _ h := h ▸ rfl
  unexpected h h' := h ▸ h' ▸ rfl
  missing h h' := h ▸ h' ▸ rfl
  spanned := by
    rintro - c _ d _ v rfl rfl
    exact .refl (fun _ => trivial) (fun _ => rfl) _
  built h := h ▸ rfl
  counted _ := rfl }

theorem identity_outcome {o o' : Outcome} : identity.outcome o o' ↔ o = o' := by
  constructor
  · rintro (⟨rfl, rfl⟩ | rfl) <;> rfl
  · rintro rfl
    cases o with
    | success => exact .success rfl rfl
    | failure => exact .failure rfl

theorem sameScript_refl : ∀ s : Script, identity.SameScript Eq Eq s s
  | .give _ => .give (identity_outcome.2 rfl)
  | .halt _ => .halt trivial
  | .note key s => .note key (sameScript_refl s)
  | .run .parse _ _ next => .parse rfl rfl fun o _ ho =>
    identity_outcome.1 ho ▸ sameScript_refl (next o)
  | .run .apply _ _ next => .apply rfl rfl fun o _ ho =>
    identity_outcome.1 ho ▸ sameScript_refl (next o)

theorem identity_allows (g : Grammar) : identity.Allows Eq Eq g := by
  cases g with
  | spanned => exact trivial
  | rule => exact rfl
  | script name s => exact fun c _ h => h ▸ sameScript_refl (s c)
  | _ => exact id

theorem sameForm_refl (g : Grammar) : identity.SameForm Eq Eq g g := by
  have h : identity.SameForm Eq Eq g (g.mapParts id id) :=
    sameForm_mapParts Iff.rfl (identity_allows g) (fun _ _ => rfl) (fun _ _ => rfl) fun _ _ => rfl
  rwa [Grammar.mapParts_id] at h

theorem sameJob_refl (job : Job) : identity.SameJob Eq Eq job job := by
  match job with
  | .run .parse _ _ => exact .parse rfl rfl
  | .run .apply _ _ => exact .body rfl rfl
  | .items _ _ _ => exact .items rfl rfl rfl
  | .script s => exact .script (sameScript_refl s)

end Correspondence

namespace Evaluation

open Run Correspondence

variable {rules : Rules} {job : Job} {t : Traced Outcome}

theorem step_leads {ask : Job → Run Outcome} {asks : Nat → Job → Run Outcome}
    (hask : ∀ {j j'}, identity.SameJob Eq Eq j j' →
      Leads .exact identity.outcome (ask j) fun n => asks n j')
    {j j' : Job} (h : identity.SameJob Eq Eq j j') :
    Leads .exact identity.outcome (step rules ask j) fun n => step rules (asks n) j' := by
  have hrules : ∀ {p p'}, p = p' → rules p = rules p' := fun h => congrArg rules h
  cases h with
  | @parse g _ c _ hg hc =>
    subst hg hc
    exact parse_leads (K := identity) (hask (.body rfl rfl)) fun _ _ he => he ▸ rfl
  | @body g _ _ _ hg hc =>
    subst hg
    exact apply_leads hask hrules (sameForm_refl g) hc
  | form hg hc => exact apply_leads hask hrules hg hc
  | items ha hb hc => exact items_leads hask ha hb hc
  | script hs => exact script_leads hask hs

theorem stage_leads (n : Nat) : ∀ {j j' : Job}, identity.SameJob Eq Eq j j' →
    Leads .exact identity.outcome (stage rules n j) fun m => stage rules m j' := by
  induction n with
  | zero => exact fun _ => .nothing
  | succ n ih => exact fun h => .of_succ (step_leads ih h)

theorem eq_of_related {u : Traced Outcome} (hl : Observation.exact.logs t.log u.log)
    (hr : Agree Observation.exact.fault identity.outcome t.result u.result) : t = u := by
  obtain ⟨l, r⟩ := t
  obtain ⟨m, s⟩ := u
  cases hl
  cases hr with
  | error => rfl
  | ok ho => rw [identity_outcome.1 ho]

/-- Later stages agree with one that has an answer. -/
theorem stage_eventually {n : Nat} (h : stage rules n job = some t) :
    ∀ᶠ m in Filter.atTop, stage rules m job = some t := by
  obtain ⟨u, hl, hr, hu⟩ := stage_leads n (sameJob_refl job) t h
  rwa [eq_of_related hl hr]

theorem stage_unique {m n : Nat} {u : Traced Outcome} (ht : stage rules m job = some t)
    (hu : stage rules n job = some u) : t = u := by
  obtain ⟨k, hk, hk'⟩ := ((stage_eventually ht).and (stage_eventually hu)).exists
  exact Option.some.inj (hk.symm.trans hk')

open Classical in
/-- What a job comes to, if some stage answers it. -/
noncomputable def answer (rules : Rules) (job : Job) : Run Outcome :=
  if h : ∃ n t, stage rules n job = some t then some (choose (choose_spec h)) else none

theorem answer_eq_some : answer rules job = some t ↔ ∃ n, stage rules n job = some t := by
  by_cases h : ∃ n t, stage rules n job = some t
  · have ha : answer rules job = some _ := dif_pos h
    have hc := Classical.choose_spec (Classical.choose_spec h)
    constructor
    · intro ht
      cases ha.symm.trans ht
      exact ⟨_, hc⟩
    · rintro ⟨n, hn⟩
      exact ha.trans (congrArg some (stage_unique hc hn))
  · have ha : answer rules job = none := dif_neg h
    exact ⟨fun ht => (nomatch ha.symm.trans ht), fun ⟨n, hn⟩ => absurd ⟨n, t, hn⟩ h⟩

theorem answer_of_stage {n : Nat} (h : stage rules n job = some t) : answer rules job = some t :=
  answer_eq_some.2 ⟨n, h⟩

theorem answer_eq_none : answer rules job = none ↔ ∀ n, stage rules n job = none := by
  constructor
  · intro h n
    cases hn : stage rules n job with
    | none => rfl
    | some t =>
      rw [answer_of_stage hn] at h
      cases h
  · intro h
    cases ha : answer rules job with
    | none => rfl
    | some t =>
      obtain ⟨n, hn⟩ := answer_eq_some.1 ha
      rw [h n] at hn
      cases hn

/-- Answers are made of answers by a single step. -/
theorem answer_eq_step (rules : Rules) (job : Job) :
    answer rules job = step rules (answer rules) job := by
  refine Option.ext fun t => ⟨fun h => ?_, fun h => ?_⟩
  · obtain ⟨n | n, hn⟩ := answer_eq_some.1 h
    · cases hn
    · have hask : ∀ {j j'}, identity.SameJob Eq Eq j j' →
          Leads .exact identity.outcome (stage rules n j) fun _ => answer rules j' := by
        intro j j' hj u hu
        obtain ⟨w, hl, hr, hw⟩ := stage_leads n hj u hu
        obtain ⟨k, hk⟩ := hw.exists
        exact ⟨w, hl, hr, .of_forall fun _ => answer_of_stage hk⟩
      obtain ⟨u, hl, hr, hu⟩ := step_leads hask (sameJob_refl job) t hn
      rw [eq_of_related hl hr]
      exact hu.exists.choose_spec
  · have hask : ∀ {j j'}, identity.SameJob Eq Eq j j' →
        Leads .exact identity.outcome (answer rules j) fun m => stage rules m j' := by
      intro j j' hj u hu
      obtain ⟨n, hn⟩ := answer_eq_some.1 hu
      exact stage_leads n hj u hn
    obtain ⟨u, hl, hr, hu⟩ := step_leads hask (sameJob_refl job) t h
    obtain ⟨m, hm⟩ := hu.exists
    rw [eq_of_related hl hr]
    exact answer_eq_some.2 ⟨m + 1, hm⟩

theorem answer_parse_result? (rules : Rules) (g : Grammar) (c : Cursor) :
    (answer rules (.run .parse g c)).result? =
      (answer rules (.run .apply g c.skipped)).result? := by
  rw [answer_eq_step]
  exact parse_result? _ g c

theorem answer_apply (rules : Rules) (g : Grammar) (c : Cursor) :
    answer rules (.run .apply g c) = apply rules (answer rules) g c :=
  answer_eq_step rules _

theorem answer_result?_of_stage {n : Nat} {r : Except Fault Outcome}
    (h : (stage rules n job).result? = some r) : (answer rules job).result? = some r := by
  obtain ⟨l, hl⟩ := result?_eq_some.1 h
  exact result?_eq_some.2 ⟨l, answer_of_stage hl⟩

theorem stage_parse_result? (rules : Rules) (n : Nat) (g : Grammar) (c : Cursor) :
    (stage rules (n + 1) (.run .parse g c)).result? =
      (stage rules n (.run .apply g c.skipped)).result? :=
  parse_result? _ g c

/-! ## Stages of corresponding jobs -/

variable (K : Correspondence) (operand body : Grammar → Grammar → Prop) (rules rules' : Rules)

/-- Answers of one side at stages before the given one lead to answers of the other side. -/
def LedBefore (n : Nat) : Prop :=
  ∀ m < n, ∀ {j j'}, K.SameJob operand body j j' →
    Leads K.seen K.outcome (stage rules m j) fun _ => answer rules' j'

variable {K operand body rules rules'}

theorem LedBefore.mono {m n : Nat} (h : LedBefore K operand body rules rules' n) (hm : m ≤ n) :
    LedBefore K operand body rules rules' m :=
  fun l hl => h l (Nat.lt_of_lt_of_le hl hm)

/-- A step on forms leads on if the jobs before do. -/
theorem LedBefore.form {n : Nat} (h : LedBefore K operand body rules rules' n)
    (hrules : ∀ {p p'}, K.called p p' → operand (rules p) (rules' p')) {g g' : Grammar}
    {c c' : Cursor} (hg : K.SameForm operand body g g') (hc : K.cursor c c') :
    Leads K.seen K.outcome (stage rules n (.run .apply g c)) fun _ =>
      answer rules' (.run .apply g' c') := by
  cases n with
  | zero => exact .nothing
  | succ n =>
    rw [answer_apply]
    exact apply_leads (h n (Nat.lt_succ_self n)) hrules hg hc

/-- Sides that correspond lead to one another as soon as this can be told, from one stage to the
next, of operands and bodies. -/
theorem led_before (hrules : ∀ {p p'}, K.called p p' → operand (rules p) (rules' p'))
    (hparse : ∀ {n}, LedBefore K operand body rules rules' n → ∀ {g g' c c'}, operand g g' →
      K.cursor c c' → Leads K.seen K.outcome (stage rules n (.run .parse g c)) fun _ =>
        answer rules' (.run .parse g' c'))
    (hbody : ∀ {n}, LedBefore K operand body rules rules' n → ∀ {g g' c c'}, body g g' →
      K.cursor c c' → Leads K.seen K.outcome (stage rules n (.run .apply g c)) fun _ =>
        answer rules' (.run .apply g' c'))
    (n : Nat) : LedBefore K operand body rules rules' n := by
  induction n with
  | zero => exact fun m hm => absurd hm (Nat.not_lt_zero m)
  | succ n ih =>
    intro m hm j j' h
    have hbefore := ih.mono (Nat.le_of_lt_succ hm)
    cases h with
    | parse hg hc => exact hparse hbefore hg hc
    | body hg hc => exact hbody hbefore hg hc
    | form hg hc => exact hbefore.form hrules hg hc
    | items ha hb hc =>
      cases m with
      | zero => exact .nothing
      | succ m =>
        rw [answer_eq_step]
        exact items_leads (hbefore m (Nat.lt_succ_self m)) ha hb hc
    | script hs =>
      cases m with
      | zero => exact .nothing
      | succ m =>
        rw [answer_eq_step]
        exact script_leads (hbefore m (Nat.lt_succ_self m)) hs

/-- If what corresponds is parsed where skipping ends just as it is run there, and logs of failures
need not agree, then only runs in place are left to tell. -/
theorem led_before_of_body (hrules : ∀ {p p'}, K.called p p' → operand (rules p) (rules' p'))
    (hskipped : ∀ {c c'}, K.cursor c c' → K.cursor c.skipped c'.skipped)
    (hlog : ∀ p p' m m', K.seen.logs [.failed p m] [.failed p' m'])
    (hbody : ∀ {n}, LedBefore K operand operand rules rules' n → ∀ {g g' c c'}, operand g g' →
      K.cursor c c' → Leads K.seen K.outcome (stage rules n (.run .apply g c)) fun _ =>
        answer rules' (.run .apply g' c'))
    (n : Nat) : LedBefore K operand operand rules rules' n := by
  refine led_before hrules (fun {n} hbefore g g' c c' hg hc => ?_) hbody n
  cases n with
  | zero => exact .nothing
  | succ n =>
    rw [answer_eq_step]
    exact parse_leads (hbefore n (Nat.lt_succ_self n) (.body hg (hskipped hc)))
      fun e e' _ => hlog _ _ _ _

/-- Runs that lead to each other both go on forever or come to results that agree. -/
theorem none_or_agree {R : Outcome → Outcome → Prop} {R' : Outcome → Outcome → Prop}
    {E E' : Observation} {j j' : Job}
    (h : ∀ n, Leads E R (stage rules n j) fun _ => answer rules' j')
    (h' : ∀ n, Leads E' R' (stage rules' n j') fun _ => answer rules j) :
    (answer rules j = none ∧ answer rules' j' = none) ∨ ∃ t u, answer rules j = some t ∧
      answer rules' j' = some u ∧ E.logs t.log u.log ∧ Agree E.fault R t.result u.result := by
  cases ht : answer rules j with
  | some t =>
    obtain ⟨n, hn⟩ := answer_eq_some.1 ht
    obtain ⟨u, hl, hr, hu⟩ := h n t hn
    exact .inr ⟨t, u, rfl, hu.exists.choose_spec, hl, hr⟩
  | none =>
    refine .inl ⟨rfl, answer_eq_none.2 fun n => ?_⟩
    cases hn : stage rules' n j' with
    | none => rfl
    | some u =>
      obtain ⟨t, -, -, ht'⟩ := h' n u hn
      cases ht.symm.trans ht'.exists.choose_spec

end Evaluation

/-! ## Runs of a grammar as a whole -/

namespace Grammar

/-- What some stage answers, faults apart. -/
def Returns (rules : Rules) (mode : Mode) (g : Grammar) (c : Cursor) (o : Outcome) : Prop :=
  ∃ stages log, g.runWithin rules stages mode c = some (Traced.mk log (.ok o))

/-- No stage has an answer. -/
def Diverges (rules : Rules) (mode : Mode) (g : Grammar) (c : Cursor) : Prop :=
  ∀ stages, g.runWithin rules stages mode c = none

/-- What some stage ends with in place of an outcome. -/
def Halts (rules : Rules) (mode : Mode) (g : Grammar) (c : Cursor) (e : Fault) : Prop :=
  ∃ stages log, g.runWithin rules stages mode c = some (Traced.mk log (.error e))

variable {rules : Rules} {mode : Mode} {g : Grammar} {c : Cursor} {o : Outcome}

theorem halts_of_answer {e : Fault} {log : List Event}
    (h : Evaluation.answer rules (.run mode g c) = some (Traced.mk log (.error e))) :
    g.Halts rules mode c e := by
  obtain ⟨stages, hs⟩ := Evaluation.answer_eq_some.1 h
  exact ⟨stages, log, hs⟩

theorem returns_iff_answer : g.Returns rules mode c o ↔
    ∃ log, Evaluation.answer rules (.run mode g c) = some (Traced.mk log (.ok o)) := by
  constructor
  · rintro ⟨stages, log, h⟩
    exact ⟨log, Evaluation.answer_of_stage h⟩
  · rintro ⟨log, h⟩
    obtain ⟨stages, hs⟩ := Evaluation.answer_eq_some.1 h
    exact ⟨stages, log, hs⟩

theorem diverges_iff_answer :
    g.Diverges rules mode c ↔ Evaluation.answer rules (.run mode g c) = none :=
  Evaluation.answer_eq_none.symm

/-- Sides that lead to one another go on forever together, or return outcomes that correspond, or end
with the same fault. -/
theorem agree_of_led {K K' : Correspondence} {operand body operand' body' : Grammar → Grammar → Prop}
    {rules' : Rules} {g' : Grammar} {c' : Cursor}
    (hforth : ∀ n, Evaluation.LedBefore K operand body rules rules' n)
    (hback : ∀ n, Evaluation.LedBefore K' operand' body' rules' rules n)
    (hjob : K.SameJob operand body (.run mode g c) (.run mode g' c'))
    (hjob' : K'.SameJob operand' body' (.run mode g' c') (.run mode g c)) :
    (g.Diverges rules mode c ∧ g'.Diverges rules' mode c') ∨
      (∃ o o', g.Returns rules mode c o ∧ g'.Returns rules' mode c' o' ∧ K.outcome o o') ∨
      ∃ e, K.seen.fault e ∧ g.Halts rules mode c e ∧ g'.Halts rules' mode c' e := by
  have hleads := fun n => hforth (n + 1) n (Nat.lt_succ_self n) hjob
  have hleads' := fun n => hback (n + 1) n (Nat.lt_succ_self n) hjob'
  obtain ⟨hd, hd'⟩ | ⟨⟨l, t⟩, ⟨l', t'⟩, ht, ht', -, hagree⟩ :=
    Evaluation.none_or_agree hleads hleads'
  · exact .inl ⟨diverges_iff_answer.2 hd, diverges_iff_answer.2 hd'⟩
  · cases hagree with
    | error he => exact .inr (.inr ⟨_, he, halts_of_answer ht, halts_of_answer ht'⟩)
    | ok ho =>
      exact .inr (.inl ⟨_, _, returns_iff_answer.2 ⟨l, ht⟩, returns_iff_answer.2 ⟨l', ht'⟩, ho⟩)

theorem Returns.unique {o' : Outcome} (h : g.Returns rules mode c o)
    (h' : g.Returns rules mode c o') : o = o' := by
  obtain ⟨log, h⟩ := returns_iff_answer.1 h
  obtain ⟨log', h'⟩ := returns_iff_answer.1 h'
  cases h.symm.trans h'
  rfl

end Grammar
end Descent
