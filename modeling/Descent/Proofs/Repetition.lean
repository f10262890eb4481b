import Descent.Proofs.Evaluation.Inversion
import Descent.Proofs.Evaluation.Trace
import Descent.Proofs.Termination

/-! # Turns of a repetition

All repetitions go on in the same way: a turn is taken as long as it succeeds, and the rest is
where it fails. A turn of a separated list is a separator with an item behind it, so a separator
alone is part of a turn that fails. Turns that do not go back come to an end unless one of them
stays where it is, and then it is taken forever. -/
namespace Descent

namespace Grammar

variable {rules : Rules} {mode : Mode} {g : Grammar} {c d r : Cursor}

def Leads (rules : Rules) (mode : Mode) (g : Grammar) (c r : Cursor) : Prop :=
  ∃ v, g.Returns rules mode c (.success v r)

theorem returns_iff_runsTo {o : Outcome} :
    g.Returns rules mode c o ↔ ∃ l, g.RunsTo rules mode c ⟨l, .ok o⟩ :=
  returns_iff_answer.trans (exists_congr fun _ => runsTo_iff_answer.symm)

/-- Turns that are taken one after another up to the first that fails: what each of them logs, the
values of those that succeed, and where the last one is tried. -/
inductive Attempts (rules : Rules) (mode : Mode) (g : Grammar) :
    Cursor → List (List Event) → List Value → Cursor → Prop where
  | stop {c : Cursor} {l : List Event} {e : Failure} :
    g.RunsTo rules mode c ⟨l, .ok (.failure e)⟩ → Attempts rules mode g c [l] [] c
  | more {c r d : Cursor} {l : List Event} {v : Value} {ls : List (List Event)} {vs : List Value} :
    g.RunsTo rules mode c ⟨l, .ok (.success v r)⟩ → Attempts rules mode g r ls vs d →
      Attempts rules mode g c (l :: ls) (v :: vs) d

def Gathers (rules : Rules) (mode : Mode) (g : Grammar) (c : Cursor) (vs : List Value)
    (d : Cursor) : Prop :=
  ∃ ls, g.Attempts rules mode c ls vs d

/-- A parser that returns wherever it is entered, and on success at no earlier place of the same
source, with the same to skip. -/
def Dependable (rules : Rules) (mode : Mode) (g : Grammar) : Prop :=
  ∀ c, ∃ o, g.Returns rules mode c o ∧ ∀ v r, o = .success v r → c.Reaches r

end Grammar

namespace Evaluation

open Grammar Run

variable {rules : Rules} {mode : Mode} {g p separator : Grammar} {job : Cursor → Job}
variable {c d r : Cursor} {l : List Event} {v : Value} {o : Outcome}

/-- What comes of a turn: with its value the turns behind it, or an end where it was tried. -/
def proceed (ask : Job → Run Outcome) (job : Cursor → Job) (c : Cursor) : Outcome → Run Outcome
  | .success v r => return (← ask (job r)).map (cons v)
  | .failure _ => return .success (.list []) c

/-- The jobs that take turns with `g`. -/
structure Loop (rules : Rules) (mode : Mode) (g : Grammar) (job : Cursor → Job) : Prop where
  answer_eq : ∀ c, answer rules (job c) =
    answer rules (.run mode g c) >>= proceed (answer rules) job c
  /-- Where a turn succeeds, a stage waits for an earlier one to take the next turn. -/
  earlier : ∀ {n c v r t}, g.Returns rules mode c (.success v r) →
    stage rules (n + 1) (job c) = some t → ∃ u, stage rules n (job r) = some u

/-- A computation that is answered behind a known outcome has been answered there. -/
theorem exists_of_bind {f : Outcome → Run Outcome} {n : Nat} {t : Traced Outcome}
    (hg : g.Returns rules mode c o) (h : stage rules n (.run mode g c) >>= f = some t) :
    ∃ u, f o = some u := by
  obtain ⟨m, hm⟩ := returns_iff_answer.1 hg
  rcases bind_eq_some h with ⟨e, he, -⟩ | ⟨l, a, u, ha, hu, -⟩
  · cases (answer_of_stage he).symm.trans hm
  · cases (answer_of_stage ha).symm.trans hm
    exact ⟨u, hu⟩

theorem exists_of_mapped {x : Run Outcome} {f : Value → Value} {t : Traced Outcome}
    (h : (x >>= fun o => pure (o.map f)) = some t) : ∃ u, x = some u := by
  cases x with
  | none => cases h
  | some u => exact ⟨u, rfl⟩

theorem loop_many : Loop rules .parse p fun c => .run .apply (.many p) c where
  answer_eq c := by
    rw [answer_apply, apply]
    refine congrArg (answer rules (.run .parse p c) >>= ·) (funext fun o => ?_)
    cases o <;> rfl
  earlier hp h := by
    obtain ⟨u, hu⟩ := exists_of_bind hp h
    exact exists_of_mapped hu

/-- A turn of a separated list runs a separator with an item behind it. -/
theorem loop_items :
    Loop rules .apply (.keepRight separator p) fun c => .items p separator c where
  answer_eq c := by
    rw [answer_eq_step, answer_apply, apply, onSuccess, bind_assoc]
    refine congrArg (answer rules (.run .parse separator c) >>= ·) (funext fun o => ?_)
    cases o with
    | failure e => exact (done_bind _ _).symm
    | success v after =>
      refine congrArg (answer rules (.run .parse p after) >>= ·) (funext fun o => ?_)
      cases o <;> rfl
  earlier hturn h := by
    obtain ⟨w, after, hseparator, hp⟩ | ⟨e, -, he⟩ := returns_keepRight_iff.1 hturn
    · obtain ⟨u, hu⟩ := exists_of_bind hseparator h
      obtain ⟨u, hu⟩ := exists_of_bind hp hu
      exact exists_of_mapped hu
    · cases he

section Loop

variable (h : Loop rules mode g job)
include h

/-- Turns that come to an end are all that a loop runs and logs. -/
theorem Loop.answer_of_attempts {ls : List (List Event)} {vs : List Value}
    (ha : g.Attempts rules mode c ls vs d) :
    answer rules (job c) = some ⟨ls.flatten, .ok (.success (.list vs) d)⟩ := by
  induction ha with
  | @stop c l e hg =>
    rw [h.answer_eq, bind_of_ok (runsTo_iff_answer.1 hg) rfl, List.flatten_singleton,
      List.append_nil]
  | more hg _ ih =>
    rw [h.answer_eq]
    refine (bind_of_ok (runsTo_iff_answer.1 hg) (bind_of_ok ih rfl)).trans ?_
    rw [List.append_nil]
    rfl

theorem Loop.exists_attempts {n : Nat} (hn : stage rules n (job c) = some ⟨l, .ok o⟩) :
    ∃ ls vs d, g.Attempts rules mode c ls vs d := by
  induction n generalizing c l o with
  | zero => cases hn
  | succ n ih =>
    have ha := answer_of_stage hn
    rw [h.answer_eq] at ha
    rcases bind_eq_some ha with ⟨e, -, he⟩ | ⟨l, a, u, hg, hu, ht⟩
    · cases he
    · cases a with
      | failure e => exact ⟨[l], [], c, .stop (runsTo_iff_answer.2 hg)⟩
      | success v r =>
        have hr : g.RunsTo rules mode c ⟨l, .ok (.success v r)⟩ := runsTo_iff_answer.2 hg
        obtain ⟨⟨m, x⟩, hx⟩ := h.earlier (returns_iff_runsTo.2 ⟨l, hr⟩) hn
        cases x with
        | ok o' =>
          obtain ⟨ls, vs, d, hend⟩ := ih hx
          exact ⟨_, _, d, .more hr hend⟩
        | error e =>
          cases (bind_of_error _ (answer_of_stage hx)).symm.trans hu
          cases ht

/-- A loop returns if and only if its turns come to an end. -/
theorem Loop.returns_iff : (answer rules (job c)).result? = some (.ok o) ↔
    ∃ vs d, g.Gathers rules mode c vs d ∧ o = .success (.list vs) d := by
  constructor
  · intro ho
    obtain ⟨l, hl⟩ := result?_eq_some.1 ho
    obtain ⟨n, hn⟩ := answer_eq_some.1 hl
    obtain ⟨ls, vs, d, ha⟩ := h.exists_attempts hn
    cases (h.answer_of_attempts ha).symm.trans hl
    exact ⟨vs, d, ⟨ls, ha⟩, rfl⟩
  · rintro ⟨vs, d, ⟨ls, ha⟩, rfl⟩
    exact result?_eq_some.2 ⟨_, h.answer_of_attempts ha⟩

/-- A turn that stays where it is is taken forever. -/
theorem Loop.diverges_of_leads_self (hd : g.Leads rules mode d d) :
    answer rules (job d) = none := by
  obtain ⟨v, hv⟩ := hd
  refine answer_eq_none.2 fun n => ?_
  induction n with
  | zero => rfl
  | succ n ih =>
    cases ht : stage rules (n + 1) (job d) with
    | none => rfl
    | some t =>
      obtain ⟨u, hu⟩ := h.earlier hv ht
      cases ih.symm.trans hu

theorem Loop.diverges (hc : Relation.ReflTransGen (g.Leads rules mode) c d)
    (hd : g.Leads rules mode d d) : answer rules (job c) = none := by
  induction hc using Relation.ReflTransGen.head_induction_on with
  | refl => exact h.diverges_of_leads_self hd
  | head hr _ ih =>
    obtain ⟨v, hv⟩ := hr
    obtain ⟨l, hl⟩ := returns_iff_answer.1 hv
    rw [h.answer_eq, hl]
    refine (ok_bind l _ _).trans ?_
    rw [proceed, ih]
    rfl

end Loop

end Evaluation

namespace Grammar

open Evaluation

variable {rules : Rules} {mode : Mode} {g p separator : Grammar} {c d r : Cursor}

/-- From everywhere, turns come to one that stays where it is or to one that fails. Before that each
of them reads something. -/
theorem Dependable.exists_end (hg : g.Dependable rules mode) (c : Cursor) :
    (∃ d, Relation.ReflTransGen (g.Leads rules mode) c d ∧ g.Leads rules mode d d) ∨
      ∃ ls vs d, g.Attempts rules mode c ls vs d ∧ ls.length ≤ Text.size c.ahead + 1 := by
  induction hsize : Text.size c.ahead using Nat.strong_induction_on generalizing c with
  | _ n ih =>
    subst hsize
    obtain ⟨o, ho, hreaches⟩ := hg c
    obtain ⟨l, hl⟩ := returns_iff_runsTo.1 ho
    cases o with
    | failure e => exact .inr ⟨_, _, _, .stop hl, Nat.le_add_left _ _⟩
    | success v r =>
      have hr := hreaches v r rfl
      by_cases heq : c.offset = r.offset
      · have hcr : c = r := Cursor.eq_of_offset_eq hr.source.symm heq hr.skip.symm
        subst hcr
        exact .inl ⟨c, .refl, v, ho⟩
      · have hlt := hr.size_ahead_lt (Nat.lt_of_le_of_ne hr.le heq)
        rcases ih _ hlt r rfl with ⟨d, hd, hself⟩ | ⟨ls, vs, d, ha, hle⟩
        · exact .inl ⟨d, .head ⟨v, ho⟩ hd, hself⟩
        · refine .inr ⟨_, _, d, .more hl ha, ?_⟩
          rw [List.length_cons]
          omega

theorem dependable_of_wellFormed (hrules : rules.WellFormed) (hg : g.WellFormed rules) :
    g.Dependable rules .parse := by
  intro c
  obtain ⟨l, o, ho, hbeyond⟩ := ((settles hrules c.skipped).applies hg).parses
  refine ⟨o, returns_iff_answer.2 ⟨l, ho⟩, ?_⟩
  rintro v r rfl
  exact (Cursor.Reaches.skipped c).trans hbeyond.reaches

theorem Dependable.keepRight (hs : separator.Dependable rules .parse)
    (hp : p.Dependable rules .parse) : (keepRight separator p).Dependable rules .apply := by
  intro c
  obtain ⟨o, ho, hc⟩ := hs c
  cases o with
  | failure e => exact ⟨_, returns_keepRight_iff.2 (.inr ⟨e, ho, rfl⟩), nofun⟩
  | success v r =>
    obtain ⟨o, ho', hr⟩ := hp r
    refine ⟨o, returns_keepRight_iff.2 (.inl ⟨v, r, ho, ho'⟩), fun w d hd => ?_⟩
    exact (hc v r rfl).trans (hr w d hd)

theorem Dependable.parse (hg : g.Dependable rules .apply) : g.Dependable rules .parse := by
  intro c
  obtain ⟨o, ho, hr⟩ := hg c.skipped
  exact ⟨o, returns_parse.2 ho, fun v r hv => (Cursor.Reaches.skipped c).trans (hr v r hv)⟩

theorem dependable_leaf {answer : Text → Leaf.Answer} (h : g.leaf? = some answer) :
    g.Dependable rules .apply := by
  intro c
  refine ⟨_, returns_leaf h, fun v r hv => ?_⟩
  cases ha : answer c.ahead with
  | accepts w n =>
    rw [ha] at hv
    cases hv
    exact .past c n
  | refuses reason parser =>
    rw [ha] at hv
    cases hv

theorem Dependable.either {a b : Grammar} (ha : a.Dependable rules .parse)
    (hb : b.Dependable rules .parse) : (either a b).Dependable rules .apply := by
  intro c
  obtain ⟨o, ho, hc⟩ := ha c
  cases o with
  | success v r => exact ⟨_, returns_either_iff.2 (.inl ⟨v, r, ho, rfl⟩), hc⟩
  | failure e =>
    obtain ⟨o, ho', hc⟩ := hb c
    exact ⟨o, returns_either_iff.2 (.inr ⟨⟨e, ho⟩, ho'⟩), hc⟩

/-- Where the parser ends, skipping before it has ended as well. -/
theorem Dependable.spanned (hg : g.Dependable rules .apply) :
    (spanned g).Dependable rules .apply := by
  intro c
  obtain ⟨o, ho, hc⟩ := hg c.skipped
  cases o with
  | failure e => exact ⟨_, returns_spanned_iff.2 (.inr ⟨e, returns_parse.2 ho, rfl⟩), nofun⟩
  | success v r =>
    have hr := hc v r rfl
    have hwithin : Span.within c.source c.skipped.offset r.offset =
        .ok ⟨c.source, c.skipped.offset, r.offset⟩ := by
      have hsource := hr.source.trans (c.past_source _)
      exact if_pos ⟨hr.le, hsource ▸ r.offset_le_size⟩
    refine ⟨_, returns_spanned_iff.2 (.inl ⟨v, r, _, returns_parse.2 ho, hwithin, rfl⟩), ?_⟩
    rintro _ _ ⟨⟩
    exact (Cursor.Reaches.skipped c).trans hr

/-! ## What repetitions return -/

variable {o : Outcome} {e : Failure}

theorem returns_many_iff : (many p).Returns rules .apply c o ↔
    ∃ vs d, p.Gathers rules .parse c vs d ∧ o = .success (.list vs) d :=
  returns_iff_result?.trans loop_many.returns_iff

/-- The outcome of a first item with turns behind it: all values, or the failure of the first. -/
def Heads (rules : Rules) (p : Grammar) (mode : Mode) (turn : Grammar) (c : Cursor) (o : Outcome) :
    Prop :=
  (∃ v r vs d, p.Yields rules c v r ∧ turn.Gathers rules mode r vs d ∧
      o = .success (.list (v :: vs)) d) ∨
    ∃ e, p.Returns rules .parse c (.failure e) ∧ o = .failure e

theorem heads_failure_iff {turn : Grammar} :
    p.Heads rules mode turn c (.failure e) ↔ p.Returns rules .parse c (.failure e) := by
  constructor
  · rintro (⟨_, _, _, _, -, -, he⟩ | ⟨_, he, ⟨⟩⟩)
    · cases he
    · exact he
  · exact fun he => .inr ⟨e, he, rfl⟩

theorem heads_iff_result? {job : Cursor → Job} (h : Loop rules mode g job) :
    p.Heads rules mode g c o ↔ (Run.onSuccess (answer rules (.run .parse p c)) fun v r =>
      answer rules (job r) >>= fun o => pure (o.map (cons v))).result? = some (.ok o) := by
  rw [Run.result?_onSuccess_eq_ok, Heads]
  simp only [Run.result?_mapped_eq_ok, h.returns_iff, Yields, returns_iff_result?]
  refine or_congr (exists₂_congr fun v r => ⟨?_, ?_⟩) Iff.rfl
  · rintro ⟨vs, d, hp, hg, rfl⟩
    exact ⟨hp, _, ⟨vs, d, hg, rfl⟩, rfl⟩
  · rintro ⟨hp, o', ⟨vs, d, hg, rfl⟩, rfl⟩
    exact ⟨vs, d, hp, hg, rfl⟩

theorem returns_many1_iff : (many1 p).Returns rules .apply c o ↔ p.Heads rules .parse p c o := by
  rw [returns_iff_apply]
  exact (heads_iff_result? loop_many).symm

theorem returns_many1Sep_iff : (many1Sep p separator).Returns rules .apply c o ↔
    p.Heads rules .apply (keepRight separator p) c o := by
  rw [returns_iff_apply]
  exact (heads_iff_result? loop_items).symm

/-! ## How repetitions run -/

/-- Behind what has been logged and read before, `g` takes turns from `r` on. It goes on forever if
and only if they come to one that stays where it is. Otherwise it succeeds with the values of the
turns, right where the first of them fails, and runs nothing else. -/
structure Repeats (rules : Rules) (g : Grammar) (c : Cursor) (l : List Event) (before : List Value)
    (mode : Mode) (turn : Grammar) (r : Cursor) : Prop where
  diverges : g.Diverges rules .apply c ↔
    ∃ d, Relation.ReflTransGen (turn.Leads rules mode) r d ∧ turn.Leads rules mode d d
  runsTo : ¬g.Diverges rules .apply c → ∃ ls vs d, turn.Attempts rules mode r ls vs d ∧
    ls.length ≤ Text.size r.ahead + 1 ∧
      g.RunsTo rules .apply c ⟨l ++ ls.flatten, .ok (.success (.list (before ++ vs)) d)⟩

theorem repeats_of_loop {turn : Grammar} {job : Cursor → Job} {l : List Event} {before : List Value}
    (h : Loop rules mode turn job) (hturn : turn.Dependable rules mode)
    (hnone : answer rules (job r) = none → answer rules (.run .apply g c) = none)
    (hsome : ∀ {m vs d}, answer rules (job r) = some ⟨m, .ok (.success (.list vs) d)⟩ →
      answer rules (.run .apply g c) = some ⟨l ++ m, .ok (.success (.list (before ++ vs)) d)⟩) :
    Repeats rules g c l before mode turn r := by
  have hrun : ∀ {ls vs d}, turn.Attempts rules mode r ls vs d →
      g.RunsTo rules .apply c ⟨l ++ ls.flatten, .ok (.success (.list (before ++ vs)) d)⟩ :=
    fun ha => runsTo_iff_answer.2 (hsome (h.answer_of_attempts ha))
  have hforever : (∃ d, Relation.ReflTransGen (turn.Leads rules mode) r d ∧
      turn.Leads rules mode d d) → g.Diverges rules .apply c :=
    fun ⟨d, hd, hself⟩ => diverges_iff_answer.2 (hnone (h.diverges hd hself))
  constructor
  · refine ⟨fun hdiv => ?_, hforever⟩
    rcases hturn.exists_end r with hd | ⟨ls, vs, d, ha, -⟩
    · exact hd
    · cases (diverges_iff_answer.1 hdiv).symm.trans (runsTo_iff_answer.1 (hrun ha))
  · intro hdiv
    rcases hturn.exists_end r with hd | ⟨ls, vs, d, ha, hle⟩
    · exact absurd (hforever hd) hdiv
    · exact ⟨ls, vs, d, ha, hle, hrun ha⟩

theorem many_repeats (hp : p.Dependable rules .parse) (c : Cursor) :
    Repeats rules (many p) c [] [] .parse p c :=
  repeats_of_loop loop_many hp id id

theorem many1_repeats (hp : p.Dependable rules .parse) {v : Value} (hv : p.Yields rules c v r) :
    Repeats rules (many1 p) c [] [] .parse p c := by
  have heq : answer rules (.run .apply (many1 p) c) = answer rules (.run .apply (many p) c) := by
    obtain ⟨l, hl⟩ := returns_iff_answer.1 hv
    rw [answer_apply, answer_apply, apply, apply, hl]
    rfl
  exact repeats_of_loop loop_many hp heq.trans heq.trans

theorem many1Sep_repeats (hp : p.Dependable rules .parse) (hs : separator.Dependable rules .parse)
    {l : List Event} {v : Value} (hv : p.RunsTo rules .parse c ⟨l, .ok (.success v r)⟩) :
    Repeats rules (many1Sep p separator) c l [v] .apply (keepRight separator p) r := by
  have heq : answer rules (.run .apply (many1Sep p separator) c) =
      (answer rules (.items p separator r) >>= fun o => pure (o.map (cons v))).behind l := by
    rw [answer_apply, apply, runsTo_iff_answer.1 hv]
    exact Run.ok_bind l _ _
  refine repeats_of_loop loop_items (hs.keepRight hp) (fun h => ?_) fun h => ?_
  · rw [heq, h]
    rfl
  · rw [heq, Run.bind_of_ok h rfl, List.append_nil]
    rfl

/-- The three repetitions of `p`. Those that ask for a first item fail as it does. -/
structure Repetition (rules : Rules) (p separator : Grammar) (c : Cursor) : Prop where
  many : Repeats rules (.many p) c [] [] .parse p c
  many1_failure : ∀ e, (many1 p).Returns rules .apply c (.failure e) ↔
    p.Returns rules .parse c (.failure e)
  many1 : (∃ v r, p.Yields rules c v r) → Repeats rules (.many1 p) c [] [] .parse p c
  many1Sep_failure : ∀ e, (many1Sep p separator).Returns rules .apply c (.failure e) ↔
    p.Returns rules .parse c (.failure e)
  many1Sep : ∀ l v r, p.RunsTo rules .parse c ⟨l, .ok (.success v r)⟩ →
    Repeats rules (.many1Sep p separator) c l [v] .apply (keepRight separator p) r

theorem repetition_of_dependable (hp : p.Dependable rules .parse)
    (hs : separator.Dependable rules .parse) (c : Cursor) : Repetition rules p separator c where
  many := many_repeats hp c
  many1_failure _ := returns_many1_iff.trans heads_failure_iff
  many1 := fun ⟨_, _, hv⟩ => many1_repeats hp hv
  many1Sep_failure _ := returns_many1Sep_iff.trans heads_failure_iff
  many1Sep _ _ _ hv := many1Sep_repeats hp hs hv

/-- An item that may be empty: behind the number it moves on once, over a blank, and no further. -/
theorem repetition_of_dependable_optional :
    let rules : Rules := fun _ => atEnd
    (optional integer).Dependable rules .parse ∧ (literal [',']).Dependable rules .parse ∧
      Repetition rules (optional integer) (literal [',']) (.start " 1 a".toList) := by
  intro rules
  have hcalls : ∀ {q}, ¬Calls rules atEnd q := by
    rintro q (_ | ⟨⟨⟩, -⟩)
  have hrules : rules.WellFormed := {
    body := fun _ => .intro trivial nofun
    finite := Set.finite_empty.subset fun _ ⟨_, h⟩ => absurd h hcalls
    acyclic := Rules.acyclic_of_rank (fun _ => 0) fun _ _ h => absurd h hcalls }
  have hitem : (optional integer).Dependable rules .parse :=
    dependable_of_wellFormed hrules (.intro trivial fun | _, .optional _ => .intro trivial nofun)
  have hcomma : (literal [',']).Dependable rules .parse :=
    dependable_of_wellFormed hrules (.intro trivial nofun)
  exact ⟨hitem, hcomma, repetition_of_dependable hitem hcomma _⟩

end Grammar
end Descent
