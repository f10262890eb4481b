import Descent.Proofs.Evaluation.Trace
import Descent.Proofs.Wrapping

/-! # Names that change nothing

Names and handles of parsers are seen in messages and traces only. Two grammars that differ in
nothing else run alike whatever is skipped: a name or a handle runs what it stands for right where
it is, so it adds no attempt to skip and no line to the trace. -/
namespace Descent

/-- Events that differ at most in the name of a parser that failed. -/
inductive Event.Renamed : Event → Event → Prop where
  | failed (p q : String) (offset : Nat) : Renamed (.failed p offset) (.failed q offset)
  | counted (key : String) : Renamed (.counted key) (.counted key)
  | built (rule : String) : Renamed (.built rule) (.built rule)

/-- Logs with the same events up to names have lines at the same offsets. -/
theorem Event.offsets_eq {l l' : List Event} (h : List.Forall₂ Renamed l l') :
    (l.filterMap line?).map Prod.snd = (l'.filterMap line?).map Prod.snd := by
  induction h with
  | nil => rfl
  | cons he _ ih =>
    cases he with
    | failed p q offset => exact congrArg (offset :: ·) ih
    | counted key => exact ih
    | built rule => exact ih

namespace Observation

/-- Logs are looked at, but not the names in them. -/
def unnamed : Observation where
  logs := List.Forall₂ Event.Renamed
  fault _ := True
  nil := .nil
  append h h' := List.rel_append h h'

end Observation

theorem ahead_congr {c d : Cursor} (h : c = d) : c.ahead = d.ahead := h ▸ rfl

theorem past_congr {c d : Cursor} (n : Nat) (h : c = d) : c.past n = d.past n := h ▸ rfl

/-- The same cursor on both sides; failures differ at most in the operand that lookahead quotes. -/
def Correspondence.unnamed : Correspondence := Alignment.correspondence {
  cursor := Eq
  failure := fun e e' => (Outcome.failure e).Alike (.failure e')
  quoted := fun _ _ => True
  called := Eq
  spans := True
  seen := .unnamed
  ahead := @ahead_congr
  past := @past_congr
  refused := by
    rintro c _ reason parser rfl
    exact .failure c parser (.same reason)
  unexpected := by
    rintro c _ p q rfl -
    exact .failure c "not" (.unexpectedMatch p q)
  missing := by
    rintro c _ p q rfl -
    exact .failure c "guard" (.missingMatch p q)
  spanned := by
    rintro - c _ d _ v rfl rfl
    exact .refl (fun _ => trivial) (fun _ => rfl) _
  built := by
    rintro p _ rfl
    exact .cons (.built p) .nil
  counted key := .cons (.counted key) .nil }

theorem Correspondence.unnamed_outcome {o o' : Outcome} : unnamed.outcome o o' ↔ o.Alike o' := by
  constructor
  · rintro (⟨rfl, rfl⟩ | he)
    · exact .success _ _
    · exact he
  · rintro (⟨v, rest⟩ | ⟨rest, parser, hr⟩)
    · exact .success rfl rfl
    · exact .failure (.failure rest parser hr)

namespace Grammar

/-- Grammars that differ only in names and handles, put anywhere on either side. Parsers written by
hand correspond if they treat outcomes alike that are. -/
inductive Renamed : Grammar → Grammar → Prop where
  | form {g g' : Grammar} : Correspondence.unnamed.SameForm Renamed Renamed g g' → Renamed g g'
  | named_left (name : String) {g g' : Grammar} : Renamed g g' → Renamed (named name g) g'
  | named_right (name : String) {g g' : Grammar} : Renamed g g' → Renamed g (named name g')
  | shared_left {g g' : Grammar} : Renamed g g' → Renamed (shared g) g'
  | shared_right {g g' : Grammar} : Renamed g g' → Renamed g (shared g')

/-- Nothing is renamed. -/
theorem Everywhere.renamed {g : Grammar}
    (h : g.Everywhere (Correspondence.unnamed.Allows Renamed Renamed)) : g.Renamed g := by
  induction h with
  | @intro g hhead _ ih =>
    have hform := Correspondence.sameForm_mapParts (p := id) (b := id) Iff.rfl hhead ih
      (fun _ _ => trivial) (by
        rintro h (rfl | ⟨name, rfl⟩)
        · exact ih h (.shared h)
        · exact ih h (.named name h))
    rw [mapParts_id] at hform
    exact .form hform

theorem unnamed_give (o o' : Outcome) (h : Correspondence.unnamed.outcome o o') :
    Correspondence.unnamed.SameScript Renamed Renamed (.give o) (.give o') :=
  .give h

/-- The parser that counts its runs takes over the name. -/
theorem Renamed.counted (key : String) {g g' : Grammar} (h : g.Renamed g') :
    (counted key g).Renamed (counted key g') :=
  .form (.script _ _ fun _ _ hc => .note key (.apply h hc unnamed_give))

theorem Renamed.raw (name : String) {g g' : Grammar} (h : g.Renamed g') :
    (Handwritten.raw name g).Renamed (Handwritten.raw name g') :=
  .form (.script _ _ fun _ _ hc => .apply h hc unnamed_give)

theorem Renamed.noSkip (name : String) {g g' : Grammar} (h : g.Renamed g') :
    (Handwritten.noSkip name g).Renamed (Handwritten.noSkip name g') := by
  refine .form (.script name name ?_)
  rintro c _ rfl
  refine .parse h rfl fun o o' ho => ?_
  cases ho with
  | @success v w r r' hv hr =>
    cases hv
    cases hr
    dsimp only
    cases c.advance r.offset with
    | error e => exact .halt trivial
    | ok d => exact .give (.success rfl rfl)
  | failure he => exact .give (.failure he)

end Grammar

namespace Evaluation

open Run Correspondence Grammar

variable {rules rules' : Rules}

/-! ## Simulation both ways -/

section Simulation

theorem failed_renamed (g g' : Grammar) {e e' : Failure}
    (h : (Outcome.failure e).Alike (.failure e')) :
    List.Forall₂ Event.Renamed [.failed g.name e.rest.offset] [.failed g'.name e'.rest.offset] := by
  cases h with
  | failure rest parser hr => exact .cons (.failed _ _ _) .nil

variable (hrules : ∀ name, (rules name).Renamed (rules' name))
include hrules

theorem called_renamed {p p' : String} (h : unnamed.called p p') :
    (rules p).Renamed (rules' p') := by
  cases h
  exact hrules p

theorem renamed_apply_led {n : Nat}
    (hbefore : LedBefore unnamed Renamed Renamed rules rules' n) {g g' : Grammar}
    (h : g.Renamed g') (c : Cursor) :
    Leads unnamed.seen unnamed.outcome (stage rules n (.run .apply g c)) fun _ =>
      answer rules' (.run .apply g' c) := by
  match h with
  | .form hform => exact hbefore.form (called_renamed hrules) hform rfl
  | .named_left name h =>
    cases n with
    | zero => exact .nothing
    | succ n => exact renamed_apply_led (hbefore.mono (Nat.le_succ n)) h c
  | .shared_left h =>
    cases n with
    | zero => exact .nothing
    | succ n => exact renamed_apply_led (hbefore.mono (Nat.le_succ n)) h c
  | .named_right name h =>
    rw [answer_apply rules' (.named name _)]
    exact renamed_apply_led hbefore h c
  | .shared_right h =>
    rw [answer_apply rules' (.shared _)]
    exact renamed_apply_led hbefore h c

theorem unrenamed_apply_led {n : Nat}
    (hbefore : LedBefore unnamed.flip (fun g' g => g.Renamed g') (fun g' g => g.Renamed g') rules'
      rules n) {g g' : Grammar} (h : g.Renamed g') (c : Cursor) :
    Leads unnamed.flip.seen unnamed.flip.outcome (stage rules' n (.run .apply g' c)) fun _ =>
      answer rules (.run .apply g c) := by
  match h with
  | .form hform => exact hbefore.form (fun hp => called_renamed hrules hp) hform.flip rfl
  | .named_right name h =>
    cases n with
    | zero => exact .nothing
    | succ n => exact unrenamed_apply_led (hbefore.mono (Nat.le_succ n)) h c
  | .shared_right h =>
    cases n with
    | zero => exact .nothing
    | succ n => exact unrenamed_apply_led (hbefore.mono (Nat.le_succ n)) h c
  | .named_left name h =>
    rw [answer_apply rules (.named name _)]
    exact unrenamed_apply_led hbefore h c
  | .shared_left h =>
    rw [answer_apply rules (.shared _)]
    exact unrenamed_apply_led hbefore h c

theorem renamed_led (n : Nat) : LedBefore unnamed Renamed Renamed rules rules' n := by
  refine led_before (called_renamed hrules) (fun {n} hbefore g g' c c' hg hc => ?_)
    (fun {n} hbefore g g' c c' hg hc => ?_) n
  · cases hc
    cases n with
    | zero => exact .nothing
    | succ n =>
      rw [answer_eq_step]
      exact parse_leads (hbefore n (Nat.lt_succ_self n) (.body hg rfl)) fun _ _ he =>
        failed_renamed g g' he
  · cases hc
    exact renamed_apply_led hrules hbefore hg c

theorem unrenamed_led (n : Nat) : LedBefore unnamed.flip (fun g' g => g.Renamed g')
    (fun g' g => g.Renamed g') rules' rules n := by
  refine led_before ?_ (fun {n} hbefore g' g c' c hg hc => ?_)
    (fun {n} hbefore g' g c' c hg hc => ?_) n
  · intro p' p hp
    cases hp
    exact hrules p'
  · cases hc
    cases n with
    | zero => exact .nothing
    | succ n =>
      rw [answer_eq_step]
      exact parse_leads (hbefore n (Nat.lt_succ_self n) (.body hg rfl)) fun _ _ he =>
        failed_renamed g g' he
  · cases hc
    exact unrenamed_apply_led hrules hbefore hg c'

end Simulation

end Evaluation

namespace Grammar

/-- Names and handles do not show, whatever is skipped: both parsers go on forever, or both come to
the end. Then the results are the same up to the operand that lookahead quotes, faults included, and
the traces have their lines at the same offsets. -/
theorem renamed_agrees {rules rules' : Rules}
    (hrules : ∀ name, (rules name).Renamed (rules' name)) {g g' : Grammar} (hg : g.Renamed g')
    (c : Cursor) :
    (g.Diverges rules .parse c ∧ g'.Diverges rules' .parse c) ∨
      ∃ t t', g.RunsTo rules .parse c t ∧ g'.RunsTo rules' .parse c t' ∧
        Agree (fun _ => True) Outcome.Alike t.result t'.result ∧
        t.trace.map Prod.snd = t'.trace.map Prod.snd := by
  have hforth := fun n => Evaluation.renamed_led hrules (n + 1) n (Nat.lt_succ_self n)
    (.parse hg (rfl : c = c))
  have hback := fun n => Evaluation.unrenamed_led hrules (n + 1) n (Nat.lt_succ_self n)
    (.parse hg (rfl : c = c))
  obtain ⟨hd, hd'⟩ | ⟨t, t', ht, ht', hlogs, hagree⟩ := Evaluation.none_or_agree hforth hback
  · exact .inl ⟨diverges_iff_answer.2 hd, diverges_iff_answer.2 hd'⟩
  · refine .inr ⟨t, t', runsTo_iff_answer.2 ht, runsTo_iff_answer.2 ht', ?_, Event.offsets_eq hlogs⟩
    exact hagree.mono fun _ _ => Correspondence.unnamed_outcome.1

/-- A refused sign before a digit, with names and handles around operands, in a rule and behind
parsers written by hand. -/
theorem renamed_agrees_signed :
    let rules : Rules := fun _ => named "digit" (literal ['1'])
    let rules' : Rules := fun _ => literal ['1']
    let g := named "number" (both (absent (named "sign" (literal ['-'])))
      (Handwritten.noSkip "next"
        (counted "runs" (Handwritten.raw "here" (shared (rule "digit"))))))
    let g' := both (absent (shared (literal ['-'])))
      (Handwritten.noSkip "next"
        (counted "runs" (named "last" (Handwritten.raw "here" (rule "digit")))))
    let c : Cursor := .start [' ', '-', '1']
    (g.Diverges rules .parse c ∧ g'.Diverges rules' .parse c) ∨
      ∃ t t', g.RunsTo rules .parse c t ∧ g'.RunsTo rules' .parse c t' ∧
        Agree (fun _ => True) Outcome.Alike t.result t'.result ∧
        t.trace.map Prod.snd = t'.trace.map Prod.snd := by
  intro rules rules' g g' c
  have hleaf : ∀ t, (literal t).Renamed (literal t) := fun _ => Everywhere.renamed (.intro id nofun)
  have hdigit : (rule "digit").Renamed (rule "digit") := Everywhere.renamed (.intro rfl nofun)
  have hsign : (absent (named "sign" (literal ['-']))).Renamed (absent (shared (literal ['-']))) :=
    .form (.absent (.named_left "sign" (.shared_right (hleaf ['-']))) trivial)
  have hnext := Renamed.counted "runs" (.named_right "last" (.raw "here" (.shared_left hdigit)))
  have hg : g.Renamed g' := .named_left "number" (.form (.both hsign (.noSkip "next" hnext)))
  exact renamed_agrees (fun _ => .named_left "digit" (hleaf ['1'])) hg c

end Grammar
end Descent
