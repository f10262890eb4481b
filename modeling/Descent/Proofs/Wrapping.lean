import Descent.Proofs.Evaluation.Answer
import Descent.Proofs.Skipping
import Descent.Vocabulary.Handwritten

/-! # Wrappers that change nothing

A parser can be put behind a rule of its own, or mapped by the identity. Each wrapper skips once
more, which shows nowhere if skipping settles at once. -/
namespace Descent

/-- The same outcome, up to the operand that lookahead quotes in the message of a failure. -/
inductive Outcome.Alike : Outcome → Outcome → Prop where
  | success (v : Value) (rest : Cursor) : Alike (.success v rest) (.success v rest)
  | failure (rest : Cursor) {reason reason' : Reason} (parser : String) :
    reason.Alike reason' → Alike (.failure ⟨rest, reason, parser⟩) (.failure ⟨rest, reason', parser⟩)

/-- The same cursor on both sides, where skipping settles. Rules that are called are among those
`kept`. -/
def Correspondence.steady (kept : String → Prop) : Correspondence := Alignment.correspondence {
  cursor := fun c c' => c = c' ∧ c.Steady
  failure := fun e e' => (Outcome.failure e).Alike (.failure e')
  quoted := fun _ _ => True
  called := fun p q => p = q ∧ kept p
  spans := True
  seen := .results fun _ => True
  ahead h := h.1 ▸ rfl
  past n h := ⟨h.1 ▸ rfl, h.2.past n⟩
  refused := by
    rintro c _ reason parser ⟨rfl, -⟩
    exact .failure c parser (.same reason)
  unexpected := by
    rintro c _ p q ⟨rfl, -⟩ -
    exact .failure c "not" (.unexpectedMatch p q)
  missing := by
    rintro c _ p q ⟨rfl, -⟩ -
    exact .failure c "guard" (.missingMatch p q)
  spanned := by
    rintro - c _ d _ v ⟨rfl, -⟩ ⟨rfl, -⟩
    exact .refl (fun _ => trivial) (fun _ => rfl) _
  built _ := trivial
  counted _ := trivial }

namespace Grammar

/-- The second grammar is the first with wrappers at any depth: maps by the identity, and rules for
what they wrap. Parsers written by hand correspond if they only parse, at cursors where skipping
settles, and treat outcomes alike that are. -/
inductive Wrapped (kept : String → Prop) (rules' : Rules) : Grammar → Grammar → Prop where
  | form {g g' : Grammar} :
    (Correspondence.steady kept).SameForm (Wrapped kept rules') (fun _ _ => False) g g' →
      Wrapped kept rules' g g'
  | named (name : String) {g g' : Grammar} :
    Wrapped kept rules' g g' → Wrapped kept rules' (named name g) (named name g')
  | shared {g g' : Grammar} :
    Wrapped kept rules' g g' → Wrapped kept rules' (shared g) (shared g')
  | map {f : Value → Value} {g g' : Grammar} :
    (∀ v, f v = v) → Wrapped kept rules' g g' → Wrapped kept rules' g (map f g')
  | lazy {g : Grammar} (name : String) :
    Wrapped kept rules' g (rules' name) → Wrapped kept rules' g (rule name)

variable {kept : String → Prop} {rules' : Rules}

/-- No wrapper is put anywhere. -/
theorem Everywhere.wrapped {g : Grammar} (h : g.Everywhere
    ((Correspondence.steady kept).Allows (Wrapped kept rules') fun _ _ => False)) :
    g.Wrapped kept rules' g := by
  induction h with
  | @intro g hhead _ ih =>
    cases g with
    | named name g => exact .named name (ih g (.named name g))
    | shared g => exact .shared (ih g (.shared g))
    | _ =>
      have hform := Correspondence.sameForm_mapParts (p := id) (b := id) Iff.rfl hhead ih
        (fun _ _ => trivial) (by rintro _ (h | ⟨_, h⟩) <;> cases h)
      rw [mapParts_id] at hform
      exact .form hform

/-- A parser that is run with nothing to skip can be wrapped there. -/
theorem Wrapped.noSkip (name : String) {g g' : Grammar} (h : g.Wrapped kept rules' g') :
    (Handwritten.noSkip name g).Wrapped kept rules' (Handwritten.noSkip name g') := by
  refine .form (.script name name ?_)
  rintro c _ ⟨rfl, hc⟩
  refine .parse h ⟨rfl, Cursor.steady_of_skip_none rfl⟩ fun o o' ho => ?_
  cases ho with
  | @success v w r r' hv hr =>
    obtain ⟨rfl, -⟩ := hr
    cases hv
    dsimp only
    cases hd : c.advance r.offset with
    | error e => exact .halt trivial
    | ok d => exact .give (.success rfl ⟨rfl, hc.advance hd⟩)
  | failure he => exact .give (.failure he)

end Grammar

namespace Evaluation

open Run Correspondence

variable {kept : String → Prop} {rules rules' : Rules} {c : Cursor}

/-! ## Simulation both ways -/

section Simulation

variable (hrules : ∀ name, kept name → (rules name).Wrapped kept rules' (rules' name))
include hrules

theorem called_wrapped {p p' : String} (h : (steady kept).called p p') :
    (rules p).Wrapped kept rules' (rules' p') := by
  obtain ⟨rfl, hp⟩ := h
  exact hrules p hp

/-- Where skipping has settled, wrappers are entered at the same place as what they wrap. -/
theorem wrapped_apply_led (hc : c.Steady) (hsettled : c.skipped = c) {n : Nat}
    (hbefore : LedBefore (steady kept) (Grammar.Wrapped kept rules') (fun _ _ => False) rules rules'
      n) {g g' : Grammar} (h : g.Wrapped kept rules' g') :
    Leads (.results fun _ => True) (steady kept).outcome (stage rules n (.run .apply g c)) fun _ =>
      answer rules' (.run .apply g' c) := by
  match h with
  | .form hform => exact hbefore.form (called_wrapped hrules) hform ⟨rfl, hc⟩
  | .named name h =>
    cases n with
    | zero => exact .nothing
    | succ n =>
      rw [answer_apply]
      exact wrapped_apply_led hc hsettled (hbefore.mono (Nat.le_succ n)) h
  | .shared h =>
    cases n with
    | zero => exact .nothing
    | succ n =>
      rw [answer_apply]
      exact wrapped_apply_led hc hsettled (hbefore.mono (Nat.le_succ n)) h
  | .map hf h =>
    refine (wrapped_apply_led hc hsettled hbefore h).of_result? rfl ?_
    rw [answer_apply rules' (.map _ _), apply_map_result? rules' _ hf, answer_parse_result?,
      hsettled]
  | .lazy name h =>
    refine (wrapped_apply_led hc hsettled hbefore h).of_result? rfl ?_
    rw [answer_apply rules' (.rule name), apply_rule_result?, answer_parse_result?, hsettled]

/-- A wrapper needs two stages more than what it wraps: one to parse it, one to enter it. -/
theorem unwrapped_apply_led (hc : c.Steady) (hsettled : c.skipped = c) {n : Nat}
    (hbefore : LedBefore (steady kept).flip (fun g' g => g.Wrapped kept rules' g') (fun _ _ => False)
      rules' rules n) {g g' : Grammar} (h : g.Wrapped kept rules' g') :
    Leads (.results fun _ => True) (steady kept).flip.outcome (stage rules' n (.run .apply g' c))
      fun _ => answer rules (.run .apply g c) := by
  match h with
  | .form hform => exact hbefore.form (fun hp => called_wrapped hrules hp) hform.flip ⟨rfl, hc⟩
  | .named name h =>
    cases n with
    | zero => exact .nothing
    | succ n =>
      rw [answer_apply]
      exact unwrapped_apply_led hc hsettled (hbefore.mono (Nat.le_succ n)) h
  | .shared h =>
    cases n with
    | zero => exact .nothing
    | succ n =>
      rw [answer_apply]
      exact unwrapped_apply_led hc hsettled (hbefore.mono (Nat.le_succ n)) h
  | .map hf h =>
    obtain _ | _ | n := n
    · exact .nothing
    · exact .nothing
    · have hinside := unwrapped_apply_led hc hsettled (hbefore.mono (by omega : n ≤ n + 1 + 1)) h
      refine hinside.of_result? ?_ rfl
      rw [stage, step, apply_map_result? rules' _ hf, stage_parse_result?, hsettled]
  | .lazy name h =>
    obtain _ | _ | n := n
    · exact .nothing
    · exact .nothing
    · have hinside := unwrapped_apply_led hc hsettled (hbefore.mono (by omega : n ≤ n + 1 + 1)) h
      refine hinside.of_result? ?_ rfl
      rw [stage, step, apply_rule_result?, stage_parse_result?, hsettled]

theorem wrapped_led (n : Nat) : LedBefore (steady kept) (Grammar.Wrapped kept rules')
    (fun _ _ => False) rules rules' n := by
  refine led_before (called_wrapped hrules) (fun {n} hbefore g g' c _ hg hc => ?_)
    (fun _ _ _ _ _ h => False.elim h) n
  obtain ⟨rfl, hc⟩ := hc
  cases n with
  | zero => exact .nothing
  | succ n =>
    have hinside := wrapped_apply_led hrules hc.skipped hc.skipped_skipped
      (hbefore.mono (Nat.le_succ n)) hg
    exact hinside.of_result? (stage_parse_result? rules n g c).symm
      (answer_parse_result? rules' g' c).symm

theorem unwrapped_led (n : Nat) : LedBefore (steady kept).flip
    (fun g' g => g.Wrapped kept rules' g') (fun _ _ => False) rules' rules n := by
  refine led_before ?_ (fun {n} hbefore g' g _ c hg hc => ?_) (fun _ _ _ _ _ h => False.elim h) n
  · exact fun hp => called_wrapped hrules hp
  · obtain ⟨rfl, hc⟩ := hc
    cases n with
    | zero => exact .nothing
    | succ n =>
      have hinside := unwrapped_apply_led hrules hc.skipped hc.skipped_skipped
        (hbefore.mono (Nat.le_succ n)) hg
      exact hinside.of_result? (stage_parse_result? rules' n g' _).symm
        (answer_parse_result? rules g _).symm

end Simulation

end Evaluation

namespace Grammar

/-- Wrappers do not show wherever skipping settles at once, which it does if nothing is skipped or
white space: both parsers go on forever, or both return and the outcomes are the same up to the
operand that lookahead quotes, or both end with the same fault. -/
theorem wrapped_agrees {kept : String → Prop} {rules rules' : Rules}
    (hrules : ∀ name, kept name → (rules name).Wrapped kept rules' (rules' name))
    {g g' : Grammar} (hg : g.Wrapped kept rules' g') {c : Cursor}
    (hc : c.skip = none ∨ c.skip = some .whiteSpace ∨ c.Steady) :
    (g.Diverges rules .parse c ∧ g'.Diverges rules' .parse c) ∨
      (∃ o o', g.Returns rules .parse c o ∧ g'.Returns rules' .parse c o' ∧ o.Alike o') ∨
      ∃ e, g.Halts rules .parse c e ∧ g'.Halts rules' .parse c e := by
  have hsteady : c.Steady := by
    rcases hc with hnone | hwhite | hsteady
    · exact Cursor.steady_of_skip_none hnone
    · exact Cursor.steady_whiteSpace hwhite
    · exact hsteady
  have hforth := fun n => Evaluation.wrapped_led hrules (n + 1) n (Nat.lt_succ_self n)
    (.parse hg ⟨rfl, hsteady⟩)
  have hback := fun n => Evaluation.unwrapped_led hrules (n + 1) n (Nat.lt_succ_self n)
    (.parse hg ⟨rfl, hsteady⟩)
  obtain ⟨hd, hd'⟩ | ⟨⟨l, t⟩, ⟨l', t'⟩, ht, ht', -, hagree⟩ := Evaluation.none_or_agree hforth hback
  · exact .inl ⟨diverges_iff_answer.2 hd, diverges_iff_answer.2 hd'⟩
  · cases hagree with
    | error => exact .inr (.inr ⟨_, halts_of_answer ht, halts_of_answer ht'⟩)
    | ok h =>
      refine .inr (.inl ⟨_, _, returns_iff_answer.2 ⟨l, ht⟩, returns_iff_answer.2 ⟨l', ht'⟩, ?_⟩)
      cases h with
      | success hv hrest =>
        obtain ⟨rfl, -⟩ := hrest
        cases hv
        exact .success _ _
      | failure hf => exact hf

/-- White space before letters, with wrappers inside a pair, around it and in the rule. -/
theorem wrapped_agrees_letters :
    let rules : Rules := fun _ => literal ['b']
    let rules' : Rules := fun name =>
      if name = "word" then spanned (literal ['a']) else map id (literal ['b'])
    let g := both (spanned (literal ['a'])) (both (Handwritten.noSkip "next" (literal ['b']))
      (many (rule "letter")))
    let g' := map id (both (rule "word") (both (Handwritten.noSkip "next" (map id (literal ['b'])))
      (many (rule "letter"))))
    let c : Cursor := .start [' ', 'a', 'b', ' ', 'b']
    (g.Diverges rules .parse c ∧ g'.Diverges rules' .parse c) ∨
      (∃ o o', g.Returns rules .parse c o ∧ g'.Returns rules' .parse c o' ∧ o.Alike o') ∨
      ∃ e, g.Halts rules .parse c e ∧ g'.Halts rules' .parse c e := by
  intro rules rules' g g' c
  have hleaf : ∀ t, (literal t).Wrapped (· = "letter") rules' (literal t) := fun _ =>
    Everywhere.wrapped (.intro id nofun)
  have hmapped : (literal ['b']).Wrapped (· = "letter") rules' (map id (literal ['b'])) :=
    .map (fun _ => rfl) (hleaf ['b'])
  have hspanned : (spanned (literal ['a'])).Wrapped (· = "letter") rules' (rule "word") :=
    .lazy "word" (.form (.spanned trivial (hleaf ['a'])))
  have hmany : (many (rule "letter")).Wrapped (· = "letter") rules' (many (rule "letter")) :=
    Everywhere.wrapped (.intro id fun | _, .many _ => .intro ⟨rfl, rfl⟩ nofun)
  have hg : g.Wrapped (· = "letter") rules' g' :=
    .map (fun _ => rfl) (.form (.both hspanned (.form (.both (hmapped.noSkip "next") hmany))))
  have hrules : ∀ name, name = "letter" →
      (rules name).Wrapped (· = "letter") rules' (rules' name) := by
    rintro _ rfl
    exact hmapped
  exact wrapped_agrees hrules hg (.inr (.inl rfl))

end Grammar
end Descent
