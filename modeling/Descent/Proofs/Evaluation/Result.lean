import Descent.Proofs.Evaluation.Inversion

/-! # Results

What a run comes to, its log apart: nothing if it goes on forever, else a fault or an outcome. The
result of a combinator is made of those of its operands, so laws of grammars come from laws of
results: of going on behind a success, and of going on in the place of a failure. -/
namespace Descent

/-- Nothing if there is no answer, else a fault or an outcome. -/
abbrev Result := Option (Except Fault Outcome)

namespace Result

def success (v : Value) (rest : Cursor) : Result := some (.ok (.success v rest))

def failure (e : Failure) : Result := some (.ok (.failure e))

/-- Goes on with the value of a success and where it ends. -/
def onSuccess (x : Result) (f : Value → Cursor → Result) : Result :=
  match x with
  | some (.ok (.success v r)) => f v r
  | x => x

def map (f : Value → Value) (x : Result) : Result := x.onSuccess fun v r => success (f v) r

/-- A second result in the place of a failure. -/
def orElse (x y : Result) : Result :=
  match x with
  | some (.ok (.failure _)) => y
  | x => x

variable {x y z : Result} {f g : Value → Cursor → Result}

@[elab_as_elim]
theorem cases {P : Result → Prop} (none : P none) (error : ∀ e, P (some (.error e)))
    (success : ∀ v r, P (success v r)) (failure : ∀ e, P (failure e)) (x : Result) : P x :=
  match x with
  | Option.none => none
  | some (.error e) => error e
  | some (.ok (.success v r)) => success v r
  | some (.ok (.failure e)) => failure e

theorem onSuccess_success (v : Value) (r : Cursor) : (success v r).onSuccess f = f v r := rfl

/-- What is done behind a success counts only where there is one. -/
theorem onSuccess_congr (h : ∀ v r, x = success v r → f v r = g v r) :
    x.onSuccess f = x.onSuccess g := by
  cases x using cases with
  | none => rfl
  | error e => rfl
  | success v r => exact h v r rfl
  | failure e => rfl

theorem onSuccess_onSuccess :
    (x.onSuccess f).onSuccess g = x.onSuccess fun v r => (f v r).onSuccess g := by
  cases x using cases <;> rfl

theorem onSuccess_map {h : Value → Value} :
    (x.map h).onSuccess f = x.onSuccess fun v r => f (h v) r :=
  onSuccess_onSuccess

theorem map_onSuccess {h : Value → Value} :
    (x.onSuccess f).map h = x.onSuccess fun v r => (f v r).map h :=
  onSuccess_onSuccess

theorem map_map {h k : Value → Value} : (x.map h).map k = x.map (k ∘ h) := onSuccess_onSuccess

theorem orElse_orElse : (x.orElse y).orElse z = x.orElse (y.orElse z) := by
  cases x using cases <;> rfl

theorem orElse_self : x.orElse x = x := by
  cases x using cases <;> rfl

/-- What comes first in both branches may be done before the choice. -/
theorem orElse_onSuccess :
    (x.onSuccess f).orElse (x.onSuccess g) = x.onSuccess fun v r => (f v r).orElse (g v r) := by
  cases x using cases <;> rfl

theorem map_orElse {h : Value → Value} : (x.orElse y).map h = (x.map h).orElse (y.map h) := by
  cases x using cases <;> rfl

/-! ## Failures -/

variable {e : Failure}

theorem onSuccess_eq_failure_iff : x.onSuccess f = failure e ↔
    x = failure e ∨ ∃ v r, x = success v r ∧ f v r = failure e := by
  cases x using cases with
  | none => exact ⟨.inl, fun h => h.elim id nofun⟩
  | error e' => exact ⟨.inl, fun h => h.elim id nofun⟩
  | success v r =>
    constructor
    · exact fun h => .inr ⟨v, r, rfl, h⟩
    · rintro (h | ⟨_, _, ⟨⟩, h⟩)
      · cases h
      · exact h
  | failure e' => exact ⟨.inl, fun h => h.elim id nofun⟩

theorem map_eq_failure_iff {h : Value → Value} : x.map h = failure e ↔ x = failure e := by
  rw [map, onSuccess_eq_failure_iff]
  exact or_iff_left nofun

theorem orElse_eq_failure_iff :
    x.orElse y = failure e ↔ (∃ e', x = failure e') ∧ y = failure e := by
  cases x using cases with
  | none => exact ⟨nofun, nofun⟩
  | error e' => exact ⟨nofun, nofun⟩
  | success v r => exact ⟨nofun, nofun⟩
  | failure e' => exact ⟨fun h => ⟨⟨e', rfl⟩, h⟩, And.right⟩

end Result

namespace Run

theorem result?_onSuccess (x : Run Outcome) (f : Value → Cursor → Run Outcome) :
    (x.onSuccess f).result? = Result.onSuccess x.result? fun v r => (f v r).result? := by
  rw [Run.onSuccess, result?_bind]
  cases x.result? using Result.cases <;> rfl

theorem result?_mapped (x : Run Outcome) (f : Value → Value) :
    (x >>= fun o => pure (o.map f)).result? = Result.map f x.result? := by
  rw [result?_bind]
  cases x.result? using Result.cases <;> rfl

end Run

namespace Grammar

open Evaluation Run

noncomputable def result (rules : Rules) (mode : Mode) (g : Grammar) (c : Cursor) : Result :=
  (answer rules (.run mode g c)).result?

variable {rules : Rules} {mode : Mode} {g a b : Grammar} {c d : Cursor} {o : Outcome}

theorem result_eq_ok_iff : g.result rules mode c = some (.ok o) ↔ g.Returns rules mode c o :=
  returns_iff_result?.symm

theorem result_eq_none_iff : g.result rules mode c = none ↔ g.Diverges rules mode c := by
  rw [diverges_iff_answer]
  exact Option.map_eq_none_iff

theorem result_parse : g.result rules .parse c = g.result rules .apply c.skipped :=
  answer_parse_result? rules g c

/-- What is left to skip is of no account. -/
theorem result_parse_congr (h : d.skipped = c.skipped) :
    g.result rules .parse d = g.result rules .parse c := by
  rw [result_parse, result_parse, h]

theorem result_apply :
    g.result rules .apply c = (Evaluation.apply rules (answer rules) g c).result? := by
  rw [result, answer_apply]

theorem result_success {v : Value} : (success v).result rules .apply c = .success v c := by
  rw [result_apply]
  rfl

theorem result_both : (both a b).result rules .apply c =
    (a.result rules .parse c).onSuccess fun v r => (b.result rules .parse r).map (.pair v) := by
  rw [result_apply, apply, result?_onSuccess]
  simp only [result?_mapped]
  rfl

theorem result_either : (either a b).result rules .apply c =
    (a.result rules .parse c).orElse (b.result rules .parse c) := by
  rw [result_apply, apply, result?_bind, result]
  cases (answer rules (.run .parse a c)).result? using Result.cases <;> rfl

theorem result_andThen {next : Value → Grammar} : (andThen g next).result rules .apply c =
    (g.result rules .parse c).onSuccess fun v r => (next v).result rules .parse r := by
  rw [result_apply, apply, result?_onSuccess]
  rfl

theorem result_sequence_nil : (sequence []).result rules .apply c = .success (.list []) c := by
  rw [result_apply]
  rfl

theorem result_sequence_cons {gs : List Grammar} : (sequence (g :: gs)).result rules .apply c =
    (g.result rules .parse c).onSuccess fun v r =>
      ((sequence gs).result rules .apply r).map (cons v) := by
  rw [result_apply, apply, result?_onSuccess]
  simp only [result?_mapped]
  rfl

/-! ## Where skipping settles

There a combinator that is parsed finds its operand with nothing more skipped before it. -/

section Settled

variable (hc : c.skipped.skipped = c.skipped)
include hc

theorem result_both_settled : (both a b).result rules .parse c =
    (a.result rules .parse c).onSuccess fun v r => (b.result rules .parse r).map (.pair v) := by
  rw [result_parse, result_both, result_parse_congr hc]

theorem result_either_settled : (either a b).result rules .parse c =
    (a.result rules .parse c).orElse (b.result rules .parse c) := by
  rw [result_parse, result_either, result_parse_congr hc, result_parse_congr hc]

theorem result_andThen_settled {next : Value → Grammar} : (andThen g next).result rules .parse c =
    (g.result rules .parse c).onSuccess fun v r => (next v).result rules .parse r := by
  rw [result_parse, result_andThen, result_parse_congr hc]

end Settled

end Grammar
end Descent
