import Descent.Proofs.Evaluation.Returns

/-! # How an outcome was come to

What a parser returns tells what its operands returned before. The outcomes of a combinator are
given by those of its operands alone, whatever these are. -/
namespace Descent

namespace Run

variable {α β : Type} {x : Run α} {f : α → Run β} {b : β}

theorem result?_bind_eq_ok :
    (x >>= f).result? = some (.ok b) ↔
      ∃ a, x.result? = some (.ok a) ∧ (f a).result? = some (.ok b) := by
  rw [result?_bind]
  cases x.result? with
  | none => exact ⟨nofun, nofun⟩
  | some r =>
    cases r with
    | error e => exact ⟨nofun, nofun⟩
    | ok a =>
      refine ⟨fun h => ⟨a, rfl, h⟩, ?_⟩
      rintro ⟨_, ⟨⟩, h⟩
      exact h

theorem result?_pure_eq_ok {a a' : α} : (pure a : Run α).result? = some (.ok a') ↔ a' = a := by
  constructor
  · rintro ⟨⟩
    rfl
  · rintro rfl
    rfl

variable {x : Run Outcome} {o : Outcome}

theorem result?_cases_eq_ok {f : Outcome → Run β} : (x >>= f).result? = some (.ok b) ↔
    (∃ v r, x.result? = some (.ok (.success v r)) ∧ (f (.success v r)).result? = some (.ok b)) ∨
      ∃ e, x.result? = some (.ok (.failure e)) ∧ (f (.failure e)).result? = some (.ok b) := by
  rw [result?_bind_eq_ok]
  constructor
  · rintro ⟨_ | e, hx, hf⟩
    · exact .inl ⟨_, _, hx, hf⟩
    · exact .inr ⟨e, hx, hf⟩
  · rintro (⟨v, r, hx, hf⟩ | ⟨e, hx, hf⟩)
    · exact ⟨_, hx, hf⟩
    · exact ⟨_, hx, hf⟩

theorem result?_onSuccess_eq_ok {f : Value → Cursor → Run Outcome} :
    (x.onSuccess f).result? = some (.ok o) ↔
      (∃ v r, x.result? = some (.ok (.success v r)) ∧ (f v r).result? = some (.ok o)) ∨
        ∃ e, x.result? = some (.ok (.failure e)) ∧ o = .failure e := by
  refine result?_cases_eq_ok.trans (or_congr_right (exists_congr fun e => and_congr_right' ?_))
  exact result?_pure_eq_ok

theorem result?_mapped_eq_ok {f : Value → Value} :
    (x >>= fun o => pure (o.map f)).result? = some (.ok o) ↔
      ∃ o', x.result? = some (.ok o') ∧ o = o'.map f := by
  exact result?_bind_eq_ok.trans (exists_congr fun o' => and_congr_right' result?_pure_eq_ok)

end Run

namespace Grammar

open Evaluation Run

variable {rules : Rules} {g a b : Grammar} {c : Cursor} {o : Outcome}

/-- What is parsed succeeds with this value and rest. -/
def Yields (rules : Rules) (g : Grammar) (c : Cursor) (v : Value) (r : Cursor) : Prop :=
  g.Returns rules .parse c (.success v r)

def Fails (rules : Rules) (g : Grammar) (c : Cursor) : Prop :=
  ∃ e, g.Returns rules .parse c (.failure e)

theorem returns_iff_apply : g.Returns rules .apply c o ↔
    (apply rules (answer rules) g c).result? = some (.ok o) := by
  rw [returns_iff_result?, answer_apply]

theorem returns_both_iff : (both a b).Returns rules .apply c o ↔
    (∃ v r, a.Yields rules c v r ∧ ∃ o', b.Returns rules .parse r o' ∧ o = o'.map (.pair v)) ∨
      ∃ e, a.Returns rules .parse c (.failure e) ∧ o = .failure e := by
  rw [returns_iff_apply, apply]
  simp only [result?_onSuccess_eq_ok, result?_mapped_eq_ok, Yields, returns_iff_result?]

theorem returns_either_iff : (either a b).Returns rules .apply c o ↔
    (∃ v r, a.Yields rules c v r ∧ o = .success v r) ∨
      a.Fails rules c ∧ b.Returns rules .parse c o := by
  rw [returns_iff_apply, apply]
  simp only [result?_cases_eq_ok, result?_pure_eq_ok, Yields, Fails, returns_iff_result?,
    ← exists_and_right]

theorem returns_keepRight_iff : (keepRight a b).Returns rules .apply c o ↔
    (∃ v r, a.Yields rules c v r ∧ b.Returns rules .parse r o) ∨
      ∃ e, a.Returns rules .parse c (.failure e) ∧ o = .failure e := by
  rw [returns_iff_apply, apply]
  simp only [result?_onSuccess_eq_ok, Yields, returns_iff_result?]

theorem returns_map_iff {f : Value → Value} : (map f g).Returns rules .apply c o ↔
    ∃ o', g.Returns rules .parse c o' ∧ o = o'.map f := by
  rw [returns_iff_apply, apply]
  simp only [result?_mapped_eq_ok, returns_iff_result?]

theorem returns_optional_iff : (optional g).Returns rules .apply c o ↔
    (∃ v r, g.Yields rules c v r ∧ o = .success (.some v) r) ∨
      g.Fails rules c ∧ o = .success .none c := by
  rw [returns_iff_apply, apply]
  simp only [result?_cases_eq_ok, result?_pure_eq_ok, Yields, Fails, returns_iff_result?,
    ← exists_and_right]

theorem returns_spanned_iff : (spanned g).Returns rules .apply c o ↔
    (∃ v r s, g.Yields rules c v r ∧ Span.within c.source c.skipped.offset r.offset = .ok s ∧
        o = .success (.spanned v s) r) ∨
      ∃ e, g.Returns rules .parse c (.failure e) ∧ o = .failure e := by
  rw [returns_iff_apply, apply_spanned, result?_onSuccess_eq_ok]
  simp only [Yields, returns_iff_result?]
  refine or_congr_left (exists₂_congr fun v r => ?_)
  rw [exists_and_left]
  refine and_congr_right' ?_
  cases Span.within c.source c.skipped.offset r.offset with
  | error e => exact ⟨nofun, nofun⟩
  | ok s =>
    constructor
    · intro h
      cases h
      exact ⟨s, rfl, rfl⟩
    · rintro ⟨_, ⟨⟩, rfl⟩
      rfl

/-- A value that is refused is a failure right where the check was entered. -/
theorem returns_check_iff {f : Value → Except String Value} :
    (check f g).Returns rules .apply c o ↔
      (∃ v r w, g.Yields rules c v r ∧ f v = .ok w ∧ o = .success w r) ∨
      (∃ v r message, g.Yields rules c v r ∧ f v = .error message ∧
        o = .fail c (.custom message) "try_map") ∨
      ∃ e, g.Returns rules .parse c (.failure e) ∧ o = .failure e := by
  rw [returns_iff_apply, apply, result?_onSuccess_eq_ok, ← or_assoc]
  simp only [Yields, returns_iff_result?]
  refine or_congr_left ?_
  simp only [← exists_or, exists_and_left, ← and_or_left]
  refine exists₂_congr fun v r => and_congr_right' ?_
  cases f v with
  | error message =>
    constructor
    · intro h
      cases h
      exact .inr ⟨message, rfl, rfl⟩
    · rintro (⟨_, ⟨⟩, -⟩ | ⟨_, ⟨⟩, rfl⟩)
      rfl
  | ok w =>
    constructor
    · intro h
      cases h
      exact .inl ⟨w, rfl, rfl⟩
    · rintro (⟨_, ⟨⟩, rfl⟩ | ⟨_, ⟨⟩, -⟩)
      rfl

theorem returns_shared_iff : (shared g).Returns rules .apply c o ↔ g.Returns rules .apply c o :=
  returns_iff_apply.trans returns_iff_result?.symm

theorem returns_named_iff {name : String} :
    (named name g).Returns rules .apply c o ↔ g.Returns rules .apply c o :=
  returns_iff_apply.trans returns_iff_result?.symm

theorem returns_success_iff {v : Value} :
    (success v).Returns rules .apply c o ↔ o = .success v c := by
  refine ⟨fun h => ?_, ?_⟩
  · rw [returns_iff_apply] at h
    cases h
    rfl
  · rintro rfl
    exact returns_iff_apply.2 rfl

end Grammar
end Descent
