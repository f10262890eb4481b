import Descent.Proofs.Evaluation.Basic
import Mathlib.Order.Filter.AtTopBot.Basic

/-! # Comparing runs

A run leads runs that come one after another, such as the stages of an evaluator, if they answer
what it answers from some index on. Results are compared by a relation, and of the rest only what is
observed. -/
namespace Descent

/-- The same error on both sides, one of those allowed, or related values. -/
inductive Agree {ε α β : Type} (F : ε → Prop) (R : α → β → Prop) :
    Except ε α → Except ε β → Prop where
  | error {e : ε} : F e → Agree F R (.error e) (.error e)
  | ok {a : α} {b : β} : R a b → Agree F R (.ok a) (.ok b)

namespace Agree

variable {ε α β : Type} {F : ε → Prop}

theorem refl {R : α → α → Prop} (hF : ∀ e, F e) (hR : ∀ a, R a a) (x : Except ε α) :
    Agree F R x x := by
  cases x with
  | error e => exact .error (hF e)
  | ok a => exact .ok (hR a)

theorem mono {R R' : α → β → Prop} {x : Except ε α} {y : Except ε β} (h : Agree F R x y)
    (hR : ∀ a b, R a b → R' a b) : Agree F R' x y := by
  cases h with
  | error h => exact .error h
  | ok h => exact .ok (hR _ _ h)

theorem flip {R : α → β → Prop} {x : Except ε α} {y : Except ε β} (h : Agree F R x y) :
    Agree F (fun b a => R a b) y x := by
  cases h with
  | error h => exact .error h
  | ok h => exact .ok h

end Agree

/-- What is seen of two computations besides their values: their logs, compared by a relation that
computations keep which keep it by turns, and the faults they may end with. -/
structure Observation where
  logs : List Event → List Event → Prop
  fault : Fault → Prop
  nil : logs [] []
  append : ∀ {l l' m m'}, logs l l' → logs m m' → logs (l ++ m) (l' ++ m')

namespace Observation

def exact : Observation where
  logs := Eq
  fault _ := True
  nil := rfl
  append := by
    rintro l _ m _ rfl rfl
    rfl

/-- Logs are not looked at. -/
def results (fault : Fault → Prop) : Observation where
  logs _ _ := True
  fault := fault
  nil := trivial
  append _ _ := trivial

/-- The sides change places. -/
def flip (E : Observation) : Observation where
  logs l l' := E.logs l' l
  fault := E.fault
  nil := E.nil
  append := E.append

end Observation

namespace Run

variable {α β γ δ : Type}

/-- Answers of `x` are related to what `ys` answer from some index on. -/
def Leads (E : Observation) (R : α → β → Prop) (x : Run α) (ys : Nat → Run β) : Prop :=
  ∀ t, x = some t → ∃ u, E.logs t.log u.log ∧ Agree E.fault R t.result u.result ∧
    ∀ᶠ n in Filter.atTop, ys n = some u

namespace Leads

variable {E : Observation} {R : α → β → Prop} {S : γ → δ → Prop}

theorem nothing {ys : Nat → Run β} : Leads E R none ys := nofun

theorem lift {r : Except Fault α} {r' : Except Fault β} (h : Agree E.fault R r r') :
    Leads E R (Run.lift r) fun _ => Run.lift r' := by
  rintro _ ⟨⟩
  exact ⟨⟨[], r'⟩, E.nil, h, .of_forall fun _ => rfl⟩

theorem done {a : α} {b : β} (h : R a b) : Leads E R (Run.done a) fun _ => Run.done b :=
  lift (.ok h)

theorem log {e e' : Event} (h : E.logs [e] [e']) :
    Leads E (fun _ _ => True) (Run.log e) fun _ => Run.log e' := by
  rintro _ ⟨⟩
  exact ⟨⟨[e'], .ok ()⟩, h, .ok trivial, .of_forall fun _ => rfl⟩

theorem bind {x : Run α} {ys : Nat → Run β} {f : α → Run γ} {fs : Nat → β → Run δ}
    (hx : Leads E R x ys) (hf : ∀ a b, R a b → Leads E S (f a) fun n => fs n b) :
    Leads E S (x >>= f) fun n => ys n >>= fs n := by
  intro t ht
  rcases bind_eq_some ht with ⟨e, he, hr⟩ | ⟨l, a, u, ha, hu, rfl⟩
  · obtain ⟨⟨m, r⟩, hm, hagree, hys⟩ := hx _ he
    cases hagree with
    | error hf => exact ⟨⟨m, .error e⟩, hm, hr ▸ .error hf, hys.mono fun n hn => bind_of_error _ hn⟩
  · obtain ⟨⟨m, r⟩, hw, hagree, hys⟩ := hx _ ha
    cases hagree with
    | ok hab =>
      obtain ⟨z, hz, hagree, hfs⟩ := hf _ _ hab _ hu
      refine ⟨⟨m ++ z.log, z.result⟩, E.append hw hz, hagree, ?_⟩
      filter_upwards [hys, hfs] with n hn hn' using bind_of_ok hn hn'

/-- It does not matter where the runs begin. -/
theorem of_succ {x : Run α} {ys : Nat → Run β} (h : Leads E R x fun n => ys (n + 1)) :
    Leads E R x ys := by
  intro t ht
  obtain ⟨u, hu, hagree, hys⟩ := h t ht
  obtain ⟨k, hk⟩ := Filter.eventually_atTop.1 hys
  refine ⟨u, hu, hagree, Filter.eventually_atTop.2 ⟨k + 1, fun n hn => ?_⟩⟩
  obtain ⟨m, rfl⟩ : ∃ m, n = m + 1 := ⟨n - 1, by omega⟩
  exact hk m (by omega)

/-- Where logs are not looked at, only the results count. -/
theorem of_result? {F : Fault → Prop} {x x' : Run α} {y y' : Run β}
    (h : Leads (.results F) R x fun _ => y) (hx : x.result? = x'.result?)
    (hy : y.result? = y'.result?) : Leads (.results F) R x' fun _ => y' := by
  intro t ht
  obtain ⟨l, hl⟩ := result?_eq_some.1 (hx.trans (result?_eq_some.2 ⟨t.log, ht⟩))
  obtain ⟨u, -, hagree, hu⟩ := h _ hl
  obtain ⟨m, hm⟩ := result?_eq_some.1
    (hy.symm.trans (result?_eq_some.2 ⟨u.log, hu.exists.choose_spec⟩))
  exact ⟨⟨m, u.result⟩, trivial, hagree, .of_forall fun _ => hm⟩

end Leads
end Run
end Descent
