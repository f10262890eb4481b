import Descent.Evaluation
import Descent.Proofs.Leaf

/-! # Runs in sequence and single steps

Laws of running one computation after another, and the steps of the evaluator with all that cannot
fail in them worked out. -/
namespace Descent

namespace Run

variable {α β γ : Type}

/-- The run with events before it. -/
def behind (l : List Event) (x : Run α) : Run α := Option.map (fun t => ⟨l ++ t.log, t.result⟩) x

theorem ok_bind (l : List Event) (a : α) (f : α → Run β) :
    Run.bind (some ⟨l, .ok a⟩) f = (f a).behind l := by
  rw [Run.bind]
  cases f a <;> rfl

theorem done_bind (a : α) (f : α → Run β) : done a >>= f = f a := by
  have h : done a >>= f = (f a).behind [] := ok_bind [] a f
  rw [h]
  cases f a <;> rfl

theorem bind_done (x : Run α) : x >>= done = x := by
  cases x with
  | none => rfl
  | some t =>
    obtain ⟨l, e | a⟩ := t
    · rfl
    · refine (ok_bind l a done).trans ?_
      rw [behind, done, Option.map_some, List.append_nil]

theorem behind_bind (l : List Event) (x : Run α) (f : α → Run β) :
    x.behind l >>= f = (x >>= f).behind l := by
  cases x with
  | none => rfl
  | some t =>
    obtain ⟨m, e | a⟩ := t
    · rfl
    · have h : Run.behind l (some ⟨m, .ok a⟩) >>= f = (f a).behind (l ++ m) := ok_bind (l ++ m) a f
      refine h.trans (Eq.trans ?_ (congrArg (Run.behind l) (ok_bind m a f)).symm)
      cases f a with
      | none => rfl
      | some u => exact congrArg (fun l => some (Traced.mk l u.result)) (List.append_assoc l m u.log)

theorem bind_assoc (x : Run α) (f : α → Run β) (g : β → Run γ) :
    x >>= f >>= g = x >>= fun a => f a >>= g := by
  cases x with
  | none => rfl
  | some t =>
    obtain ⟨l, e | a⟩ := t
    · rfl
    · refine (congrArg (· >>= g) (ok_bind l a f)).trans ?_
      exact (behind_bind l (f a) g).trans (ok_bind l a fun a => f a >>= g).symm

/-- A sequence answers with the fault of its first part, or as its second part does. -/
theorem bind_eq_some {x : Run α} {f : α → Run β} {t : Traced β} (h : x >>= f = some t) :
    (∃ e, x = some ⟨t.log, .error e⟩ ∧ t.result = .error e) ∨
      ∃ l a u, x = some ⟨l, .ok a⟩ ∧ f a = some u ∧ t = ⟨l ++ u.log, u.result⟩ := by
  cases x with
  | none => cases h
  | some s =>
    obtain ⟨l, e | a⟩ := s
    · cases h
      exact .inl ⟨e, rfl, rfl⟩
    · obtain ⟨u, hu, rfl⟩ := Option.map_eq_some_iff.1 ((ok_bind l a f).symm.trans h)
      exact .inr ⟨l, a, u, rfl, hu, rfl⟩

theorem bind_of_ok {x : Run α} {f : α → Run β} {l : List Event} {a : α} {u : Traced β}
    (hx : x = some (Traced.mk l (.ok a))) (hf : f a = some u) :
    x >>= f = some (Traced.mk (l ++ u.log) u.result) := by
  subst hx
  refine (ok_bind l a f).trans ?_
  rw [hf]
  rfl

theorem bind_of_error {x : Run α} {l : List Event} {e : Fault} (f : α → Run β)
    (hx : x = some (Traced.mk l (.error e))) : x >>= f = some (Traced.mk l (.error e)) := by
  subst hx
  rfl

/-! ## Results without their logs -/

def result? (x : Run α) : Option (Except Fault α) := Option.map Traced.result x

theorem result?_eq_some {x : Run α} {r : Except Fault α} :
    x.result? = some r ↔ ∃ l, x = some (Traced.mk l r) := by
  constructor
  · intro h
    obtain ⟨⟨l, s⟩, hx, rfl⟩ := Option.map_eq_some_iff.1 h
    exact ⟨l, hx⟩
  · rintro ⟨l, rfl⟩
    rfl

theorem result?_bind (x : Run α) (f : α → Run β) : (x >>= f).result? = match x.result? with
    | none => none
    | some (.error e) => some (.error e)
    | some (.ok a) => (f a).result? := by
  cases x with
  | none => rfl
  | some t =>
    obtain ⟨l, e | a⟩ := t
    · rfl
    · refine (congrArg result? (ok_bind l a f)).trans ?_
      change (Run.behind l (f a)).result? = (f a).result?
      cases f a <;> rfl

/-- What is done besides giving the value back does not show. -/
theorem result?_bind_self {x : Run α} {f : α → Run α}
    (hf : ∀ a, (f a).result? = some (.ok a)) : (x >>= f).result? = x.result? := by
  rw [result?_bind]
  cases x with
  | none => rfl
  | some t =>
    obtain ⟨l, e | a⟩ := t
    · rfl
    · exact hf a

end Run

namespace Evaluation

open Run

/-- Skipping is never at fault. -/
theorem parse_eq (ask : Job → Run Outcome) (g : Grammar) (c : Cursor) :
    parse ask g c = ask (.run .apply g c.skipped) >>= fun
      | .success v rest => pure (.success v rest)
      | .failure f => do
        log (.failed g.name f.rest.offset)
        return .failure f := by
  rw [parse, Cursor.skipAhead_eq]
  exact done_bind _ _

theorem parse_result? (ask : Job → Run Outcome) (g : Grammar) (c : Cursor) :
    (parse ask g c).result? = (ask (.run .apply g c.skipped)).result? := by
  rw [parse_eq]
  refine result?_bind_self fun o => ?_
  cases o <;> rfl

theorem apply_map_result? (rules : Rules) (ask : Job → Run Outcome) {f : Value → Value}
    (hf : ∀ v, f v = v) (g : Grammar) (c : Cursor) :
    (apply rules ask (.map f g) c).result? = (ask (.run .parse g c)).result? := by
  rw [apply]
  refine result?_bind_self fun o => ?_
  cases o with
  | success v r =>
    rw [Outcome.map, hf]
    rfl
  | failure e => rfl

theorem apply_rule_result? (rules : Rules) (ask : Job → Run Outcome) (name : String) (c : Cursor) :
    (apply rules ask (.rule name) c).result? = (ask (.run .parse (rules name) c)).result? := by
  rw [apply, result?_bind]
  rfl

/-- A leaf raises no job and is never at fault. -/
theorem apply_leaf {rules : Rules} {ask : Job → Run Outcome} {g : Grammar}
    {answer : Text → Leaf.Answer} (h : g.leaf? = some answer) (c : Cursor) :
    apply rules ask g c = Run.done ((answer c.ahead).outcome c) := by
  cases g <;> cases h
  case literal expected => exact congrArg Run.lift (Leaf.literal_eq c expected)
  case matching m => exact congrArg Run.lift (Leaf.read_eq c m)
  case decimal => exact congrArg Run.lift (Leaf.decimal_eq c)
  case integer => exact congrArg Run.lift (Leaf.integer_eq c)
  case atEnd => exact congrArg Run.done (Leaf.atEnd_eq c)
  case success v => exact congrArg (fun d => Run.done (Outcome.success v d)) c.past_zero.symm
  case failure message => rfl

theorem apply_spanned (rules : Rules) (ask : Job → Run Outcome) (g : Grammar) (c : Cursor) :
    apply rules ask (.spanned g) c = onSuccess (ask (.run .parse g c)) fun v r =>
      lift ((Span.within c.source c.skipped.offset r.offset).map (.spanned v)) >>= fun w =>
        pure (.success w r) := by
  rw [apply, Cursor.skipAhead_eq]
  refine (done_bind _ _).trans (congrArg _ (funext fun v => funext fun r => ?_))
  cases Span.within c.source c.skipped.offset r.offset <;> rfl

end Evaluation
end Descent
