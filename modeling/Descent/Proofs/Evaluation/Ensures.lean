import Descent.Proofs.Evaluation.Basic

/-! # What a run ensures and attains

A run ensures a property of its value if it ends in no fault and its value, once there is one, has
the property. It attains the property if besides there is a value. -/
namespace Descent

namespace Run

variable {α β : Type} {P : α → Prop} {Q : β → Prop}

def Ensures (P : α → Prop) (x : Run α) : Prop :=
  ∀ t, x = some t → ∃ a, t.result = .ok a ∧ P a

namespace Ensures

theorem done {a : α} (h : P a) : Ensures P (Run.done a) := by
  rintro _ ⟨⟩
  exact ⟨a, rfl, h⟩

theorem log (e : Event) : Ensures (fun _ => True) (Run.log e) := by
  rintro _ ⟨⟩
  exact ⟨(), rfl, trivial⟩

theorem bind {x : Run α} {f : α → Run β} (hx : Ensures P x) (hf : ∀ a, P a → Ensures Q (f a)) :
    Ensures Q (x >>= f) := by
  intro t ht
  rcases bind_eq_some ht with ⟨e, he, -⟩ | ⟨l, a, u, ha, hu, rfl⟩
  · obtain ⟨a, ha, -⟩ := hx _ he
    cases ha
  · obtain ⟨b, ⟨⟩, hb⟩ := hx _ ha
    exact hf _ hb u hu

theorem mono {P' : α → Prop} {x : Run α} (hx : Ensures P x) (h : ∀ a, P a → P' a) :
    Ensures P' x := by
  intro t ht
  obtain ⟨a, ha, hp⟩ := hx t ht
  exact ⟨a, ha, h a hp⟩

variable {P P' : Outcome → Prop} {x : Run Outcome}

theorem cases {f : Outcome → Run α} {Q : α → Prop} (hx : Ensures P x)
    (hs : ∀ v r, P (.success v r) → Ensures Q (f (.success v r)))
    (hf : ∀ e, P (.failure e) → Ensures Q (f (.failure e))) : Ensures Q (x >>= f) := by
  refine hx.bind fun o ho => ?_
  cases o with
  | success v r => exact hs v r ho
  | failure e => exact hf e ho

theorem onSuccess {f : Value → Cursor → Run Outcome} (hx : Ensures P x)
    (hs : ∀ v r, P (.success v r) → Ensures P' (f v r))
    (hf : ∀ e, P (.failure e) → P' (.failure e)) : Ensures P' (x.onSuccess f) :=
  hx.cases hs fun e he => .done (hf e he)

theorem mapped {f : Value → Value} (hx : Ensures P x) (h : ∀ o, P o → P' (o.map f)) :
    Ensures P' (x >>= fun o => pure (o.map f)) :=
  hx.bind fun o ho => .done (h o ho)

end Ensures

def Attains (P : α → Prop) (x : Run α) : Prop :=
  ∃ l a, x = some (Traced.mk l (.ok a)) ∧ P a

namespace Attains

theorem done {a : α} (h : P a) : Attains P (Run.done a) := ⟨[], a, rfl, h⟩

theorem log (e : Event) : Attains (fun _ => True) (Run.log e) := ⟨[e], (), rfl, trivial⟩

theorem bind {x : Run α} {f : α → Run β} (hx : Attains P x) (hf : ∀ a, P a → Attains Q (f a)) :
    Attains Q (x >>= f) := by
  obtain ⟨l, a, hx, ha⟩ := hx
  obtain ⟨m, b, hb, hq⟩ := hf a ha
  exact ⟨l ++ m, b, bind_of_ok hx hb, hq⟩

theorem cases {P : Outcome → Prop} {x : Run Outcome} {f : Outcome → Run α} {Q : α → Prop}
    (hx : Attains P x) (hs : ∀ v r, P (.success v r) → Attains Q (f (.success v r)))
    (hf : ∀ e, P (.failure e) → Attains Q (f (.failure e))) : Attains Q (x >>= f) := by
  refine hx.bind fun o ho => ?_
  cases o with
  | success v r => exact hs v r ho
  | failure e => exact hf e ho

theorem mono {P' : α → Prop} {x : Run α} (hx : Attains P x) (h : ∀ a, P a → P' a) :
    Attains P' x := by
  obtain ⟨l, a, hx, ha⟩ := hx
  exact ⟨l, a, hx, h a ha⟩

variable {P P' : Outcome → Prop} {x : Run Outcome}

theorem onSuccess {f : Value → Cursor → Run Outcome} (hx : Attains P x)
    (hs : ∀ v r, P (.success v r) → Attains P' (f v r))
    (hf : ∀ e, P (.failure e) → P' (.failure e)) : Attains P' (x.onSuccess f) :=
  hx.cases hs fun e he => .done (hf e he)

theorem mapped {f : Value → Value} (hx : Attains P x) (h : ∀ o, P o → P' (o.map f)) :
    Attains P' (x >>= fun o => pure (o.map f)) :=
  hx.bind fun o ho => .done (h o ho)

end Attains
end Run
end Descent
