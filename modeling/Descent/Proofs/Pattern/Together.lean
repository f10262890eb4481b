import Descent.Pattern.Read

/-! # A pattern read with a parenthesis behind it

Two readings go together if the second reads the same text with a closing parenthesis behind it, or
with nothing. What either of them fails to read is not compared: where both come to an end they have
met the same flags and groups, and the second has the parenthesis left, unless a comment or a name
at the end of the pattern took it in. -/
namespace Descent.Pattern

/-- The second reading has a parenthesis more to go if there is one behind the pattern, or both have
come to the end. The numbers bound what is left. -/
structure Alongside (behind : Text) (n n' : Nat) (s s' : Reading) : Prop where
  behind_eq : behind = [] ∨ behind = [')']
  flags : s'.flags = s.flags
  groups : s'.groups = s.groups
  rest : s'.rest = s.rest ++ behind ∨ s.rest = [] ∧ s'.rest = []
  le : s.rest.length ≤ n
  le' : s'.rest.length ≤ n'

namespace Alongside

variable {behind : Text} {n n' m m' : Nat} {s s' : Reading} {c : Char} {u : Text}

theorem mono (h : Alongside behind n n' s s') (hm : n ≤ m) (hm' : n' ≤ m') :
    Alongside behind m m' s s' :=
  { h with le := Nat.le_trans h.le hm, le' := Nat.le_trans h.le' hm' }

theorem rest_cons (h : Alongside behind n n' s s') (hs : s.rest = c :: u) :
    s'.rest = c :: (u ++ behind) := by
  rcases h.rest with hr | ⟨hr, -⟩
  · rw [hr, hs]
    rfl
  · cases hs.symm.trans hr

theorem rest_nil (h : Alongside behind n n' s s') (hs : s.rest = []) :
    s'.rest = [')'] ∨ s'.rest = [] := by
  rcases h.rest with hr | ⟨-, hr⟩
  · rw [hs, List.nil_append] at hr
    rw [hr]
    exact h.behind_eq.symm
  · exact .inr hr

/-- With nothing behind the pattern both have the same left. -/
theorem rest_eq (h : Alongside [] n n' s s') : s'.rest = s.rest := by
  rcases h.rest with hr | ⟨hr, hr'⟩
  · rwa [List.append_nil] at hr
  · rw [hr, hr']

/-- What is left counts down as long as there is a character. -/
theorem exists_succ (h : Alongside behind n n' s s') (hs : s.rest = c :: u) :
    ∃ m m', n = m + 1 ∧ n' = m' + 1 := by
  have hn := h.le
  have hn' := h.le'
  rw [hs] at hn
  rw [h.rest_cons hs] at hn'
  simp only [List.length_cons] at hn hn'
  exact ⟨n - 1, n' - 1, by omega, by omega⟩

/-- Both readings move past the same character. -/
theorem tail (h : Alongside behind (n + 1) (n' + 1) s s') (hs : s.rest = c :: u) (p p' : Nat) :
    Alongside behind n n' { s with pos := p, rest := u }
      { s' with pos := p', rest := u ++ behind } where
  behind_eq := h.behind_eq
  flags := h.flags
  groups := h.groups
  rest := .inl rfl
  le := by
    have hn := h.le
    rw [hs] at hn
    simpa using hn
  le' := by
    have hn := h.le'
    rw [h.rest_cons hs] at hn
    simpa using hn

end Alongside

/-- If both computations succeed, the readings go on together and the results are related. -/
def Together {α β : Type} (behind : Text) (Q : α → β → Reading → Prop) (n n' : Nat)
    (x : Except SyntaxError (α × Reading)) (y : Except SyntaxError (β × Reading)) : Prop :=
  ∀ a t b t', x = .ok (a, t) → y = .ok (b, t') → Alongside behind n n' t t' ∧ Q a b t

namespace Together

variable {α β γ δ : Type} {Q : α → β → Reading → Prop} {P : γ → δ → Reading → Prop}
variable {behind : Text} {n n' m m' : Nat} {s s' : Reading}

theorem pure {a : α} {b : β} (h : Alongside behind n n' s s') (hq : Q a b s) :
    Together behind Q n n' ((Pure.pure a : Reads α) s) ((Pure.pure b : Reads β) s') := by
  rintro _ _ _ _ ⟨⟩ ⟨⟩
  exact ⟨h, hq⟩

theorem error {x : Except SyntaxError (α × Reading)} {y : Except SyntaxError (β × Reading)}
    {e : SyntaxError} (h : x = .error e) : Together behind Q n n' x y := by
  intro _ _ _ _ hx
  cases h.symm.trans hx

theorem error' {x : Except SyntaxError (α × Reading)} {y : Except SyntaxError (β × Reading)}
    {e : SyntaxError} (h : y = .error e) : Together behind Q n n' x y := by
  intro _ _ _ _ _ hy
  cases h.symm.trans hy

theorem lift {x y : Except SyntaxError α} (h : Alongside behind n n' s s')
    (hq : ∀ a b, x = .ok a → y = .ok b → a = b) :
    Together behind (fun a b _ => a = b) n n' ((liftM x : Reads α) s) ((liftM y : Reads α) s') := by
  intro a t b t' ha hb
  cases x with
  | error e => cases ha
  | ok a =>
    cases y with
    | error e => cases hb
    | ok b =>
      cases ha
      cases hb
      exact ⟨h, hq a b rfl rfl⟩

theorem set {k l : Nat} {t t' : Reading} (h : Alongside behind k l t t') :
    Together behind (fun _ _ _ => True) k l ((set t : Reads Unit) s)
      ((set t' : Reads Unit) s') := by
  rintro _ _ _ _ ⟨⟩ ⟨⟩
  exact ⟨h, trivial⟩

theorem bind {x : Reads α} {y : Reads β} {f : α → Reads γ} {g : β → Reads δ}
    (hx : Together behind Q n n' (x s) (y s'))
    (hf : ∀ a t b t', Alongside behind n n' t t' → Q a b t →
      Together behind P m m' (f a t) (g b t')) :
    Together behind P m m' ((x >>= f) s) ((y >>= g) s') := by
  intro c u d u' hc hd
  change (x s).bind (fun p => f p.1 p.2) = _ at hc
  change (y s').bind (fun p => g p.1 p.2) = _ at hd
  cases hxs : x s with
  | error e =>
    rw [hxs] at hc
    cases hc
  | ok p =>
    cases hys : y s' with
    | error e =>
      rw [hys] at hd
      cases hd
    | ok q =>
      rw [hxs] at hc
      rw [hys] at hd
      obtain ⟨ht, hq⟩ := hx p.1 p.2 q.1 q.2 hxs hys
      exact hf _ _ _ _ ht hq c u d u' hc hd

theorem mono {Q' : α → β → Reading → Prop} {x : Except SyntaxError (α × Reading)}
    {y : Except SyntaxError (β × Reading)} (h : Together behind Q n n' x y) (hm : n ≤ m)
    (hm' : n' ≤ m') (hq : ∀ a b t, Q a b t → Q' a b t) : Together behind Q' m m' x y :=
  fun a t b t' hx hy => ⟨(h a t b t' hx hy).1.mono hm hm', hq _ _ _ (h a t b t' hx hy).2⟩

theorem succ {x : Except SyntaxError (α × Reading)} {y : Except SyntaxError (β × Reading)}
    (h : Together behind Q n n' x y) : Together behind Q (n + 1) (n' + 1) x y :=
  h.mono (Nat.le_succ n) (Nat.le_succ n') fun _ _ _ => id

theorem ite {p : Prop} [Decidable p] {x z : Reads α} {y w : Reads β}
    (h : p → Together behind Q n n' (x s) (y s')) (hn : ¬p → Together behind Q n n' (z s) (w s')) :
    Together behind Q n n' ((if p then x else z) s) ((if p then y else w) s') := by
  by_cases hp : p
  · rw [if_pos hp, if_pos hp]
    exact h hp
  · rw [if_neg hp, if_neg hp]
    exact hn hp

/-- A test may come out differently if what follows it is an error. -/
theorem guard {p q : Prop} [Decidable p] [Decidable q] {x z : Reads α} {y w : Reads β}
    {e e' : SyntaxError} (hz : z s = .error e) (hw : w s' = .error e')
    (h : ¬p → Together behind Q n n' (x s) (y s')) :
    Together behind Q n n' ((if p then z else x) s) ((if q then w else y) s') := by
  by_cases hp : p
  · rw [if_pos hp]
    exact error hz
  · rw [if_neg hp]
    by_cases hq : q
    · rw [if_pos hq]
      exact error' hw
    · rw [if_neg hq]
      exact h hp

/-! ## Steps that ask for the state -/

theorem here {f : Nat → Reads γ} {g : Nat → Reads δ}
    (h : ∀ p p', Together behind P m m' (f p s) (g p' s')) :
    Together behind P m m' ((Pattern.here >>= f) s) ((Pattern.here >>= g) s') := h _ _

theorem flags {f : Flags → Reads γ} {g : Flags → Reads δ} (hs : Alongside behind n n' s s')
    (h : Together behind P m m' (f s.flags s) (g s.flags s')) :
    Together behind P m m' ((Pattern.flags >>= f) s) ((Pattern.flags >>= g) s') :=
  show Together behind P m m' (f s.flags s) (g s'.flags s') from hs.flags.symm ▸ h

theorem get {f : Reading → Reads γ} {g : Reading → Reads δ}
    (h : Together behind P m m' (f s s) (g s' s')) :
    Together behind P m m' ((MonadState.get >>= f) s) ((MonadState.get >>= g) s') := h

/-- The current characters are the same, or the first reading is at the end. -/
theorem current {f : Option Char → Reads γ} {g : Option Char → Reads δ}
    (hs : Alongside behind n n' s s')
    (hsome : ∀ c u, s.rest = c :: u → Together behind P m m' (f (some c) s) (g (some c) s'))
    (hnone : s.rest = [] → ∀ o, o = some ')' ∨ o = none →
      Together behind P m m' (f none s) (g o s')) :
    Together behind P m m' ((current? >>= f) s) ((current? >>= g) s') := by
  change Together behind P m m' (f s.rest.head? s) (g s'.rest.head? s')
  cases hr : s.rest with
  | cons c u =>
    rw [hs.rest_cons hr]
    exact hsome c u hr
  | nil =>
    refine hnone hr _ ?_
    rcases hs.rest_nil hr with hr' | hr'
    · exact .inl (by rw [hr']; rfl)
    · exact .inr (by rw [hr']; rfl)

/-- A character that is asked for and is not the parenthesis is current in both or in neither. -/
theorem currentIs {d : Char} (hd : d ≠ ')') {x z : Reads γ} {y w : Reads δ}
    (hs : Alongside behind n n' s s')
    (h : ∀ u, s.rest = d :: u → Together behind P m m' (x s) (y s'))
    (hn : s.rest.head? ≠ some d → Together behind P m m' (z s) (w s')) :
    Together behind P m m' ((do if (← current?) = some d then x else z) s)
      ((do if (← current?) = some d then y else w) s') := by
  refine current hs (fun c u hr => ?_) fun hr o ho => ?_
  · refine ite (fun hc => ?_) fun hc => hn (by rwa [hr])
    cases hc
    exact h u hr
  · have ho' : o ≠ some d := by
      rcases ho with rfl | rfl
      · exact fun h => hd (Option.some.inj h).symm
      · exact nofun
    rw [if_neg nofun, if_neg ho']
    exact hn (by rw [hr]; exact nofun)

/-- A branch for the end of the pattern that is an error. -/
theorem currentSome {x z : Reads γ} {y w : Reads δ} {e : SyntaxError}
    (hs : Alongside behind n n' s s')
    (hz : z s = .error e) (h : ∀ c u, s.rest = c :: u → Together behind P m m' (x s) (y s')) :
    Together behind P m m' ((do if (← current?).isNone then z else x) s)
      ((do if (← current?).isNone then w else y) s') :=
  current hs (fun c u hr => h c u hr) fun _ _ _ => error hz

/-- The same where a move has told whether a character follows. -/
theorem more {a b : Bool} (hab : a = true → b = true) {x z : Reads γ} {y w : Reads δ}
    {e : SyntaxError} (hz : z s = .error e) (h : a = true → Together behind P m m' (x s) (y s')) :
    Together behind P m m' ((if !a then z else x : Reads γ) s)
      ((if !b then w else y : Reads δ) s') := by
  cases a with
  | false => exact error hz
  | true =>
    rw [hab rfl]
    exact h rfl

end Together

/-! ## Moves -/

/-- The state after white space and comments, where they are skipped. -/
def Reading.blanked (s : Reading) : Reading :=
  if s.flags.extended then
    { s with pos := (blank false s.pos s.rest).1, rest := (blank false s.pos s.rest).2 }
  else s

theorem length_blank_le (comment : Bool) (p : Nat) (t : Text) :
    (blank comment p t).2.length ≤ t.length := by
  induction t generalizing comment p with
  | nil => exact Nat.le_refl _
  | cons c t ih =>
    have hle : ∀ b, (blank b (p + 1) t).2.length ≤ (c :: t).length := fun b =>
      Nat.le_succ_of_le (ih b (p + 1))
    cases comment with
    | true => exact hle _
    | false =>
      rw [blank]
      split
      · exact hle _
      · split
        · exact hle _
        · exact Nat.le_refl _

/-- What is blank depends on nothing but the text. -/
theorem blank_rest (comment : Bool) (p p' : Nat) (t : Text) :
    (blank comment p' t).2 = (blank comment p t).2 := by
  induction t generalizing comment p p' with
  | nil => cases comment <;> rfl
  | cons c t ih =>
    cases comment with
    | true => exact ih _ _ _
    | false =>
      rw [blank, blank]
      split
      · exact ih _ _ _
      · split
        · exact ih _ _ _
        · rfl

/-- A parenthesis behind the text is left behind it, or lost in a comment. -/
theorem blank_close (comment : Bool) (p p' : Nat) (t : Text) :
    (blank comment p' (t ++ [')'])).2 = (blank comment p t).2 ++ [')'] ∨
      (blank comment p t).2 = [] ∧ (blank comment p' (t ++ [')'])).2 = [] := by
  induction t generalizing comment p p' with
  | nil =>
    cases comment with
    | true => exact .inr ⟨rfl, rfl⟩
    | false => exact .inl rfl
  | cons c t ih =>
    cases comment with
    | true => exact ih _ _ _
    | false =>
      rw [List.cons_append, blank, blank]
      split
      · exact ih _ _ _
      · split
        · exact ih _ _ _
        · exact .inl rfl

theorem Reading.blanked_of_nil {s : Reading} (h : s.rest = []) : s.blanked = s := by
  unfold blanked
  split
  · rw [h]
    cases s
    cases h
    rfl
  · rfl

section Moves

variable {behind : Text} {n n' : Nat} {s s' : Reading} {c : Char} {u : Text}

theorem Alongside.blanked (h : Alongside behind n n' s s') :
    Alongside behind n n' s.blanked s'.blanked := by
  unfold Reading.blanked
  rw [h.flags]
  split
  · have hlen := Nat.le_trans (length_blank_le false s.pos s.rest) h.le
    have hlen' := Nat.le_trans (length_blank_le false s'.pos s'.rest) h.le'
    refine ⟨h.behind_eq, rfl, h.groups, ?_, hlen, hlen'⟩
    rcases h.rest with hr | ⟨hr, hr'⟩
    · change (blank false s'.pos s'.rest).2 = _ ∨ _
      rw [hr]
      rcases h.behind_eq with rfl | rfl
      · rw [List.append_nil, List.append_nil]
        exact .inl (blank_rest false _ _ _)
      · exact blank_close _ _ _ _
    · change _ ∨ (blank false s.pos s.rest).2 = [] ∧ (blank false s'.pos s'.rest).2 = []
      rw [hr, hr']
      exact .inr ⟨rfl, rfl⟩
  · exact h

theorem skipBlank_together (h : Alongside behind n n' s s') :
    Together behind (fun _ _ _ => True) n n' (skipBlank s) (skipBlank s') := by
  rintro _ _ _ _ ⟨⟩ ⟨⟩
  exact ⟨h.blanked, trivial⟩

theorem bump_eq (hs : s.rest = c :: u) :
    bump s = .ok (!u.isEmpty, { s with pos := s.pos + 1, rest := u }) := by
  rw [bump, hs]

theorem bump_together (h : Alongside behind (n + 1) (n' + 1) s s') (hs : s.rest = c :: u) :
    Together behind (fun a b t => (a = true → b = true) ∧ (a = true → u ≠ []) ∧ t.rest = u) n n'
      (bump s) (bump s') := by
  rw [bump_eq hs, bump_eq (h.rest_cons hs)]
  rintro _ _ _ _ ⟨⟩ ⟨⟩
  refine ⟨h.tail hs _ _, ?_, ?_, rfl⟩
  · cases u <;> simp
  · cases u <;> simp

/-- At the end the first reading stays, and the second may take the parenthesis. -/
theorem bump_together_any (h : Alongside behind n n' s s') :
    Together behind (fun a b _ => a = true → b = true) n n' (bump s) (bump s') := by
  cases hs : s.rest with
  | cons c u =>
    obtain ⟨m, m', rfl, rfl⟩ := h.exists_succ hs
    exact ((bump_together h hs).mono (Nat.le_succ _) (Nat.le_succ _) fun _ _ _ hq => hq.1)
  | nil =>
    rw [bump, hs]
    rcases h.rest_nil hs with hr | hr
    · rw [bump_eq hr]
      rintro _ _ _ _ ⟨⟩ ⟨⟩
      exact ⟨{ h with rest := .inr ⟨hs, rfl⟩, le' := Nat.zero_le _ }, nofun⟩
    · rw [bump, hr]
      rintro _ _ _ _ ⟨⟩ ⟨⟩
      exact ⟨h, nofun⟩

theorem bumpBlank_eq (hs : s.rest = c :: u) : bumpBlank s =
    .ok (({ s with pos := s.pos + 1, rest := u } : Reading).blanked.rest.head?.isSome,
      ({ s with pos := s.pos + 1, rest := u } : Reading).blanked) := by
  change (bump s).bind (fun p => (if p.1 = true then _ else _ : Reads Bool) p.2) = _
  rw [bump_eq hs]
  cases u with
  | nil =>
    rw [Reading.blanked_of_nil rfl]
    rfl
  | cons d u => rfl

theorem bumpBlank_together (h : Alongside behind (n + 1) (n' + 1) s s') (hs : s.rest = c :: u) :
    Together behind (fun a b _ => a = true → b = true) n n' (bumpBlank s) (bumpBlank s') := by
  rw [bumpBlank_eq hs, bumpBlank_eq (h.rest_cons hs)]
  rintro _ _ _ _ ⟨⟩ ⟨⟩
  have ht := (h.tail hs (s.pos + 1) (s'.pos + 1)).blanked
  refine ⟨ht, fun hsome => ?_⟩
  cases hr : ({ s with pos := s.pos + 1, rest := u } : Reading).blanked.rest with
  | nil =>
    rw [hr] at hsome
    cases hsome
  | cons d v => rw [ht.rest_cons hr]; rfl

theorem bumpBlank_together_any (h : Alongside behind n n' s s') :
    Together behind (fun a b _ => a = true → b = true) n n' (bumpBlank s) (bumpBlank s') := by
  cases hs : s.rest with
  | cons c u =>
    obtain ⟨m, m', rfl, rfl⟩ := h.exists_succ hs
    exact (bumpBlank_together h hs).succ
  | nil =>
    have hnil : ∀ {r : Reading}, r.rest = [] → bumpBlank r = .ok (false, r) := by
      intro r hr
      change (bump r).bind (fun p => (if p.1 = true then _ else _ : Reads Bool) p.2) = _
      rw [bump, hr]
      rfl
    rw [hnil hs]
    rcases h.rest_nil hs with hr | hr
    · rw [bumpBlank_eq hr, Reading.blanked_of_nil rfl]
      rintro _ _ _ _ ⟨⟩ ⟨⟩
      exact ⟨{ h with rest := .inr ⟨hs, rfl⟩, le' := Nat.zero_le _ }, nofun⟩
    · rw [hnil hr]
      rintro _ _ _ _ ⟨⟩ ⟨⟩
      exact ⟨h, nofun⟩

theorem setFlags_together (h : Alongside behind n n' s s') (f : Flags) :
    Together behind (fun _ _ t => t.rest = s.rest) n n' (setFlags f s) (setFlags f s') := by
  rintro _ _ _ _ ⟨⟩ ⟨⟩
  exact ⟨{ h with flags := rfl }, rfl⟩

theorem failLate_together (h : Alongside behind n n' s s') (x x' : Extent)
    (kind kind' : ErrorKind) :
    Together behind (fun _ _ _ => True) n n' (failLate x kind s) (failLate x' kind' s') := by
  rintro _ _ _ _ ⟨⟩ ⟨⟩
  exact ⟨{ h with }, trivial⟩

theorem isPrefixOf_close {t : Text} (ht : ')' ∉ t) (v : Text) :
    t.isPrefixOf (v ++ [')']) = t.isPrefixOf v := by
  induction t generalizing v with
  | nil => simp
  | cons c t ih =>
    have hc : c ≠ ')' := fun h => ht (h ▸ List.mem_cons_self)
    cases v with
    | nil => simp [List.isPrefixOf, hc]
    | cons d v => simp [List.isPrefixOf, ih fun h => ht (List.mem_cons_of_mem c h)]

theorem bumpIf_together (h : Alongside behind n n' s s') {t : Text} (ht : ')' ∉ t) :
    Together behind (fun a b _ => a = b) n n' (bumpIf t s) (bumpIf t s') := by
  have heq : t.isPrefixOf s'.rest = t.isPrefixOf s.rest := by
    rcases h.rest with hr | ⟨hr, hr'⟩
    · rw [hr]
      rcases h.behind_eq with rfl | rfl
      · rw [List.append_nil]
      · exact isPrefixOf_close ht _
    · rw [hr, hr']
  unfold bumpIf
  rw [heq]
  split
  · rename_i hp
    rintro _ _ _ _ ⟨⟩ ⟨⟩
    refine ⟨⟨h.behind_eq, h.flags, h.groups, ?_, ?_, ?_⟩, rfl⟩
    · rcases h.rest with hr | ⟨hr, hr'⟩
      · have hlen := (List.isPrefixOf_iff_prefix.1 hp).length_le
        exact .inl (by rw [hr]; exact List.drop_append_of_le_length hlen)
      · exact .inr ⟨by rw [hr]; exact List.drop_nil, by rw [hr']; exact List.drop_nil⟩
    · exact Nat.le_trans (by simp) h.le
    · exact Nat.le_trans (by simp) h.le'
  · rintro _ _ _ _ ⟨⟩ ⟨⟩
    exact ⟨h, rfl⟩

end Moves

/-! ## Loops -/

variable {behind : Text} {n n' fuel fuel' : Nat} {s s' : Reading} {c : Char} {u : Text}

/-- Loops over characters have fuel for both readings. -/
theorem Alongside.fuel_succ (h : Alongside behind n n' s s') (hs : s.rest = c :: u) (hn : n ≤ fuel)
    (hn' : n' ≤ fuel') : ∃ m m' k k', n = m + 1 ∧ n' = m' + 1 ∧ fuel = k + 1 ∧ fuel' = k' + 1 ∧
      m ≤ k ∧ m' ≤ k' := by
  obtain ⟨m, m', rfl, rfl⟩ := h.exists_succ hs
  exact ⟨m, m', fuel - 1, fuel' - 1, rfl, rfl, by omega, by omega, by omega, by omega⟩

theorem current_bind {α : Type} (f : Option Char → Reads α) (s : Reading) :
    (current? >>= f) s = f s.rest.head? s := rfl

section Loop

variable {β : Type} (p : Char → Bool) (add : β → Char → β) (loop : Nat → β → Reads β)
variable (hzero : ∀ b, loop 0 b = pure b)
variable (hsucc : ∀ fuel b, loop (fuel + 1) b = do
  match ← current? with
  | some c => if p c then do let _ ← bumpBlank; loop fuel (add b c) else pure b
  | none => pure b)
include hzero hsucc

theorem loop_stop (h : ∀ c ∈ s.rest.head?, p c = false) (fuel : Nat) (b : β) :
    loop fuel b s = .ok (b, s) := by
  cases fuel with
  | zero => rw [hzero]; rfl
  | succ fuel =>
    rw [hsucc, current_bind]
    cases hr : s.rest.head? with
    | none => rfl
    | some c => simp only [h c hr]; rfl

/-- A loop that takes characters of a kind to which the parenthesis does not belong. -/
theorem loop_together (hp : p ')' = false) (h : Alongside behind n n' s s') (hn : n ≤ fuel)
    (hn' : n' ≤ fuel') (b : β) :
    Together behind (fun a b _ => a = b) n n' (loop fuel b s) (loop fuel' b s') := by
  have hstop : ∀ {n n' s s'}, Alongside behind n n' s s' → s.rest = [] → ∀ fuel fuel' b,
      Together behind (fun a b _ => a = b) n n' (loop fuel b s) (loop fuel' b s') := by
    intro n n' s s' h hs fuel fuel' b
    rw [loop_stop p add loop hzero hsucc (by simp [hs]), loop_stop p add loop hzero hsucc]
    · exact .pure h rfl
    · rcases h.rest_nil hs with hr | hr <;> simp [hr, hp]
  induction fuel generalizing n n' s s' fuel' b with
  | zero => exact hstop h (List.length_eq_zero_iff.1 (Nat.le_zero.1 (Nat.le_trans h.le hn))) _ _ _
  | succ fuel ih =>
    cases hs : s.rest with
    | nil => exact hstop h hs _ _ _
    | cons c u =>
      obtain ⟨m, m', k, k', rfl, rfl, ⟨⟩, rfl, hm, hm'⟩ := h.fuel_succ hs hn hn'
      rw [hsucc, hsucc]
      refine .current h (fun c u hs => ?_) fun hr => nomatch hs.symm.trans hr
      refine .ite (fun _ => ?_) fun _ => .pure h rfl
      exact .bind (bumpBlank_together h hs) fun _ t _ t' ht _ => (ih ht hm hm' _).succ

end Loop

theorem Alongside.tight (h : Alongside behind n n' s s') :
    Alongside behind s.rest.length s'.rest.length s s' :=
  { h with le := Nat.le_refl _, le' := Nat.le_refl _ }

theorem Alongside.nil_of_le_zero (h : Alongside behind n n' s s') (hn : n ≤ 0) : s.rest = [] :=
  List.length_eq_zero_iff.1 (Nat.le_zero.1 (Nat.le_trans h.le hn))

end Descent.Pattern
