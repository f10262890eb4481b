import Descent.Proofs.Pattern.Together

/-! # Whether a parenthesis behind a pattern lets it be read

Of two readings that go together, the second with a closing parenthesis behind the text, either both
succeed or the first fails. If the first alone fails, it has met the end where the second has taken
the parenthesis in. The second has gone astray then, and a property of what it came to is all that
is known of it. -/
namespace Descent.Pattern

/-- An error is kept for the end by both or by neither, and both have met the same names. -/
structure Reading.Akin (s s' : Reading) : Prop where
  late : s.late.isSome = s'.late.isSome
  names : s.names.map Prod.fst = s'.names.map Prod.fst

structure Abreast (n n' : Nat) (s s' : Reading) : Prop extends Alongside [')'] n n' s s', s.Akin s'

theorem Abreast.tight {n n' : Nat} {s s' : Reading} (h : Abreast n n' s s') :
    Abreast s.rest.length s'.rest.length s s' :=
  { h with le := Nat.le_refl _, le' := Nat.le_refl _ }

/-- Nothing is left but the parenthesis, or not even that. -/
def Reading.AtEnd (s : Reading) : Prop := s.rest = [')'] ∨ s.rest = []

theorem Abreast.blanked {n n' : Nat} {s s' : Reading} (h : Abreast n n' s s') :
    Abreast n n' s.blanked s'.blanked := by
  have hkeeps : ∀ r : Reading, r.blanked.late = r.late ∧ r.blanked.names = r.names := by
    intro r
    unfold Reading.blanked
    split <;> exact ⟨rfl, rfl⟩
  exact { h.toAlongside.blanked with
    late := by rw [(hkeeps s).1, (hkeeps s').1, h.late]
    names := by rw [(hkeeps s).2, (hkeeps s').2, h.names] }

inductive Astray {β : Type} (L : β → Reading → Prop) : Except SyntaxError (β × Reading) → Prop where
  | error (e : SyntaxError) : Astray L (.error e)
  | ok {b : β} {t : Reading} : L b t → Astray L (.ok (b, t))

inductive Matched {α β : Type} (L : β → Reading → Prop) :
    Except SyntaxError (α × Reading) → Except SyntaxError (β × Reading) → Prop where
  | ok {a : α} {b : β} {t t' : Reading} : t.Akin t' → Matched L (.ok (a, t)) (.ok (b, t'))
  | astray {e : SyntaxError} {y : Except SyntaxError (β × Reading)} :
    Astray L y → Matched L (.error e) y

variable {α β γ δ : Type} {L : β → Reading → Prop} {K : δ → Reading → Prop}
variable {Q : α → β → Reading → Prop} {n n' : Nat} {s s' : Reading} {c : Char} {u : Text}

section Bind

variable {x : Reads α} {f : α → Reads γ} {a : α} {t : Reading} {e : SyntaxError}

theorem bind_ok (h : x s = .ok (a, t)) : (x >>= f) s = f a t := by
  change (x s).bind (fun p => f p.1 p.2) = _
  rw [h]
  rfl

theorem bind_error (h : x s = .error e) : (x >>= f) s = .error e := by
  change (x s).bind (fun p => f p.1 p.2) = _
  rw [h]
  rfl

theorem skipBlank_bind (x : Reads γ) (s : Reading) :
    (skipBlank >>= fun _ => x) s = x s.blanked := rfl

theorem here_bind (f : Nat → Reads γ) (s : Reading) : (here >>= f) s = f s.pos s := rfl

theorem flags_bind (f : Flags → Reads γ) (s : Reading) : (flags >>= f) s = f s.flags s := rfl

theorem lift_bind : ((liftM (Except.ok a : Except SyntaxError α) : Reads α) >>= f) s = f a s := rfl

end Bind

namespace Astray

theorem mono {L' : β → Reading → Prop} {y : Except SyntaxError (β × Reading)} (h : Astray L y)
    (hL : ∀ b t, L b t → L' b t) : Astray L' y := by
  cases h with
  | error e => exact .error e
  | ok hb => exact .ok (hL _ _ hb)

theorem of_error {y : Except SyntaxError (β × Reading)} {e : SyntaxError} (h : y = .error e) :
    Astray L y := by
  subst h
  exact .error e

theorem exists_error {y : Except SyntaxError (β × Reading)} (h : Astray (fun _ _ => False) y) :
    ∃ e, y = .error e := by
  cases h with
  | error e => exact ⟨e, rfl⟩
  | ok hb => exact hb.elim

theorem bind {y : Reads β} {g : β → Reads δ} (h : Astray L (y s))
    (hg : ∀ b t, L b t → Astray K (g b t)) : Astray K ((y >>= g) s) := by
  cases hy : y s with
  | error e =>
    rw [bind_error hy]
    exact .error e
  | ok p =>
    obtain ⟨b, t⟩ := p
    rw [hy] at h
    rw [bind_ok hy]
    cases h with
    | ok hL => exact hg b t hL

end Astray

/-! ## Computations that cannot fail -/

/-- It comes to a result, and neither keeps an error nor meets a name. -/
def Quiet (x : Reads α) : Prop :=
  ∀ s, ∃ a t, x s = .ok (a, t) ∧ t.late = s.late ∧ t.names = s.names

namespace Quiet

theorem pure (a : α) : Quiet (Pure.pure a : Reads α) := fun s => ⟨a, s, rfl, rfl, rfl⟩

theorem bind {x : Reads α} {f : α → Reads γ} (hx : Quiet x) (hf : ∀ a, Quiet (f a)) :
    Quiet (x >>= f) := by
  intro s
  obtain ⟨a, t, ha, hl, hn⟩ := hx s
  obtain ⟨b, r, hb, hl', hn'⟩ := hf a t
  exact ⟨b, r, (bind_ok ha).trans hb, hl'.trans hl, hn'.trans hn⟩

theorem ite {p : Prop} [Decidable p] {x y : Reads α} (hx : Quiet x) (hy : Quiet y) :
    Quiet (if p then x else y) := by
  split
  · exact hx
  · exact hy

theorem current : Quiet current? := fun s => ⟨_, s, rfl, rfl, rfl⟩

theorem here : Quiet Pattern.here := fun s => ⟨_, s, rfl, rfl, rfl⟩

theorem get : Quiet (MonadState.get : Reads Reading) := fun s => ⟨s, s, rfl, rfl, rfl⟩

theorem skipBlank : Quiet Pattern.skipBlank := by
  intro s
  refine ⟨(), s.blanked, rfl, ?_, ?_⟩ <;>
  · unfold Reading.blanked
    split <;> rfl

theorem bump : Quiet Pattern.bump := by
  intro s
  unfold Pattern.bump
  split
  · exact ⟨_, s, rfl, rfl, rfl⟩
  · exact ⟨_, _, rfl, rfl, rfl⟩

theorem bumpBlank : Quiet Pattern.bumpBlank :=
  .bind .bump fun _ => .ite (.bind .skipBlank fun _ => .bind .current fun _ => .pure _) (.pure _)

theorem bumpIf (t : Text) : Quiet (Pattern.bumpIf t) := by
  intro s
  unfold Pattern.bumpIf
  split
  · exact ⟨_, _, rfl, rfl, rfl⟩
  · exact ⟨_, s, rfl, rfl, rfl⟩

theorem setFlags (f : Flags) : Quiet (Pattern.setFlags f) := fun _ => ⟨(), _, rfl, rfl, rfl⟩

/-- Loops that take characters of a kind. -/
theorem loop (p : Char → Bool) (add : β → Char → β) (loop : Nat → β → Reads β)
    (hzero : ∀ b, loop 0 b = Pure.pure b)
    (hsucc : ∀ fuel b, loop (fuel + 1) b = do
      match ← current? with
      | some c => if p c then do let _ ← Pattern.bumpBlank; loop fuel (add b c) else Pure.pure b
      | none => Pure.pure b)
    (fuel : Nat) (b : β) : Quiet (loop fuel b) := by
  induction fuel generalizing b with
  | zero =>
    rw [hzero]
    exact .pure b
  | succ fuel ih =>
    rw [hsucc]
    refine .bind .current fun o => ?_
    cases o with
    | none => exact .pure b
    | some c => exact .ite (.bind .bumpBlank fun _ => ih _) (.pure b)

end Quiet

namespace Matched

theorem pure {a : α} {b : β} (h : s.Akin s') :
    Matched L ((Pure.pure a : Reads α) s) ((Pure.pure b : Reads β) s') := .ok h

theorem errors {x : Except SyntaxError (α × Reading)} {y : Except SyntaxError (β × Reading)}
    {e e' : SyntaxError} (hx : x = .error e) (hy : y = .error e') : Matched L x y := by
  subst hx hy
  exact .astray (.error _)

theorem of_error {x : Except SyntaxError (α × Reading)} {y : Except SyntaxError (β × Reading)}
    {e : SyntaxError} (hx : x = .error e) (hy : Astray L y) : Matched L x y := by
  subst hx
  exact .astray hy

theorem of_quiet {x : Reads α} {y : Reads β} (hx : Quiet x) (hy : Quiet y) (h : s.Akin s') :
    Matched L (x s) (y s') := by
  obtain ⟨a, t, ha, hl, hn⟩ := hx s
  obtain ⟨b, t', hb, hl', hn'⟩ := hy s'
  rw [ha, hb]
  exact .ok ⟨by rw [hl, hl', h.late], by rw [hn, hn', h.names]⟩

/-- Where the second reading goes astray, so it does in what follows. -/
theorem bindAstray {x : Reads α} {y : Reads β} {f : α → Reads γ} {g : β → Reads δ}
    (ht : Together [')'] Q n n' (x s) (y s')) (hx : Matched L (x s) (y s'))
    (hf : ∀ a t b t', Abreast n n' t t' → Q a b t → Matched K (f a t) (g b t'))
    (hg : ∀ b t', L b t' → Astray K (g b t')) : Matched K ((x >>= f) s) ((y >>= g) s') := by
  cases hxs : x s with
  | error e =>
    refine .of_error (bind_error hxs) (Astray.bind ?_ hg)
    rw [hxs] at hx
    cases hx with
    | astray h => exact h
  | ok p =>
    cases hys : y s' with
    | error e =>
      rw [hxs, hys] at hx
      cases hx
    | ok q =>
      obtain ⟨a, t⟩ := p
      obtain ⟨b, t'⟩ := q
      rw [bind_ok hxs, bind_ok hys]
      obtain ⟨hside, hq⟩ := ht a t b t' hxs hys
      rw [hxs, hys] at hx
      cases hx with
      | ok h => exact hf a t b t' { hside, h with } hq

theorem bind {x : Reads α} {y : Reads β} {f : α → Reads γ} {g : β → Reads δ}
    (ht : Together [')'] Q n n' (x s) (y s')) (hx : Matched (fun _ _ => False) (x s) (y s'))
    (hf : ∀ a t b t', Abreast n n' t t' → Q a b t → Matched K (f a t) (g b t')) :
    Matched K ((x >>= f) s) ((y >>= g) s') :=
  bindAstray ht hx hf fun _ _ h => h.elim

theorem bindQuiet {x : Reads α} {y : Reads β} {f : α → Reads γ} {g : β → Reads δ}
    (ht : Together [')'] Q n n' (x s) (y s')) (hx : Quiet x) (hy : Quiet y) (h : s.Akin s')
    (hf : ∀ a t b t', Abreast n n' t t' → Q a b t → Matched K (f a t) (g b t')) :
    Matched K ((x >>= f) s) ((y >>= g) s') :=
  bind ht (of_quiet hx hy h) hf

theorem ite {p : Prop} [Decidable p] {x z : Reads α} {y w : Reads β}
    (h : p → Matched L (x s) (y s')) (hn : ¬p → Matched L (z s) (w s')) :
    Matched L ((if p then x else z) s) ((if p then y else w) s') := by
  by_cases hp : p
  · rw [if_pos hp, if_pos hp]
    exact h hp
  · rw [if_neg hp, if_neg hp]
    exact hn hp

theorem here {f : Nat → Reads γ} {g : Nat → Reads δ} (h : ∀ p p', Matched K (f p s) (g p' s')) :
    Matched K ((Pattern.here >>= f) s) ((Pattern.here >>= g) s') := h _ _

theorem skipBlank {x : Reads γ} {y : Reads δ} (h : Matched K (x s.blanked) (y s'.blanked)) :
    Matched K ((Pattern.skipBlank >>= fun _ => x) s) ((Pattern.skipBlank >>= fun _ => y) s') := h

theorem flags {f : Flags → Reads γ} {g : Flags → Reads δ} (hs : Abreast n n' s s')
    (h : Matched K (f s.flags s) (g s.flags s')) :
    Matched K ((Pattern.flags >>= f) s) ((Pattern.flags >>= g) s') :=
  show Matched K (f s.flags s) (g s'.flags s') from hs.flags.symm ▸ h

theorem get {f : Reading → Reads γ} {g : Reading → Reads δ} (h : Matched K (f s s) (g s' s')) :
    Matched K ((MonadState.get >>= f) s) ((MonadState.get >>= g) s') := h

/-- Errors that are thrown if there are any. -/
theorem lift {x y : Except SyntaxError α} {f : α → Reads γ} {g : α → Reads δ}
    (hxy : x.toOption = y.toOption) (h : ∀ a, Matched K (f a s) (g a s')) :
    Matched K (((liftM x : Reads α) >>= f) s) (((liftM y : Reads α) >>= g) s') := by
  cases x with
  | error e =>
    cases y with
    | error e' => exact .errors rfl rfl
    | ok b => cases hxy
  | ok a =>
    cases y with
    | error e => cases hxy
    | ok b =>
      cases hxy
      exact h a

theorem failLate {L : Unit → Reading → Prop} (h : s.Akin s') (x x' : Extent)
    (kind kind' : ErrorKind) :
    Matched L (Pattern.failLate x kind s) (Pattern.failLate x' kind' s') :=
  .ok ⟨by simp, h.names⟩

theorem pureLate {a : α} {b : β} (h : Abreast n n' s s') (x x' : Extent) (kind kind' : ErrorKind) :
    Matched L ((do Pattern.failLate x kind; return a : Reads α) s)
      ((do Pattern.failLate x' kind'; return b : Reads β) s') :=
  bind (failLate_together h.toAlongside x x' kind kind') (.failLate h.toAkin x x' kind kind')
    fun _ _ _ _ ht _ => .pure ht.toAkin

/-- Where it does not matter whether there is more, both readings move on. -/
theorem bumpAny {f : Bool → Reads γ} {g : Bool → Reads δ} (h : Abreast n n' s s')
    (hf : ∀ a t b t', Abreast n n' t t' → Matched K (f a t) (g b t')) :
    Matched K ((Pattern.bump >>= f) s) ((Pattern.bump >>= g) s') :=
  bindQuiet (bump_together_any h.toAlongside) .bump .bump h.toAkin
    fun a t b t' ht _ => hf a t b t' ht

theorem bumpBlankAny {f : Bool → Reads γ} {g : Bool → Reads δ} (h : Abreast n n' s s')
    (hf : ∀ a t b t', Abreast n n' t t' → Matched K (f a t) (g b t')) :
    Matched K ((Pattern.bumpBlank >>= f) s) ((Pattern.bumpBlank >>= g) s') :=
  bindQuiet (bumpBlank_together_any h.toAlongside) .bumpBlank .bumpBlank h.toAkin
    fun a t b t' ht _ => hf a t b t' ht

theorem bumpIf {v : Text} {f : Bool → Reads γ} {g : Bool → Reads δ} (hv : ')' ∉ v)
    (h : Abreast n n' s s') (hf : ∀ a t t', Abreast n n' t t' → Matched K (f a t) (g a t')) :
    Matched K ((Pattern.bumpIf v >>= f) s) ((Pattern.bumpIf v >>= g) s') := by
  refine bindQuiet (bumpIf_together h.toAlongside hv) (.bumpIf v) (.bumpIf v) h.toAkin
    fun a t b t' ht hab => ?_
  cases hab
  exact hf a t t' ht

theorem setFlags {x : Reads γ} {y : Reads δ} (h : Abreast n n' s s') (f : Flags)
    (hx : ∀ t t', Abreast n n' t t' → t.rest = s.rest → Matched K (x t) (y t')) :
    Matched K ((do Pattern.setFlags f; x) s) ((do Pattern.setFlags f; y) s') :=
  bindQuiet (setFlags_together h.toAlongside f) (.setFlags f) (.setFlags f) h.toAkin
    fun _ t _ t' ht hrest => hx t t' ht hrest

theorem current {f : Option Char → Reads γ} {g : Option Char → Reads δ} (hs : Abreast n n' s s')
    (hsome : ∀ c u, s.rest = c :: u → Matched K (f (some c) s) (g (some c) s'))
    (hnone : s.rest = [] → s'.AtEnd → Matched K (f none s) (g s'.rest.head? s')) :
    Matched K ((current? >>= f) s) ((current? >>= g) s') := by
  change Matched K (f s.rest.head? s) (g s'.rest.head? s')
  cases hr : s.rest with
  | cons c u =>
    rw [hs.rest_cons hr]
    exact hsome c u hr
  | nil => exact hnone hr (hs.rest_nil hr)

/-- A character that is asked for and is not the parenthesis. -/
theorem currentIs {d : Char} (hd : d ≠ ')') {x z : Reads γ} {y w : Reads δ}
    (hs : Abreast n n' s s') (h : ∀ u, s.rest = d :: u → Matched K (x s) (y s'))
    (hn : Matched K (z s) (w s')) :
    Matched K ((do if (← current?) = some d then x else z) s)
      ((do if (← current?) = some d then y else w) s') := by
  refine current hs (fun c u hr => ite (fun hc => ?_) fun _ => hn) fun hr hend => ?_
  · cases hc
    exact h u hr
  · rw [if_neg nofun, if_neg]
    · exact hn
    · rcases hend with hr' | hr' <;> rw [hr']
      · exact fun hc => hd (Option.some.inj hc).symm
      · exact nofun

end Matched

/-! ## At the end -/

theorem bump_nil (hs : s.rest = []) : bump s = .ok (false, s) := by
  rw [bump, hs]

theorem bumpBlank_nil (hs : s.rest = []) : bumpBlank s = .ok (false, s) :=
  (bind_ok (bump_nil hs)).trans rfl

/-- A move that tells of no character has come to the end. -/
theorem bumpBlank_told
    (h : Together [')'] (fun a b _ => a = true → b = true) n n' (bumpBlank s) (bumpBlank s')) :
    Together [')'] (fun a b t => (a = true → b = true) ∧ (a = false → t.rest = [])) n n'
      (bumpBlank s) (bumpBlank s') := by
  intro a t b t' ha hb
  obtain ⟨ht, hab⟩ := h a t b t' ha hb
  refine ⟨ht, hab, ?_⟩
  cases hs : s.rest with
  | nil =>
    rw [bumpBlank_nil hs] at ha
    cases ha
    exact fun _ => hs
  | cons c u =>
    rw [bumpBlank_eq hs] at ha
    obtain ⟨rfl, rfl⟩ := Prod.mk.inj (Except.ok.inj ha)
    simp

namespace Reading.AtEnd

variable (h : s.AtEnd)
include h

theorem blanked_eq : s.blanked = s := by
  rcases h with hr | hr
  · unfold blanked
    split
    · rw [hr]
      cases s
      cases hr
      rfl
    · rfl
  · exact blanked_of_nil hr

theorem current_ne {d : Char} (hd : d ≠ ')') : s.rest.head? ≠ some d := by
  rcases h with hr | hr <;> rw [hr]
  · exact fun hc => hd (Option.some.inj hc).symm
  · exact nofun

theorem head?_stops {p : Char → Bool} (hp : p ')' = false) : ∀ c ∈ s.rest.head?, p c = false := by
  rcases h with hr | hr <;> simp [hr, hp]

theorem bump_eq : ∃ t, bump s = .ok (false, t) ∧ t.rest = [] := by
  rcases h with hr | hr
  · exact ⟨_, Pattern.bump_eq hr, rfl⟩
  · exact ⟨s, bump_nil hr, hr⟩

theorem bumpBlank_eq : ∃ t, bumpBlank s = .ok (false, t) ∧ t.rest = [] := by
  rcases h with hr | hr
  · refine ⟨{ s with pos := s.pos + 1, rest := [] }, ?_, rfl⟩
    rw [Pattern.bumpBlank_eq hr, blanked_of_nil rfl]
    rfl
  · exact ⟨s, bumpBlank_nil hr, hr⟩

end Reading.AtEnd

namespace Matched

theorem bump {f : Bool → Reads γ} {g : Bool → Reads δ} (h : Abreast (n + 1) (n' + 1) s s')
    (hs : s.rest = c :: u)
    (hf : ∀ t t', Abreast n n' t t' → t.rest = u → Matched K (f (!u.isEmpty) t) (g true t')) :
    Matched K ((Pattern.bump >>= f) s) ((Pattern.bump >>= g) s') := by
  have hmore : (u ++ [')']).isEmpty = false := by simp
  rw [bind_ok (bump_eq hs), bind_ok (bump_eq (h.rest_cons hs)), hmore]
  exact hf _ _ { h.tail hs _ _ with late := h.late, names := h.names } rfl

/-- Behind a move that meets the end the first reading fails. -/
theorem orFailAt {x z : Nat → Reads γ} {y w : Nat → Reads δ} (h : s.Akin s')
    (hmove : Together [')'] (fun a b _ => a = true → b = true) n n' (bumpBlank s) (bumpBlank s'))
    (hz : ∀ p t, ∃ e, z p t = .error e) (hw : ∀ p t, ∃ e, w p t = .error e)
    (hx : ∀ p p' t t', Abreast n n' t t' → Matched K (x p t) (y p' t'))
    (hend : ∀ p' t', bumpBlank s' = .ok (true, t') → t'.AtEnd → Astray K (y p' t')) :
    Matched K ((do let more ← bumpBlank; let p ← Pattern.here; if !more then z p else x p) s)
      ((do let more ← bumpBlank; let p ← Pattern.here; if !more then w p else y p) s') := by
  obtain ⟨a, t, ha, -, -⟩ := Quiet.bumpBlank s
  obtain ⟨b, t', hb, -, -⟩ := Quiet.bumpBlank s'
  obtain ⟨ht, hab, hnil⟩ := bumpBlank_told hmove a t b t' ha hb
  have hakin : Matched (fun _ _ => False) (bumpBlank s) (bumpBlank s') :=
    of_quiet .bumpBlank .bumpBlank h
  rw [ha, hb] at hakin
  rw [bind_ok ha, bind_ok hb]
  cases hakin with
  | ok hakin =>
    cases a with
    | true =>
      rw [hab rfl]
      exact hx _ _ t t' { ht, hakin with }
    | false =>
      refine .of_error (hz t.pos t).choose_spec ?_
      cases b with
      | false => exact .of_error (hw t'.pos t').choose_spec
      | true => exact hend _ t' hb (ht.rest_nil (hnil rfl))

theorem orFail {x z : Reads γ} {y w : Reads δ} (h : s.Akin s')
    (hmove : Together [')'] (fun a b _ => a = true → b = true) n n' (bumpBlank s) (bumpBlank s'))
    (hz : ∀ t, ∃ e, z t = .error e) (hw : ∀ t, ∃ e, w t = .error e)
    (hx : ∀ t t', Abreast n n' t t' → Matched K (x t) (y t'))
    (hend : ∀ t', bumpBlank s' = .ok (true, t') → t'.AtEnd → Astray K (y t')) :
    Matched K ((do if !(← bumpBlank) then z else x) s) ((do if !(← bumpBlank) then w else y) s') :=
  orFailAt h hmove (fun _ => hz) (fun _ => hw) (fun _ _ => hx) fun _ => hend

end Matched

/-! ## Loops up to a character -/

/-- A loop up to a certain character or the end, which refuses characters of the wrong kind. -/
structure Until (d : Char) (add : β → Char → Option β) (move : Reads Bool)
    (loop : Nat → β → Reads β) : Prop where
  zero : ∀ b, loop 0 b = Pure.pure b
  nil : ∀ fuel b s, s.rest = [] → loop (fuel + 1) b s = .ok (b, s)
  stop : ∀ fuel b s u, s.rest = d :: u → loop (fuel + 1) b s = .ok (b, s)
  refuse : ∀ fuel b s c u, s.rest = c :: u → c ≠ d → add b c = none →
    ∃ e, loop (fuel + 1) b s = .error e
  take : ∀ fuel b s c u b', s.rest = c :: u → c ≠ d → add b c = some b' →
    loop (fuel + 1) b s = (move >>= fun _ => loop fuel b') s

/-- Both computations move on. -/
def Moves (x : Reads Bool) : Prop :=
  ∀ n n' s s' c u, Abreast (n + 1) (n' + 1) s s' → s.rest = c :: u →
    ∃ a t b t', x s = .ok (a, t) ∧ x s' = .ok (b, t') ∧ Abreast n n' t t'

theorem moves_of_quiet {x : Reads Bool} {Q : List Char → Bool → Bool → Reading → Prop}
    (hx : Quiet x)
    (ht : ∀ {n n' s s' c u}, Alongside [')'] (n + 1) (n' + 1) s s' → s.rest = c :: u →
      Together [')'] (Q u) n n' (x s) (x s')) : Moves x := by
  intro n n' s s' c u h hs
  obtain ⟨a, t, ha, hl, hn⟩ := hx s
  obtain ⟨b, t', hb, hl', hn'⟩ := hx s'
  have hside := (ht h.toAlongside hs a t b t' ha hb).1
  exact ⟨a, t, b, t', ha, hb,
    { hside with late := by rw [hl, hl', h.late], names := by rw [hn, hn', h.names] }⟩

theorem moves_bump : Moves bump := moves_of_quiet .bump bump_together

theorem moves_bumpBlank : Moves bumpBlank :=
  moves_of_quiet (Q := fun _ a b _ => a = true → b = true) .bumpBlank bumpBlank_together

/-- A loop over what is left either goes on in both readings, or has come to the end in the first
and refuses the parenthesis in the second. -/
theorem Until.matched {d : Char} {add : β → Char → Option β} {move : Reads Bool}
    {loop : Nat → β → Reads β} (hu : Until d add move loop) (hd : d ≠ ')')
    (hadd : ∀ b, add b ')' = none) (hmove : Moves move) {fuel fuel' : Nat} (h : Abreast n n' s s')
    (hn : n ≤ fuel) (hn' : n' ≤ fuel') (b : β) :
    Matched (fun _ _ => False) (loop fuel b s) (loop fuel' b s') ∨
      ∃ a t e, loop fuel b s = .ok (a, t) ∧ t.rest = [] ∧ loop fuel' b s' = .error e := by
  have hnil : ∀ {r : Reading}, r.rest = [] → ∀ fuel b, loop fuel b r = .ok (b, r) := by
    intro r hr fuel b
    cases fuel with
    | zero =>
      rw [hu.zero]
      rfl
    | succ fuel => exact hu.nil fuel b r hr
  have hstop : ∀ {n n' s s'}, Abreast n n' s s' → s.rest = [] → ∀ fuel fuel' b,
      Matched (fun _ _ => False) (loop fuel b s) (loop fuel' b s') ∨
        ∃ a t e, loop fuel b s = .ok (a, t) ∧ t.rest = [] ∧ loop fuel' b s' = .error e := by
    intro n n' s s' h hs fuel fuel' b
    rw [hnil hs]
    rcases h.rest_nil hs with hr | hr
    · cases fuel' with
      | zero =>
        rw [hu.zero]
        exact .inl (.ok h.toAkin)
      | succ fuel' =>
        obtain ⟨e, he⟩ := hu.refuse fuel' b s' ')' [] hr hd.symm (hadd b)
        exact .inr ⟨_, _, e, rfl, hs, he⟩
    · rw [hnil hr]
      exact .inl (.ok h.toAkin)
  induction fuel generalizing n n' s s' fuel' b with
  | zero => exact hstop h (h.nil_of_le_zero hn) _ _ _
  | succ fuel ih =>
    cases hs : s.rest with
    | nil => exact hstop h hs _ _ _
    | cons c u =>
      have hs' := h.rest_cons hs
      obtain ⟨m, m', k, k', rfl, rfl, ⟨⟩, rfl, hm, hm'⟩ := h.fuel_succ hs hn hn'
      by_cases hc : c = d
      · subst hc
        rw [hu.stop _ _ _ _ hs, hu.stop _ _ _ _ hs']
        exact .inl (.ok h.toAkin)
      · cases hb : add b c with
        | none =>
          obtain ⟨e, he⟩ := hu.refuse fuel b s c u hs hc hb
          obtain ⟨e', he'⟩ := hu.refuse k' b s' c _ hs' hc hb
          exact .inl (.errors he he')
        | some b' =>
          obtain ⟨_, t, _, t', ha, ha', ht⟩ := hmove _ _ _ _ _ _ h hs
          rw [hu.take _ _ _ _ _ _ hs hc hb, hu.take _ _ _ _ _ _ hs' hc hb, bind_ok ha, bind_ok ha']
          exact ih ht hm hm' b'

end Descent.Pattern
