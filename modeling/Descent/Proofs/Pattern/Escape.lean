import Descent.Proofs.Pattern.Together

/-! # Operators and escapes inside a group

What reads repetition operators and escape sequences does the same with a closing parenthesis behind
the pattern. -/
namespace Descent.Pattern

variable {behind : Text} {n n' fuel fuel' : Nat} {s s' : Reading} {c : Char} {u : Text}

/-! ## Repetition operators -/

theorem skipSpace_together (h : Alongside behind n n' s s') (hn : n ≤ fuel) (hn' : n' ≤ fuel') :
    Together behind (fun _ _ _ => True) n n' (skipSpace fuel s) (skipSpace fuel' s') :=
  (loop_together Unicode.isWhiteSpace (fun b _ => b) (fun fuel (_ : Unit) => skipSpace fuel)
    (fun _ => rfl) (fun _ _ => rfl) rfl h hn hn' ()).mono (Nat.le_refl _) (Nat.le_refl _)
      fun _ _ _ _ => trivial

theorem digits_together (h : Alongside behind n n' s s') (hn : n ≤ fuel) (hn' : n' ≤ fuel')
    (ds : Text) :
    Together behind (fun a b _ => a = b) n n' (digits fuel ds s) (digits fuel' ds s') :=
  loop_together Char.isDigit (fun ds c => ds ++ [c]) digits (fun _ => rfl) (fun _ _ => rfl) rfl h hn
    hn' ds

theorem decimal_together (h : Alongside behind n n' s s') :
    Together behind (fun a b _ => ∀ k l, a = .ok k → b = .ok l → k = l) n n' (decimal s)
      (decimal s') := by
  refine Together.mono ?_ h.le h.le' fun _ _ _ => id
  refine .get (.bind (skipSpace_together h.tight (Nat.le_refl _) (Nat.le_refl _))
    fun _ t _ t' ht _ => .here fun p p' => ?_)
  refine .bind (digits_together ht (Nat.le_refl _) (Nat.le_refl _) []) fun ds t _ t' ht hds => ?_
  cases hds
  refine .here fun q q' => .bind (skipSpace_together ht (Nat.le_refl _) (Nat.le_refl _))
    fun _ t _ t' ht _ => ?_
  refine .ite (fun _ => .pure ht nofun) fun _ => .ite (fun _ => .pure ht ?_) fun _ => .pure ht nofun
  rintro _ _ ⟨⟩ ⟨⟩
  rfl

theorem braced_together (h : Alongside behind n n' s s') (start start' : Nat) :
    Together behind (fun a b _ => a = b) n n' (braced start s) (braced start' s') := by
  refine .bind (decimal_together h) fun a t b t' ht hab => ?_
  refine .current ht (fun c u hr => ?_) fun _ _ _ => .error rfl
  by_cases hc : c = ','
  · subst hc
    refine .bind (bumpBlank_together_any ht) fun m t _ t' ht hm => .more hm rfl fun _ => ?_
    refine .currentIs (by decide) ht (fun u hr => ?_) fun _ => ?_
    · refine .bind (.lift ht hab) fun k t l t' ht hkl => ?_
      cases hkl
      exact .pure ht rfl
    · refine .bind (.lift ht hab) fun k t l t' ht hkl => ?_
      cases hkl
      refine .bind (decimal_together ht) fun a t b t' ht hab => ?_
      refine .bind (.lift ht hab) fun k t l t' ht hkl => ?_
      cases hkl
      exact .currentIs (by decide) ht (fun _ _ => .pure ht rfl) fun _ => .error rfl
  · simp only
    refine .bind (.lift ht hab) fun k t l t' ht hkl => ?_
    cases hkl
    exact .ite (fun _ => .pure ht rfl) fun _ => .error rfl

theorem lazyMark_together (h : Alongside behind n n' s s') :
    Together behind (fun a b _ => a = b) n n' (lazyMark s) (lazyMark s') :=
  bumpIf_together h (by decide)

theorem operator_together (h : Alongside behind (n + 1) (n' + 1) s s') (hs : s.rest = c :: u) :
    Together behind (fun a b _ => a = b) n n' (operator c s) (operator c s') := by
  refine .here fun p p' => .ite (fun _ => ?_) fun _ => ?_
  · refine .bind (bumpBlank_together h hs) fun m t _ t' ht hm => .more hm rfl fun _ => ?_
    refine .bind (braced_together ht p p') fun a t b t' ht hab => ?_
    cases hab
    refine .bind (bumpBlank_together_any ht) fun _ t _ t' ht _ => ?_
    refine .bind (lazyMark_together ht) fun z t z' t' ht hz => ?_
    cases hz
    exact .ite (fun _ => .pure ht rfl) fun _ => .error rfl
  · refine .bind (bump_together h hs) fun _ t _ t' ht _ => ?_
    refine .bind (lazyMark_together ht) fun z t z' t' ht hz => ?_
    cases hz
    exact .pure ht rfl

/-! ## Escape sequences -/

theorem fixedHex_together (h : Alongside behind n n' s s') (count value : Nat) :
    Together behind (fun a b _ => a = b) n n' (fixedHex count value s)
      (fixedHex count value s') := by
  induction count generalizing s s' value with
  | zero => exact .pure h rfl
  | succ count ih =>
    refine .here fun p p' => .current h (fun c u hr => ?_) fun _ _ _ => .error rfl
    simp only
    cases hexValue? c with
    | none => exact .error rfl
    | some d =>
      refine .bind (bumpBlank_together_any h) fun m t m' t' ht hm => ?_
      exact .guard rfl rfl fun _ => ih ht _

theorem bracedHex_together (h : Alongside behind n n' s s') (hn : n ≤ fuel) (hn' : n' ≤ fuel')
    (digits value : Nat) : Together behind (fun a b _ => a = b) n n'
      (bracedHex fuel digits value s) (bracedHex fuel' digits value s') := by
  have hnil : ∀ {r : Reading}, r.rest = [] → ∀ fuel digits value,
      bracedHex fuel digits value r = .ok ((digits, value), r) := by
    intro r hr fuel digits value
    cases fuel with
    | zero => rfl
    | succ fuel =>
      rw [bracedHex, current_bind, hr]
      rfl
  -- The parenthesis is no digit, so the second reading gets over the end only without fuel.
  have hstop : ∀ {n n' s s'}, Alongside behind n n' s s' → s.rest = [] → ∀ fuel fuel' digits value,
      Together behind (fun a b _ => a = b) n n' (bracedHex fuel digits value s)
        (bracedHex fuel' digits value s') := by
    intro n n' s s' h hs fuel fuel' digits value
    rw [hnil hs]
    rcases h.rest_nil hs with hr | hr
    · cases fuel' with
      | zero => exact .pure h rfl
      | succ fuel' =>
        rw [bracedHex, current_bind, hr]
        exact .error' rfl
    · rw [hnil hr]
      exact .pure h rfl
  induction fuel generalizing n n' s s' fuel' digits value with
  | zero => exact hstop h (h.nil_of_le_zero hn) _ _ _ _
  | succ fuel ih =>
    cases hs : s.rest with
    | nil => exact hstop h hs _ _ _ _
    | cons c u =>
      obtain ⟨m, m', k, k', rfl, rfl, ⟨⟩, rfl, hm, hm'⟩ := h.fuel_succ hs hn hn'
      refine .current h (fun c u hs => ?_) fun hr => nomatch hs.symm.trans hr
      by_cases hc : c = '\x7d'
      · subst hc
        exact .pure h rfl
      · simp only
        cases hexValue? c with
        | none => exact .error rfl
        | some d =>
          exact .bind (bumpBlank_together h hs) fun _ t _ t' ht _ => (ih ht hm hm' _ _).succ

/-- A code point of a fixed number of digits, which `hexEscape` reads where there is no brace. -/
def plainHex (p digits : Nat) : Reads (Char × Bool) := do
  let value ← fixedHex digits 0
  match scalar? value with
  | none => failAt p (← here) .hexInvalid
  | some c => return (c, false)

theorem plainHex_together (h : Alongside behind n n' s s') (p p' digits : Nat) :
    Together behind (fun a b _ => a = b) n n' (plainHex p digits s) (plainHex p' digits s') := by
  refine .bind (fixedHex_together h _ _) fun v t w t' ht hvw => ?_
  cases hvw
  cases scalar? v with
  | none => exact .error rfl
  | some d => exact .pure ht rfl

theorem hexEscape_together (h : Alongside behind (n + 1) (n' + 1) s s') (hs : s.rest = c :: u)
    (l : Char) :
    Together behind (fun a b _ => a = b) n n' (hexEscape l s) (hexEscape l s') := by
  refine .bind (bumpBlank_together h hs) fun m t _ t' ht hm => .here fun p p' => .more hm rfl
    fun _ => ?_
  refine .current ht (fun c u hr => ?_) fun hr o ho => ?_
  · by_cases hc : some c = some '\x7b'
    · cases hc
      refine .bind (bumpBlank_together_any ht) fun _ t _ t' ht _ => .get ?_
      refine .bind ((bracedHex_together ht.tight (Nat.le_refl _) (Nat.le_refl _) 0 0).mono ht.le
        ht.le' fun _ _ _ => id) fun a t b t' ht hab => ?_
      cases hab
      refine .here fun q q' => .currentSome ht rfl fun c u hr => ?_
      refine .bind (bumpBlank_together_any ht) fun _ t _ t' ht _ => ?_
      refine .guard rfl rfl fun _ => ?_
      cases scalar? a.2 with
      | none => exact .error rfl
      | some d => exact .pure ht rfl
    · simp only
      exact plainHex_together ht p p' _
  · rcases ho with rfl | rfl <;> exact plainHex_together ht p p' _

/-- At the end the second reading may take the parenthesis into the name. -/
theorem bracedName_together (h : Alongside behind n n' s s') (hn : n ≤ fuel) (hn' : n' ≤ fuel')
    (name : List Char) : Together behind (fun a b t => t.rest ≠ [] → a = b) n n'
      (bracedName fuel name s) (bracedName fuel' name s') := by
  have hnil : ∀ {r : Reading}, r.rest = [] → ∀ fuel name,
      bracedName fuel name r = .ok (name, r) := by
    intro r hr fuel name
    cases fuel with
    | zero => rfl
    | succ fuel =>
      rw [bracedName, current_bind, hr]
      rfl
  have hstop : ∀ {n n' s s'}, Alongside behind n n' s s' → s.rest = [] → ∀ fuel fuel' name,
      Together behind (fun a b t => t.rest ≠ [] → a = b) n n' (bracedName fuel name s)
        (bracedName fuel' name s') := by
    intro n n' s s' h hs fuel fuel' name
    rw [hnil hs]
    rcases h.rest_nil hs with hr | hr
    · cases fuel' with
      | zero => exact .pure h fun hne => absurd hs hne
      | succ fuel' =>
        rw [bracedName, current_bind, hr]
        change Together behind _ n n' _
          ((bumpBlank s').bind fun p => bracedName fuel' (name ++ [')']) p.2)
        rw [bumpBlank_eq hr, Reading.blanked_of_nil rfl]
        change Together behind _ n n' _ (bracedName fuel' (name ++ [')']) _)
        rw [hnil rfl]
        rintro _ _ _ _ ⟨⟩ ⟨⟩
        exact ⟨{ h with rest := .inr ⟨hs, rfl⟩, le' := Nat.zero_le _ }, fun hne => absurd hs hne⟩
    · rw [hnil hr]
      exact .pure h fun _ => rfl
  induction fuel generalizing n n' s s' fuel' name with
  | zero => exact hstop h (h.nil_of_le_zero hn) _ _ _
  | succ fuel ih =>
    cases hs : s.rest with
    | nil => exact hstop h hs _ _ _
    | cons c u =>
      obtain ⟨m, m', k, k', rfl, rfl, ⟨⟩, rfl, hm, hm'⟩ := h.fuel_succ hs hn hn'
      refine .current h (fun c u hs => ?_) fun hr => nomatch hs.symm.trans hr
      by_cases hc : c = '\x7d'
      · subst hc
        exact .pure h fun _ => rfl
      · simp only
        exact .bind (bumpBlank_together h hs) fun _ t _ t' ht _ => (ih ht hm hm' _).succ

theorem namedSet_together (h : Alongside behind n n' s s') (start start' : Nat) (name : List Char)
    (negated : Bool) : Together behind (fun a b _ => a = b) n n'
      (namedSet start name negated s) (namedSet start' name negated s') := by
  refine .here fun p p' => .flags h ?_
  cases s.flags.unicode with
  | false =>
    exact .bind (failLate_together h _ _ _ _) fun _ t _ t' ht _ => .pure ht rfl
  | true =>
    cases propertySet name with
    | error kind =>
      exact .bind (failLate_together h _ _ _ _) fun _ t _ t' ht _ => .pure ht rfl
    | ok set => exact .pure h rfl

theorem propertyEscape_together (h : Alongside behind (n + 1) (n' + 1) s s') (hs : s.rest = c :: u)
    (start start' : Nat) (negated : Bool) : Together behind (fun a b _ => a = b) n n'
      (propertyEscape start negated s) (propertyEscape start' negated s') := by
  refine .bind (bumpBlank_together h hs) fun m t _ t' ht hm => .here fun p p' => .more hm rfl
    fun _ => ?_
  refine .current ht (fun c u hr => ?_) fun _ _ _ => .error rfl
  by_cases hopen : c = '\x7b'
  · subst hopen
    refine .bind (bumpBlank_together_any ht) fun _ t _ t' ht _ => .get ?_
    refine .bind ((bracedName_together ht.tight (Nat.le_refl _) (Nat.le_refl _) []).mono ht.le
      ht.le' fun _ _ _ => id) fun a t b t' ht hab => ?_
    refine .here fun q q' => .currentSome ht rfl fun c u hr => ?_
    cases hab (by rw [hr]; exact nofun)
    exact .bind (bump_together_any ht) fun _ t _ t' ht _ => namedSet_together ht _ _ _ _
  · by_cases hslash : c = '\\'
    · subst hslash
      exact .error rfl
    · simp only
      exact .bind (bumpBlank_together_any ht) fun _ t _ t' ht _ => namedSet_together ht _ _ _ _

theorem boundaryName_together (h : Alongside behind n n' s s') (hn : n ≤ fuel) (hn' : n' ≤ fuel')
    (name : List Char) : Together behind (fun a b _ => a = b) n n'
      (boundaryName fuel name s) (boundaryName fuel' name s') :=
  loop_together (fun c => c.isAlpha || c == '-') (fun ds c => ds ++ [c]) boundaryName (fun _ => rfl)
    (fun _ _ => rfl) rfl h hn hn' name

theorem specialBoundary_together (h : Alongside behind n n' s s') (start start' : Nat)
    (k : WordKind) :
    Together behind (fun a b _ => a = b) n n' (specialBoundary start k s)
      (specialBoundary start' k s') := by
  refine Together.mono ?_ h.le h.le' fun _ _ _ => id
  refine .get (.here fun p p' => .bind (bumpBlank_together_any h.tight) fun m t _ t' ht hm => .here
    fun q q' => .more hm rfl fun _ => ?_)
  refine .bind (boundaryName_together ht (Nat.le_refl _) (Nat.le_refl _) [])
    fun name t _ t' ht hab => ?_
  cases hab
  refine .ite (fun _ => ?_) fun _ => .here fun r r' => ?_
  · rintro _ _ _ _ ⟨⟩ ⟨⟩
    exact ⟨h.tight, rfl⟩
  · refine .current ht (fun c u hr => .guard rfl rfl fun _ => ?_) fun _ _ _ => .error rfl
    refine .bind (bump_together_any ht) fun _ t _ t' ht _ => ?_
    generalize String.ofList name = w
    split
    · exact .pure ht rfl
    · exact .pure ht rfl
    · exact .pure ht rfl
    · exact .pure ht rfl
    · exact .error rfl

theorem complement_together (h : Alongside behind n n' s s') (x x' : Extent) (set : CharSet) :
    Together behind (fun a b _ => a = b) n n' (complement x set s) (complement x' set s') := by
  refine .flags h (.ite (fun _ => ?_) fun _ => .pure h rfl)
  exact .bind (failLate_together h _ _ _ _) fun _ t _ t' ht _ => .pure ht rfl

theorem escape_together (h : Alongside behind (n + 1) (n' + 1) s s') (hs : s.rest = c :: u) :
    Together behind (fun a b _ => a.primitive = b.primitive) n n' (escape s) (escape s') := by
  refine .here fun p p' => .bind (bump_together h hs) fun m t m' t' ht hm => .here fun q q' => ?_
  obtain ⟨hm, -, -⟩ := hm
  refine .current ht (fun c u hr => ?_) fun _ _ _ => .error (by cases m <;> rfl)
  cases m with
  | false => exact .error rfl
  | true =>
    rw [hm rfl]
    obtain ⟨k, k', rfl, rfl⟩ := ht.exists_succ hr
    refine .ite (fun _ => .error rfl) fun _ => .ite (fun _ => ?_) fun _ => .ite (fun _ => ?_)
      fun _ => ?_
    · refine .bind (hexEscape_together ht hr c).succ fun a t b t' ht hab => .here fun r r' => ?_
      cases hab
      refine .flags ht (.ite (fun _ => ?_) fun _ => .pure ht rfl)
      exact .bind (failLate_together ht _ _ _ _) fun _ t _ t' ht _ => .pure ht rfl
    · refine .bind (propertyEscape_together ht hr p p' (c == 'P')).succ fun a t b t' ht hab => ?_
      cases hab
      exact .here fun r r' => .pure ht rfl
    · refine .bind (bump_together ht hr).succ fun _ t _ t' ht _ => .here fun r r' => .flags ht ?_
      refine .ite (fun _ => .pure ht rfl) fun _ => ?_
      cases controlEscape? c with
      | some d => exact .pure ht rfl
      | none =>
        cases setEscape? t.flags.unicode c with
        | some set =>
          refine .ite (fun _ => ?_) fun _ => .pure ht rfl
          refine .bind (complement_together ht _ _ _) fun a t b t' ht hab => ?_
          cases hab
          exact .pure ht rfl
        | none =>
          cases anchorEscape? (if t.flags.unicode then .full else .ascii) c with
          | none => exact .error rfl
          | some a =>
            refine .current ht (fun d u hd => .ite (fun _ => ?_) fun _ => .pure ht rfl)
              fun _ o ho => ?_
            · refine .bind (specialBoundary_together ht p p' _) fun a t b t' ht hab => ?_
              cases hab
              exact .here fun l l' => .pure ht rfl
            · rw [if_neg (by simp), if_neg (by rcases ho with rfl | rfl <;> simp)]
              exact .pure ht rfl

end Descent.Pattern
