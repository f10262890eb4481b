import Descent.Proofs.Pattern.Acceptance.Basic
import Descent.Proofs.Pattern.Escape

/-! # Operators and escapes at the end of a pattern -/
namespace Descent.Pattern

variable {n n' fuel fuel' : Nat} {s s' : Reading} {c : Char} {u : Text}

/-! ## Repetition operators -/

theorem skipSpace_quiet (fuel : Nat) : Quiet (skipSpace fuel) :=
  .loop Unicode.isWhiteSpace (fun b _ => b) (fun fuel (_ : Unit) => skipSpace fuel) (fun _ => rfl)
    (fun _ _ => rfl) fuel ()

theorem digits_quiet (fuel : Nat) (ds : Text) : Quiet (digits fuel ds) :=
  .loop Char.isDigit (fun ds c => ds ++ [c]) digits (fun _ => rfl) (fun _ _ => rfl) fuel ds

theorem decimal_quiet : Quiet decimal :=
  .bind .get fun _ => .bind (skipSpace_quiet _) fun _ => .bind .here fun _ =>
    .bind (digits_quiet _ _) fun _ => .bind .here fun _ => .bind (skipSpace_quiet _) fun _ =>
      .ite (.pure _) (.ite (.pure _) (.pure _))

/-- Both read the same number, or none. -/
theorem decimal_toOption (h : Alongside [')'] n n' s s') :
    Together [')'] (fun a b _ => a.toOption = b.toOption) n n' (decimal s) (decimal s') := by
  refine Together.mono ?_ h.le h.le' fun _ _ _ => id
  refine .get (.bind (skipSpace_together h.tight (Nat.le_refl _) (Nat.le_refl _))
    fun _ t _ t' ht _ => .here fun p p' => ?_)
  refine .bind (digits_together ht (Nat.le_refl _) (Nat.le_refl _) []) fun ds t _ t' ht hds => ?_
  cases hds
  refine .here fun q q' => .bind (skipSpace_together ht (Nat.le_refl _) (Nat.le_refl _))
    fun _ t _ t' ht _ => ?_
  exact .ite (fun _ => .pure ht rfl) fun _ => .ite (fun _ => .pure ht rfl) fun _ => .pure ht rfl

theorem decimal_atEnd (h : s.AtEnd) : ∃ e, decimal s = .ok (.error e, s) := by
  have hspace : ∀ fuel, skipSpace fuel s = .ok ((), s) := fun fuel =>
    loop_stop Unicode.isWhiteSpace (fun b _ => b) (fun fuel (_ : Unit) => skipSpace fuel)
      (fun _ => rfl) (fun _ _ => rfl) (h.head?_stops (by decide)) fuel ()
  have hdigits : ∀ fuel, digits fuel [] s = .ok ([], s) := fun fuel =>
    loop_stop Char.isDigit (fun ds c => ds ++ [c]) digits (fun _ => rfl) (fun _ _ => rfl)
      (h.head?_stops (by decide)) fuel []
  refine ⟨⟨.countEmpty, ⟨s.pos, s.pos⟩, none⟩, ?_⟩
  refine (bind_ok (a := s) (t := s) rfl).trans ((bind_ok (hspace _)).trans ?_)
  refine (bind_ok (a := s.pos) (t := s) rfl).trans ((bind_ok (hdigits _)).trans ?_)
  exact (bind_ok (a := s.pos) (t := s) rfl).trans ((bind_ok (hspace _)).trans rfl)

/-- No count ends where the pattern does. -/
theorem braced_atEnd (h : s.AtEnd) (start : Nat) : ∃ e, braced start s = .error e := by
  obtain ⟨e, he⟩ := decimal_atEnd h
  rcases h with hr | hr
  · refine ⟨e, (bind_ok he).trans ?_⟩
    rw [current_bind, hr]
    rfl
  · refine ⟨⟨.countUnclosed, ⟨start, s.pos⟩, none⟩, (bind_ok he).trans ?_⟩
    rw [current_bind, hr]
    rfl

theorem braced_matched {L : Count → Reading → Prop} (h : Abreast n n' s s') (start start' : Nat) :
    Matched L (braced start s) (braced start' s') := by
  refine .bindQuiet (decimal_toOption h.toAlongside) decimal_quiet decimal_quiet h.toAkin
    fun a t b t' ht hab => .current ht (fun c u hr => ?_) fun hr hend => ?_
  · by_cases hc : c = ','
    · subst hc
      refine .orFail ht.toAkin (bumpBlank_together_any ht.toAlongside) (fun _ => ⟨_, rfl⟩)
        (fun _ => ⟨_, rfl⟩) (fun t t' ht => ?_) fun t' _ hend => ?_
      · refine .currentIs (by decide) ht (fun _ _ => .lift hab fun _ => .pure ht.toAkin) ?_
        refine .lift hab fun _ => .bindQuiet (decimal_toOption ht.toAlongside) decimal_quiet
          decimal_quiet ht.toAkin fun a t b t' ht hab => .lift hab fun _ => ?_
        exact .currentIs (by decide) ht (fun _ _ => .pure ht.toAkin) (.errors rfl rfl)
      · rw [current_bind, if_neg (hend.current_ne (by decide))]
        cases b with
        | error e => exact .error _
        | ok k =>
          obtain ⟨e, he⟩ := decimal_atEnd hend
          rw [lift_bind, bind_ok he]
          exact .error _
    · simp only
      exact .lift hab fun k => .ite (fun _ => .pure ht.toAkin) fun _ => .errors rfl rfl
  · rcases hend with hr' | hr' <;> rw [hr']
    · cases b <;> exact .errors rfl rfl
    · exact .errors rfl rfl

theorem operator_matched {L : Count × Bool → Reading → Prop} (h : Abreast (n + 1) (n' + 1) s s')
    (hs : s.rest = c :: u) : Matched L (operator c s) (operator c s') := by
  refine .here fun p p' => .ite (fun _ => ?_) fun _ => ?_
  · refine .orFail h.toAkin (bumpBlank_together_any h.toAlongside) (fun _ => ⟨_, rfl⟩)
      (fun _ => ⟨_, rfl⟩) (fun t t' ht => ?_) fun t' _ hend => ?_
    · refine .bind (braced_together ht.toAlongside p p') (braced_matched ht p p')
        fun a t b t' ht hab => ?_
      cases hab
      refine .bumpBlankAny ht fun _ t _ t' ht => ?_
      refine .bumpIf (by decide) ht fun z t t' ht => ?_
      exact .ite (fun _ => .pure ht.toAkin) fun _ => .errors rfl rfl
    · obtain ⟨e, he⟩ := braced_atEnd hend p'
      exact .of_error (bind_error he)
  · exact .bump h hs fun t t' ht _ => .bumpIf (by decide) ht fun z t t' ht => .pure ht.toAkin

/-! ## Escape sequences -/

theorem fixedHex_atEnd (h : s.AtEnd) {count : Nat} (hcount : count ≠ 0) (value : Nat) :
    ∃ e, fixedHex count value s = .error e := by
  obtain ⟨count, rfl⟩ := Nat.exists_eq_succ_of_ne_zero hcount
  rw [fixedHex, here_bind, current_bind]
  rcases h with hr | hr <;> rw [hr] <;> exact ⟨_, rfl⟩

theorem fixedHex_matched {L : Nat → Reading → Prop} (h : Abreast n n' s s') (count value : Nat) :
    Matched L (fixedHex count value s) (fixedHex count value s') := by
  induction count generalizing s s' value with
  | zero => exact .pure h.toAkin
  | succ count ih =>
    refine .here fun p p' => .current h (fun c u hr => ?_) fun hr hend => ?_
    · simp only
      cases hexValue? c with
      | none => exact .errors rfl rfl
      | some d =>
        refine .bindQuiet (bumpBlank_told (bumpBlank_together_any h.toAlongside)) .bumpBlank
          .bumpBlank h.toAkin fun m t m' t' ht hm => ?_
        by_cases hp : count ≠ 0 ∧ !m
        · rw [if_pos hp]
          refine .of_error rfl ?_
          split
          · exact .error _
          · obtain ⟨e, he⟩ := fixedHex_atEnd (ht.rest_nil (hm.2 (by simpa using hp.2))) hp.1
              (value * 16 + d)
            exact .of_error he
        · rw [if_neg hp, if_neg fun hp' => hp ⟨hp'.1, ?_⟩]
          · exact ih ht _
          · cases m with
            | false => rfl
            | true => simp [hm.1 rfl] at hp'
    · rcases hend with hr' | hr' <;> rw [hr'] <;> exact .errors rfl rfl

theorem plainHex_atEnd (h : s.AtEnd) (p : Nat) {digits : Nat} (hdigits : digits ≠ 0) :
    ∃ e, plainHex p digits s = .error e := by
  obtain ⟨e, he⟩ := fixedHex_atEnd h hdigits 0
  exact ⟨e, bind_error he⟩

theorem plainHex_matched {L : Char × Bool → Reading → Prop} (h : Abreast n n' s s')
    (p p' digits : Nat) : Matched L (plainHex p digits s) (plainHex p' digits s') := by
  refine .bind (fixedHex_together h.toAlongside _ _) (fixedHex_matched h _ _)
    fun v t w t' ht hvw => ?_
  cases hvw
  cases scalar? v with
  | none => exact .errors rfl rfl
  | some d => exact .pure ht.toAkin

theorem bracedHex_until : Until '\x7d'
    (fun (b : Nat × Nat) c => (hexValue? c).map fun d => (b.1 + 1, b.2 * 16 + d)) bumpBlank
    fun fuel b => bracedHex fuel b.1 b.2 where
  zero _ := rfl
  nil fuel b s hs := by
    rw [bracedHex, current_bind, hs]
    rfl
  stop fuel b s u hs := by
    rw [bracedHex, current_bind, hs]
    rfl
  refuse fuel b s c u hs hc hb := by
    rw [bracedHex, current_bind, hs, List.head?_cons]
    simp only
    rw [Option.map_eq_none_iff.1 hb]
    exact ⟨_, rfl⟩
  take fuel b s c u b' hs hc hb := by
    obtain ⟨d, hd, rfl⟩ := Option.map_eq_some_iff.1 hb
    rw [bracedHex, current_bind, hs, List.head?_cons]
    simp only
    rw [hd]

/-- What a code point in braces reads behind the opening brace. -/
def bracedCode (p : Nat) : Reads (Char × Bool) := do
  let (digits, value) ← bracedHex (← get).rest.length 0 0
  let stop ← here
  if (← current?).isNone then failAt p stop .escapeEnds
  else
    let _ ← bumpBlank
    if digits = 0 then failAt p (← here) .hexEmpty
    else match scalar? value with
      | none => failAt (p + 1) stop .hexInvalid
      | some c => return (c, true)

theorem bracedCode_matched (h : Abreast n n' s s') (p p' : Nat) :
    Matched (fun _ t => t.rest = []) (bracedCode p s) (bracedCode p' s') := by
  refine .get ?_
  have hhex := bracedHex_until.matched (by decide) (fun _ => rfl) moves_bumpBlank h.tight
    (Nat.le_refl _) (Nat.le_refl _) (0, 0)
  rcases hhex with hhex | ⟨⟨digits, value⟩, t, e, ha, ht, he⟩
  · refine .bind ((bracedHex_together h.toAlongside.tight (Nat.le_refl _) (Nat.le_refl _) 0 0).mono
      h.le h.le' fun _ _ _ => id) hhex fun a t b t' ht hab => .here fun q q' => ?_
    cases hab
    refine .current ht (fun c u hr => ?_) fun hr hend => .of_error rfl ?_
    · refine .bumpBlankAny ht fun _ t _ t' ht => .ite (fun _ => .errors rfl rfl) fun _ => ?_
      cases scalar? a.2 with
      | none => exact .errors rfl rfl
      | some d => exact .pure ht.toAkin
    · split
      · exact .error _
      · obtain ⟨r, hr, hnil⟩ := hend.bumpBlank_eq
        rw [bind_ok hr]
        split
        · exact .error _
        · cases scalar? a.2 with
          | none => exact .error _
          | some d => exact .ok hnil
  · rw [bind_ok ha, bind_error he]
    dsimp only
    rw [here_bind, current_bind, ht]
    exact .errors rfl rfl

theorem hexEscape_matched (h : Abreast n n' s s') (l : Char) :
    Matched (fun _ t => t.rest = []) (hexEscape l s) (hexEscape l s') := by
  have hdigits : (if l = 'x' then 2 else if l = 'u' then 4 else 8) ≠ 0 := by
    split
    · decide
    · split <;> decide
  refine .orFailAt h.toAkin (bumpBlank_together_any h.toAlongside) (fun _ _ => ⟨_, rfl⟩)
    (fun _ _ => ⟨_, rfl⟩) (fun p p' t t' ht => ?_) fun p' t' _ hend => ?_
  · refine .current ht (fun c u hr => ?_) fun hr hend => ?_
    · by_cases hc : some c = some '\x7b'
      · cases hc
        exact .bumpBlankAny ht fun _ t _ t' ht => bracedCode_matched ht p p'
      · simp only
        exact plainHex_matched ht p p' _
    · obtain ⟨e, he⟩ := plainHex_atEnd (.inr hr) p hdigits
      obtain ⟨e', he'⟩ := plainHex_atEnd hend p' hdigits
      rcases hend with hr' | hr' <;> rw [hr'] <;> exact .errors he he'
  · obtain ⟨e, he⟩ := plainHex_atEnd hend p' hdigits
    rw [current_bind]
    rcases hend with hr | hr <;> rw [hr] <;> exact .of_error he

theorem bracedName_quiet (fuel : Nat) (name : List Char) : Quiet (bracedName fuel name) := by
  induction fuel generalizing name with
  | zero => exact .pure name
  | succ fuel ih =>
    refine .bind .current fun o => ?_
    split
    · exact .pure name
    · exact .pure name
    · exact .bind .bumpBlank fun _ => ih _

theorem namedSet_matched {L : CharSet → Reading → Prop} (h : Abreast n n' s s')
    (start start' : Nat) (name : List Char) (negated : Bool) :
    Matched L (namedSet start name negated s) (namedSet start' name negated s') := by
  refine .here fun p p' => .flags h ?_
  cases s.flags.unicode with
  | false => exact .pureLate h _ _ _ _
  | true =>
    cases propertySet name with
    | error kind => exact .pureLate h _ _ _ _
    | ok set => exact .pure h.toAkin

theorem namedSet_astray (hs : s.rest = []) (start : Nat) (name : List Char) (negated : Bool) :
    Astray (fun _ t => t.rest = []) (namedSet start name negated s) := by
  rw [namedSet, here_bind, flags_bind]
  cases s.flags.unicode with
  | false => exact .ok hs
  | true =>
    cases propertySet name with
    | error kind => exact .ok hs
    | ok set => exact .ok hs

/-- What a property reads behind its letter. -/
def propertyName (start p : Nat) (negated : Bool) : Reads CharSet := do
  match ← current? with
  | some '\x7b' =>
    let _ ← bumpBlank
    let name ← bracedName (← get).rest.length []
    let p ← here
    if (← current?).isNone then failAt p p .escapeEnds
    else
      let _ ← bump
      namedSet start name negated
  | some '\\' => failAt p (p + 1) .propertyInvalid
  | some c =>
    let _ ← bumpBlank
    namedSet start [c] negated
  | none => failAt p p .escapeEnds

theorem propertyName_astray (h : s.AtEnd) (start p : Nat) (negated : Bool) :
    Astray (fun _ t => t.rest = []) (propertyName start p negated s) := by
  obtain ⟨t, ht, hnil⟩ := h.bumpBlank_eq
  rw [propertyName, current_bind]
  rcases h with hr | hr <;> rw [hr]
  · have hname : (bumpBlank >>= fun _ => namedSet start [')'] negated) s =
        namedSet start [')'] negated t := bind_ok ht
    change Astray _ ((bumpBlank >>= fun _ => namedSet start [')'] negated) s)
    rw [hname]
    exact namedSet_astray hnil start _ negated
  · exact .error _

/-- The parenthesis may be taken for the name of a property, which has one letter. -/
theorem propertyName_matched (h : Abreast n n' s s') (start start' p p' : Nat) (negated : Bool) :
    Matched (fun _ t => t.rest = []) (propertyName start p negated s)
      (propertyName start' p' negated s') := by
  refine .current h (fun c u hr => ?_) fun hr hend => .of_error rfl
    (propertyName_astray hend start' p' negated)
  by_cases hopen : c = '\x7b'
  · subst hopen
    refine .bumpBlankAny h fun _ t _ t' ht => .get ?_
    refine .bindQuiet ((bracedName_together ht.toAlongside.tight (Nat.le_refl _) (Nat.le_refl _)
      []).mono ht.le ht.le' fun _ _ _ => id) (bracedName_quiet _ _) (bracedName_quiet _ _) ht.toAkin
      fun a t b t' ht hab => .here fun q q' => ?_
    refine .current ht (fun c u hr => ?_) fun hr hend => .of_error rfl ?_
    · cases hab (by rw [hr]; exact nofun)
      exact .bumpAny ht fun _ t _ t' ht => namedSet_matched ht _ _ _ _
    · obtain ⟨r, hr, hnil⟩ := hend.bump_eq
      split
      · exact .error _
      · rw [bind_ok hr]
        exact namedSet_astray hnil start' b negated
  · by_cases hslash : c = '\\'
    · subst hslash
      exact .errors rfl rfl
    · simp only
      exact .bumpBlankAny h fun _ t _ t' ht => namedSet_matched ht _ _ _ _

theorem propertyEscape_matched (h : Abreast n n' s s') (start start' : Nat) (negated : Bool) :
    Matched (fun _ t => t.rest = []) (propertyEscape start negated s)
      (propertyEscape start' negated s') :=
  .orFailAt h.toAkin (bumpBlank_together_any h.toAlongside) (fun _ _ => ⟨_, rfl⟩)
    (fun _ _ => ⟨_, rfl⟩) (fun p p' _ _ ht => propertyName_matched ht start start' p p' negated)
    fun p' _ _ hend => propertyName_astray hend start' p' negated

/-! ## Word boundaries -/

/-- A brace with nothing behind it. -/
structure Reading.LoneBrace (s : Reading) : Prop where
  brace : ∃ u, s.rest = '\x7b' :: u
  behind : ∃ m t, bumpBlank s = .ok (m, t) ∧ t.AtEnd

theorem boundaryName_quiet (fuel : Nat) (name : List Char) : Quiet (boundaryName fuel name) :=
  .loop (fun c => c.isAlpha || c == '-') (fun ds c => ds ++ [c]) boundaryName (fun _ => rfl)
    (fun _ _ => rfl) fuel name

theorem specialBoundary_matched (h : Abreast n n' s s') (hs : s'.rest = '\x7b' :: u)
    (start start' : Nat) (k : WordKind) :
    Matched (fun _ t => t.LoneBrace) (specialBoundary start k s) (specialBoundary start' k s') := by
  refine .get (.here fun p p' => .orFailAt h.toAkin (bumpBlank_together_any h.tight.toAlongside)
    (fun _ _ => ⟨_, rfl⟩) (fun _ _ => ⟨_, rfl⟩) (fun q q' t t' ht => ?_) fun q' t' hbump hend => ?_)
  · refine .bindQuiet (boundaryName_together ht.toAlongside (Nat.le_refl _) (Nat.le_refl _) [])
      (boundaryName_quiet _ _) (boundaryName_quiet _ _) ht.toAkin fun name t _ t' ht hab => ?_
    cases hab
    refine .ite (fun _ => .ok h.toAkin) fun _ => .here fun r r' =>
      .current ht (fun c u hr => .ite (fun _ => .errors rfl rfl) fun _ => ?_) fun hr hend => ?_
    · refine .bumpAny ht fun _ t _ t' ht => ?_
      generalize String.ofList name = w
      split
      · exact .pure ht.toAkin
      · exact .pure ht.toAkin
      · exact .pure ht.toAkin
      · exact .pure ht.toAkin
      · exact .errors rfl rfl
    · rw [if_pos (hend.current_ne (by decide))]
      exact .errors rfl rfl
  · have hname := loop_stop (fun c => c.isAlpha || c == '-') (fun ds c => ds ++ [c]) boundaryName
      (fun _ => rfl) (fun _ _ => rfl) (hend.head?_stops (by decide)) s'.rest.length []
    rw [bind_ok hname]
    exact .ok ⟨⟨u, hs⟩, _, t', hbump, hend⟩

/-! ## Whole escapes -/

theorem complement_matched {L : CharSet → Reading → Prop} (h : Abreast n n' s s') (x x' : Extent)
    (set : CharSet) : Matched L (complement x set s) (complement x' set s') :=
  .flags h (.ite (fun _ => .pureLate h _ _ _ _) fun _ => .pure h.toAkin)

/-- The parenthesis is escaped by the backslash, is a name, or comes right behind the brace of what
may be a special boundary. -/
theorem escape_matched (h : Abreast (n + 1) (n' + 1) s s') (hs : s.rest = c :: u) :
    Matched (fun b t => t.rest = [] ∨ (∃ a, b.primitive = .anchor a) ∧ t.LoneBrace) (escape s)
      (escape s') := by
  refine .here fun p p' => .bump h hs fun t t' ht hu => .here fun q q' => ?_
  refine .current ht (fun c v hr => ?_) fun hr hend => ?_
  · obtain rfl : u = c :: v := hu.symm.trans hr
    obtain ⟨k, k', rfl, rfl⟩ := ht.exists_succ hr
    refine .ite (fun _ => .errors rfl rfl) fun _ => .ite (fun _ => ?_) fun _ => .ite (fun _ => ?_)
      fun _ => ?_
    · refine .bindAstray (hexEscape_together ht.toAlongside hr c).succ (hexEscape_matched ht c)
        (fun a t b t' ht hab => .here fun r r' => ?_) fun b t' hnil => ?_
      · cases hab
        exact .flags ht (.ite (fun _ => .pureLate ht _ _ _ _) fun _ => .pure ht.toAkin)
      · obtain ⟨d, braced⟩ := b
        change Astray _ ((if c = 'x' ∧ !braced ∧ 127 < d.toNat ∧ !t'.flags.unicode then _
          else _ : Reads Placed) t')
        split <;> exact .ok (.inl hnil)
    · exact .bindAstray (propertyEscape_together ht.toAlongside hr p p' (c == 'P')).succ
        (propertyEscape_matched ht p p' (c == 'P')) (fun a t b t' ht hab => .here fun r r' =>
          .pure ht.toAkin) fun b t' hnil => .ok (.inl hnil)
    · refine .bumpAny ht fun _ t _ t' ht => .here fun r r' => .flags ht ?_
      refine .ite (fun _ => .pure ht.toAkin) fun _ => ?_
      cases controlEscape? c with
      | some d => exact .pure ht.toAkin
      | none =>
        cases setEscape? t.flags.unicode c with
        | some set =>
          refine .ite (fun _ => ?_) fun _ => .pure ht.toAkin
          exact .bind (complement_together ht.toAlongside _ _ _) (complement_matched ht _ _ _)
            fun a t b t' ht hab => .pure ht.toAkin
        | none =>
          cases anchorEscape? (if t.flags.unicode then .full else .ascii) c with
          | none => exact .errors rfl rfl
          | some a =>
            refine .current ht (fun d u hd => .ite (fun hb => ?_) fun _ => .pure ht.toAkin)
              fun _ hend => ?_
            · obtain ⟨-, ⟨⟩⟩ := hb
              exact .bindAstray (specialBoundary_together ht.toAlongside p p' _)
                (specialBoundary_matched ht (ht.rest_cons hd) p p' _)
                (fun a t b t' ht hab => .here fun l l' => .pure ht.toAkin)
                fun b t' hlone => .ok (.inr ⟨⟨_, rfl⟩, hlone⟩)
            · rw [if_neg (by simp), if_neg fun h => hend.current_ne (by decide) h.2]
              exact .pure ht.toAkin
  · obtain rfl : u = [] := hu.symm.trans hr
    refine .of_error rfl ?_
    obtain ⟨r, hr', hnil⟩ := hend.bump_eq
    rcases hend with ht' | ht' <;> rw [ht']
    · change Astray _ ((if ')'.isDigit then _ else if ')' = 'x' ∨ ')' = 'u' ∨ ')' = 'U' then _
        else if ')' = 'p' ∨ ')' = 'P' then _ else bump >>= fun _ => _ : Reads Placed) t')
      rw [if_neg (by decide), if_neg (by decide), if_neg (by decide), bind_ok hr']
      exact .ok (.inl hnil)
    · exact .error _

end Descent.Pattern
