import Descent.Cursor
import Descent.Proofs.Pattern.Acceptance.Group
import Descent.Proofs.Pattern.Anchored

/-! # Which patterns can be held to the start

A pattern is read between the text of a group that is written around it. The group is closed where
the pattern ends, unless a comment takes the parenthesis in. -/
namespace Descent.Pattern

variable {n n' fuel fuel' : Nat} {s s' : Reading} {c : Char} {u : Text}
variable {groups groups' outer : List OpenGroup} {l l' : Level}

/-! ## Steps -/

theorem primitive_matched (h : Abreast (n + 1) (n' + 1) s s') (hs : s.rest = c :: u) :
    Matched (fun _ t => t.rest = [] ∨ t.LoneBrace) (primitive s) (primitive s') := by
  refine .flags h (.here fun p p' => .current h (fun c u hs => ?_)
    fun hr => nomatch hs.symm.trans hr)
  by_cases hslash : c = '\\'
  · subst hslash
    refine .bindAstray (escape_together h.toAlongside hs) (escape_matched h hs)
      (fun a t b t' ht hab => ?_) fun b t' hlost => ?_
    · simp only [hab]
      cases b.primitive with
      | literal c => exact .pure ht.toAkin
      | set s => exact .pure ht.toAkin
      | anchor a => exact .pure ht.toAkin
    · have hrest : t'.rest = [] ∨ t'.LoneBrace := hlost.imp id And.right
      cases b.primitive with
      | literal c => exact .ok hrest
      | set s => exact .ok hrest
      | anchor a => exact .ok hrest
  · simp only
    refine .bump h hs fun t t' ht _ => ?_
    split
    · refine .ite (fun _ => ?_) fun _ => .pure ht.toAkin
      exact .pureLate ht _ _ _ _
    · exact .pure ht.toAkin
    · exact .pure ht.toAkin
    · exact .pure ht.toAkin

theorem repeatLast_matched {L : Level → Reading → Prop} (h : Abreast (n + 1) (n' + 1) s s')
    (hs : s.rest = c :: u) (hl : l.Same l') :
    Matched L (repeatLast c l s) (repeatLast c l' s') := by
  obtain ⟨start, branchStart, finished, items⟩ := l
  obtain ⟨start', branchStart', finished', items'⟩ := l'
  have hitems : items.map (·.pattern) = items'.map (·.pattern) := hl.items
  cases items with
  | nil =>
    cases items' with
    | nil => exact .errors rfl rfl
    | cons item' items' => cases hitems
  | cons item items =>
    cases items' with
    | nil => cases hitems
    | cons item' items' =>
      obtain ⟨p, x, nests⟩ := item
      obtain ⟨p', x', nests'⟩ := item'
      obtain ⟨⟨⟩, -⟩ := List.cons.inj hitems
      cases p with
      | none => exact .errors rfl rfl
      | some p =>
        refine .here fun q q' => .bind (operator_together h.toAlongside hs) (operator_matched h hs)
          fun a t b t' ht hab => .flags ht (.here fun r r' => .pure ht.toAkin)

/-- Where the second reading goes astray a group is open if there is one around it, and what is left
does not close it. The parenthesis that closes no group of the first reading is left out here. -/
theorem step_matched (h : Abreast (n + 1) (n' + 1) s s') (hs : s.rest = c :: u)
    (hg : List.Forall₂ OpenGroup.Same groups groups') (outer : List OpenGroup) (hl : l.Same l')
    (hclose : ¬(c = ')' ∧ groups = [])) :
    Matched (fun b t => (outer ≠ [] → b.1 ≠ []) ∧ (t.rest = [] ∨ t.LoneBrace)) (step c groups l s)
      (step c (groups' ++ outer) l' s') := by
  refine .here fun p p' => ?_
  have hopen : outer ≠ [] → groups' ++ outer ≠ [] := List.append_ne_nil_of_right_ne_nil _
  have hrepeat : Matched (fun b t => (outer ≠ [] → b.1 ≠ []) ∧ (t.rest = [] ∨ t.LoneBrace))
        ((do return (groups, ← repeatLast c l) : Reads (List OpenGroup × Level)) s)
        ((do return (groups' ++ outer, ← repeatLast c l') : Reads (List OpenGroup × Level)) s') :=
    .bind (repeatLast_together h.toAlongside hs hl) (repeatLast_matched h hs hl)
      fun a t b t' ht hab => .pure ht.toAkin
  split
  · refine .flags h (.bindAstray (groupOpen_together h.toAlongside hs) (groupOpen_matched h hs)
      (fun a t b t' ht hab => ?_) fun b t' hnil => ?_)
    · cases hab
      cases a with
      | flags after =>
        exact .setFlags ht after fun t t' ht _ => .here fun q q' => .pure ht.toAkin
      | group inside index =>
        exact .setFlags ht inside fun t t' ht _ => .here fun q q' => .pure ht.toAkin
    · cases b with
      | flags after => exact .ok ⟨hopen, .inl hnil⟩
      | group inside index => exact .ok ⟨fun _ => List.cons_ne_nil _ _, .inl hnil⟩
  · cases hg with
    | nil => exact absurd ⟨rfl, rfl⟩ hclose
    | @cons g g' gs gs' hgg hg =>
      simp only [List.cons_append, hgg.flags, hgg.index]
      refine .setFlags h g'.flags fun t t' ht hrest => ?_
      exact .bump ht (hrest.trans hs) fun t t' ht _ => .pure ht.toAkin
  · exact .bump h hs fun t t' ht _ => .pure ht.toAkin
  · exact .flags h (.bind (bracketClass_together h.toAlongside hs) (bracketClass_matched h hs)
      fun a t b t' ht hab => .here fun q q' => .pure ht.toAkin)
  · exact hrepeat
  · exact hrepeat
  · exact hrepeat
  · exact hrepeat
  · exact .bindAstray (primitive_together h.toAlongside hs) (primitive_matched h hs)
      (fun a t b t' ht hab => .here fun q q' => .pure ht.toAkin)
      fun b t' hrest => .ok ⟨hopen, hrest⟩

/-- Two readings go on side by side in the same groups. -/
structure Beside (n n' : Nat) (stack stack' : List OpenGroup) (l l' : Level) (s s' : Reading) :
    Prop extends Abreast n n' s s' where
  opened : List.Forall₂ OpenGroup.Same stack stack'
  level : l.Same l'

theorem Beside.blanked (h : Beside n n' groups groups' l l' s s') :
    Beside n n' groups groups' l l' s.blanked s'.blanked :=
  { h with toAbreast := h.toAbreast.blanked }

/-- A step that the first reading makes is made by the second, whatever groups are around. -/
theorem Beside.step (h : Beside (n + 1) (n' + 1) groups groups' l l' s s') (hs : s.rest = c :: u)
    (outer : List OpenGroup) {a : List OpenGroup × Level} {t : Reading}
    (hx : Pattern.step c groups l s = .ok (a, t)) :
    ∃ groups'' l'' t',
      Pattern.step c (groups' ++ outer) l' s' = .ok ((groups'' ++ outer, l''), t') ∧
        Beside n n' a.1 groups'' a.2 l'' t t' := by
  have hclose : ¬(c = ')' ∧ groups = []) := by
    rintro ⟨rfl, rfl⟩
    cases hx
  have hmatched := step_matched h.toAbreast hs h.opened outer h.level hclose
  cases hy : Pattern.step c (groups' ++ outer) l' s' with
  | error e =>
    rw [hx, hy] at hmatched
    cases hmatched
  | ok b =>
    obtain ⟨⟨bgroups, bl⟩, t'⟩ := b
    obtain ⟨ht, groups'', hgroups, hg, hl⟩ :=
      step_together h.toAlongside hs h.opened outer h.level a t _ t' hx hy
    obtain rfl : bgroups = groups'' ++ outer := hgroups
    rw [hx, hy] at hmatched
    cases hmatched with
    | ok hakin => exact ⟨groups'', bl, t', rfl, { ht, hakin with opened := hg, level := hl }⟩

/-! ## Whole patterns -/

theorem finish_open (hg : groups ≠ []) (l : Level) (s : Reading) :
    ∃ e, finish groups l s = .error e := by
  cases groups with
  | nil => exact absurd rfl hg
  | cons g groups => exact ⟨_, rfl⟩

theorem operator_lost (h : s.LoneBrace) : ∃ e, operator '\x7b' s = .error e := by
  obtain ⟨m, t, ht, hend⟩ := h.behind
  obtain ⟨e, he⟩ := braced_atEnd hend s.pos
  rw [operator, here_bind, if_pos rfl, bind_ok ht]
  cases m with
  | false => exact ⟨_, rfl⟩
  | true => exact ⟨e, bind_error he⟩

theorem step_lost (h : s.LoneBrace) (groups : List OpenGroup) (l : Level) :
    ∃ e, step '\x7b' groups l s = .error e := by
  have hrepeat : ∃ e, repeatLast '\x7b' l s = .error e := by
    obtain ⟨e, he⟩ := operator_lost h
    obtain ⟨start, branchStart, finished, items⟩ := l
    match items with
    | [] => exact ⟨_, rfl⟩
    | ⟨none, x, nests⟩ :: items => exact ⟨_, rfl⟩
    | ⟨some p, x, nests⟩ :: items => exact ⟨e, (here_bind _ s).trans (bind_error he)⟩
  obtain ⟨e, he⟩ := hrepeat
  exact ⟨e, (here_bind _ s).trans (bind_error he)⟩

/-- Groups that are open stay so where nothing is left, and where a brace is, it has no count. -/
theorem readRest_lost (hg : groups ≠ []) (h : s.rest = [] ∨ s.LoneBrace) (fuel : Nat) (l : Level) :
    ∃ e, readRest fuel groups l s = .error e := by
  rcases h with hnil | hbrace
  · rw [readRest_nil hnil]
    exact finish_open hg l s
  · cases fuel with
    | zero => exact finish_open hg l s
    | succ fuel =>
      obtain ⟨u, hu⟩ := hbrace.brace
      obtain ⟨e, he⟩ := step_lost hbrace groups l
      rw [readRest_succ, hbrace.blanked_eq, hu]
      exact ⟨e, bind_error he⟩

/-- How two readings end, the second with more groups around it: the first has come to the end of
the pattern with no group open, or has failed. It may have failed for a parenthesis too many, which
closes one of the groups around; if it has failed for something else, so has the second. -/
inductive Ending (outer : List OpenGroup) : Except SyntaxError (Pattern × Reading) →
    Except SyntaxError (Pattern × Reading) → Prop where
  | whole (fuel : Nat) {l l' : Level} {t t' : Reading} : l.Same l' → t.Akin t' → t'.AtEnd →
    Ending outer (finish [] l t) (readRest (fuel + 1) outer l' t')
  | unopened {e : SyntaxError} (y : Except SyntaxError (Pattern × Reading)) :
    e.kind = .groupUnopened → Ending outer (.error e) y
  | refused (e e' : SyntaxError) : Ending outer (.error e) (.error e')

theorem Ending.of_error {x y : Except SyntaxError (Pattern × Reading)} {e : SyntaxError}
    (hx : x = .error e) (hy : ∃ e', y = .error e') : Ending outer x y := by
  obtain ⟨e', rfl⟩ := hy
  subst hx
  exact .refused e e'

theorem readRest_blanked (h : s.blanked.AtEnd) (fuel : Nat) (groups : List OpenGroup) (l : Level) :
    readRest (fuel + 1) groups l s = readRest (fuel + 1) groups l s.blanked := by
  rw [readRest_succ, readRest_succ, h.blanked_eq]

/-- One closing parenthesis does not close two groups. -/
theorem readRest_close (hs : s.rest = [')']) (fuel : Nat) (g : OpenGroup) (groups : List OpenGroup)
    (l : Level) : ∃ p x t, t.late = s.late ∧ readRest (fuel + 1) (g :: groups) l s =
      finish groups (g.outer.push (some p) x [.node x (l.close s.pos).2]) t := by
  obtain ⟨p, x, t, hstep, -, hnil, hlate⟩ := step_close hs g groups l
  refine ⟨p, x, t, hlate, ?_⟩
  rw [readRest_succ, Reading.AtEnd.blanked_eq (.inl hs), hs, List.head?_cons]
  simp only
  rw [bind_ok hstep, readRest_nil hnil]

theorem readRest_ending (h : Beside n n' groups groups' l l' s s') (hn : n < fuel)
    (hn' : n' < fuel') (houter : outer ≠ []) :
    Ending outer (readRest fuel groups l s) (readRest fuel' (groups' ++ outer) l' s') := by
  induction fuel generalizing n n' s s' fuel' groups groups' l l' with
  | zero => exact absurd hn (Nat.not_lt_zero n)
  | succ fuel ih =>
    obtain ⟨fuel', rfl⟩ : ∃ k', fuel' = k' + 1 := ⟨fuel' - 1, by omega⟩
    have hb := h.blanked
    cases hr : s.blanked.rest with
    | cons c u =>
      obtain ⟨m, m', rfl, rfl⟩ := hb.exists_succ hr
      rw [readRest_succ, readRest_succ, hr, hb.rest_cons hr]
      simp only [List.head?_cons]
      by_cases hclose : c = ')' ∧ groups = []
      · obtain ⟨rfl, rfl⟩ := hclose
        exact .unopened _ rfl
      · cases hx : step c groups l s.blanked with
        | error e =>
          have hmatched := step_matched hb.toAbreast hr hb.opened outer hb.level hclose
          rw [hx] at hmatched
          cases hmatched with
          | astray hy =>
            refine .of_error (bind_error hx) (Astray.exists_error (hy.bind fun b t hlost => ?_))
            exact .of_error (readRest_lost (hlost.1 houter) hlost.2 fuel' b.2).choose_spec
        | ok a =>
          obtain ⟨groups'', l'', t', hy, ht⟩ := hb.step hr outer hx
          rw [bind_ok hx, bind_ok hy]
          exact ih ht (by omega) (by omega)
    | nil =>
      have hend : s'.blanked.AtEnd := hb.rest_nil hr
      rw [readRest_succ, hr, readRest_blanked hend]
      cases h.opened with
      | nil => exact .whole fuel' h.level hb.toAkin hend
      | @cons g g' gs gs' hgg hg =>
        refine .of_error rfl ?_
        generalize s'.blanked = t' at hend
        rcases hend with hr' | hr'
        · obtain ⟨p, x, t, -, ht⟩ := readRest_close hr' fuel' g' (gs' ++ outer) l'
          rw [List.cons_append, ht]
          exact finish_open (List.append_ne_nil_of_right_ne_nil _ houter) _ t
        · exact readRest_lost (List.cons_ne_nil _ _) (.inl hr') (fuel' + 1) l'

/-! ## Nesting -/

theorem SameNests.beyond_iff {nests nests' : List Nest} (h : SameNests nests nests') (limit : Nat) :
    nests.findSome? (Nest.beyond? limit) = none ↔ nests'.findSome? (Nest.beyond? limit) = none := by
  induction limit generalizing nests nests' with
  | zero =>
    cases h with
    | nil => exact Iff.rfl
    | cons hnest h =>
      cases hnest
      exact iff_of_false nofun nofun
  | succ limit ih =>
    induction h with
    | nil => exact Iff.rfl
    | cons hnest h iht =>
      cases hnest with
      | node x x' hinside =>
        rw [List.findSome?_eq_none_iff] at iht ⊢
        rw [List.findSome?_eq_none_iff] at iht ⊢
        rw [List.forall_mem_cons, List.forall_mem_cons]
        exact and_congr (ih hinside) iht

theorem beyond_succ {nests : List Nest} {limit : Nat}
    (h : nests.findSome? (Nest.beyond? limit) = none) :
    nests.findSome? (Nest.beyond? (limit + 1)) = none := by
  induction limit generalizing nests with
  | zero =>
    rw [List.findSome?_eq_none_iff] at h ⊢
    intro nest hmem
    cases nest
    cases h _ hmem
  | succ limit ih =>
    rw [List.findSome?_eq_none_iff] at h ⊢
    intro nest hmem
    have hnest := h nest hmem
    cases nest with
    | node x inside => exact ih hnest

/-! ## The group around a pattern -/

/-- The group around a pattern makes two levels more. -/
theorem aroundGroup_beyond (p : Pattern) (x : Extent) (nests : List Nest) (stop : Nat) :
    ((aroundGroup.outer.push (some p) x [.node x nests]).close stop).2.findSome?
        (Nest.beyond? maxNesting) = none ↔
      nests.findSome? (Nest.beyond? (maxNesting - 2)) = none := by
  have hsingle : ∀ (limit : Nat) (y : Extent) (inside : List Nest),
      [Nest.node y inside].findSome? (Nest.beyond? (limit + 1)) = none ↔
        inside.findSome? (Nest.beyond? limit) = none := by
    intro limit y inside
    rw [List.findSome?_singleton]
    rfl
  have hclose : ((aroundGroup.outer.push (some p) x [.node x nests]).close stop).2 =
      [.node ⟨0, stop⟩ [.node x nests]] := rfl
  rw [hclose]
  exact (hsingle 249 _ _).trans (hsingle 248 _ _)

theorem finish_eq (l : Level) (s : Reading) : finish [] l s =
    match (l.close s.pos).2.findSome? (Nest.beyond? maxNesting), s.late with
    | some x, _ => .error ⟨.nestedTooDeep, x, none⟩
    | none, some e => .error e
    | none, none => .ok ((l.close s.pos).1, s) := by
  rw [finish_nil]
  obtain ⟨pos, rest, f, groups, names, late⟩ := s
  cases (l.close pos).2.findSome? (Nest.beyond? maxNesting) with
  | some x => rfl
  | none => cases late <;> rfl

theorem finish_ok_iff (l : Level) (s : Reading) : (∃ r, finish [] l s = .ok r) ↔
    (l.close s.pos).2.findSome? (Nest.beyond? maxNesting) = none ∧ s.late = none := by
  rw [finish_eq]
  cases (l.close s.pos).2.findSome? (Nest.beyond? maxNesting) with
  | some x => simp
  | none => cases s.late <;> simp

theorem finish_too_deep {l : Level} {s : Reading} {e : SyntaxError} (hs : s.late = none)
    (h : finish [] l s = .error e) : e.kind = .nestedTooDeep := by
  rw [finish_eq, hs] at h
  cases hn : (l.close s.pos).2.findSome? (Nest.beyond? maxNesting) with
  | some x =>
    rw [hn] at h
    cases h
    rfl
  | none =>
    rw [hn] at h
    cases h

/-- Where the pattern ends, the group around it is closed or stays open. -/
theorem readRest_around (hend : s.AtEnd) (fuel : Nat) (l : Level) :
    readRest (fuel + 1) [aroundGroup] l s = .error ⟨.groupUnclosed, ⟨1, 2⟩, none⟩ ∨
      ∃ p x t, t.late = s.late ∧ readRest (fuel + 1) [aroundGroup] l s =
        finish [] (aroundGroup.outer.push (some p) x [.node x (l.close s.pos).2]) t := by
  rcases hend with hr | hr
  · exact .inr (readRest_close hr fuel aroundGroup [] l)
  · exact .inl (readRest_nil hr _ _ _)

theorem Reading.Akin.late_eq_none (h : s.Akin s') : s.late = none ↔ s'.late = none := by
  rw [← Option.isNone_iff_eq_none, ← Option.isNone_iff_eq_none, ← Option.not_isSome,
    ← Option.not_isSome, h.late]

section Ending

variable {x y : Except SyntaxError (Pattern × Reading)} {e : SyntaxError}

/-- The group around a pattern that is read to its end stays open, or both nest too deep
together. -/
theorem Ending.of_ok {r : Pattern × Reading} (h : Ending [aroundGroup] x y) (hx : x = .ok r)
    (hy : y = .error e) :
    e = ⟨.groupUnclosed, ⟨1, 2⟩, none⟩ ∨ e.kind = .nestedTooDeep := by
  cases h with
  | unopened y he => cases hx
  | refused e e' => cases hx
  | @whole fuel l l' t t' hl hakin hend =>
    have hlate := ((finish_ok_iff l t).1 ⟨r, hx⟩).2
    rcases readRest_around hend fuel l' with hopen | ⟨p, x, r, hr, hclosed⟩
    · exact .inl (Except.error.inj (hy.symm.trans hopen))
    · exact .inr (finish_too_deep (hr.trans (hakin.late_eq_none.1 hlate)) (hclosed.symm.trans hy))

/-- What makes a pattern fail by itself makes it fail in the group as well, unless it is a
parenthesis too many. -/
theorem Ending.of_not_ok (h : Ending [aroundGroup] x y) (hx : x = .error e)
    (he : e.kind ≠ .groupUnopened) : ∃ e', y = .error e' := by
  cases h with
  | unopened y he' =>
    cases hx
    exact absurd he' he
  | refused e e' => exact ⟨e', rfl⟩
  | @whole fuel l l' t t' hl hakin hend =>
    cases hy : readRest (fuel + 1) [aroundGroup] l' t' with
    | error e' => exact ⟨e', rfl⟩
    | ok q =>
      rcases readRest_around hend fuel l' with hopen | ⟨p, y, r, hr, hclosed⟩
      · cases hopen.symm.trans hy
      · obtain ⟨hnests, hlate⟩ := (finish_ok_iff _ _).1 ⟨q, hclosed.symm.trans hy⟩
        have hinner := beyond_succ (beyond_succ ((aroundGroup_beyond p y _ _).1 hnests))
        have hsame := (hl.close_nests t.pos t'.pos).beyond_iff maxNesting
        obtain ⟨r', hr'⟩ := (finish_ok_iff l t).2
          ⟨hsame.2 hinner, hakin.late_eq_none.2 (hr.symm.trans hlate)⟩
        cases hx.symm.trans hr'

end Ending

/-- At the end a parenthesis closes the group around the pattern, and without that group it closes
none. Where it is gone it is the other way round. -/
theorem swallowed_atEnd {l₁ l₂ : Level} {t t₁ t₂ : Reading} (hl : l.Same l₁) (h₁ : t.Akin t₁)
    (h₂ : t.Akin t₂) (hend : t₁.AtEnd) (hrest : t₂.rest = t₁.rest) (fuel₁ fuel₂ : Nat)
    (hx : ∃ r, finish [] l t = .ok r) :
    (∃ r, readRest (fuel₁ + 1) [] l₁ t₁ = .ok r) ↔
      readRest (fuel₂ + 1) [aroundGroup] l₂ t₂ = .error ⟨.groupUnclosed, ⟨1, 2⟩, none⟩ := by
  obtain ⟨hnests, hlate⟩ := (finish_ok_iff l t).1 hx
  rcases hend with hr | hr
  · refine iff_of_false ?_ fun hunclosed => ?_
    · rw [readRest_succ, Reading.AtEnd.blanked_eq (.inl hr), hr]
      rintro ⟨r, ⟨⟩⟩
    · obtain ⟨p, x, v, hvlate, hv⟩ := readRest_close (hrest.trans hr) fuel₂ aroundGroup [] l₂
      cases finish_too_deep (hvlate.trans (h₂.late_eq_none.1 hlate)) (hv.symm.trans hunclosed)
  · refine iff_of_true ?_ (readRest_nil (hrest.trans hr) _ _ _)
    rw [readRest_nil hr]
    exact (finish_ok_iff l₁ t₁).2
      ⟨((hl.close_nests _ _).beyond_iff _).1 hnests, h₁.late_eq_none.1 hlate⟩

theorem readRest_swallowed {n₁ n₂ fuel₁ fuel₂ : Nat} {s₁ s₂ : Reading}
    {groups₁ groups₂ : List OpenGroup} {l₁ l₂ : Level} (h₁ : Beside n n₁ groups groups₁ l l₁ s s₁)
    (h₂ : Beside n n₂ groups groups₂ l l₂ s s₂) (h : Alongside [] n₁ n₂ s₁ s₂)
    (hg : List.Forall₂ OpenGroup.Same groups₁ groups₂) (hl : l₁.Same l₂) (hn : n < fuel)
    (hn₁ : n₁ < fuel₁) (hn₂ : n₂ < fuel₂) (hx : ∃ r, readRest fuel groups l s = .ok r) :
    (∃ r, readRest fuel₁ groups₁ l₁ s₁ = .ok r) ↔
      readRest fuel₂ (groups₂ ++ [aroundGroup]) l₂ s₂ =
        .error ⟨.groupUnclosed, ⟨1, 2⟩, none⟩ := by
  induction fuel generalizing n n₁ n₂ s s₁ s₂ fuel₁ fuel₂ groups groups₁ groups₂ l l₁ l₂ with
  | zero => exact absurd hn (Nat.not_lt_zero n)
  | succ fuel ih =>
    obtain ⟨fuel₁, rfl⟩ : ∃ k, fuel₁ = k + 1 := ⟨fuel₁ - 1, by omega⟩
    obtain ⟨fuel₂, rfl⟩ : ∃ k, fuel₂ = k + 1 := ⟨fuel₂ - 1, by omega⟩
    have hb₁ := h₁.blanked
    have hb₂ := h₂.blanked
    have hb := h.blanked
    cases hr : s.blanked.rest with
    | cons c u =>
      have hr₁ := hb₁.rest_cons hr
      obtain ⟨m, m₁, rfl, rfl⟩ := hb₁.exists_succ hr
      obtain ⟨m₁', m₂, hm, rfl⟩ := hb.exists_succ hr₁
      obtain rfl : m₁ = m₁' := Nat.succ.inj hm
      rw [readRest_succ, hr] at hx
      simp only [List.head?_cons] at hx
      rw [readRest_succ, readRest_succ, hr₁, hb₂.rest_cons hr]
      simp only [List.head?_cons]
      cases ha : step c groups l s.blanked with
      | error e =>
        obtain ⟨r, hx⟩ := hx
        cases (bind_error ha).symm.trans hx
      | ok a =>
        obtain ⟨gs₁, k₁, t₁, hy₁, ht₁⟩ := hb₁.step hr [] ha
        obtain ⟨gs₂, k₂, t₂, hy₂, ht₂⟩ := hb₂.step hr [aroundGroup] ha
        rw [List.append_nil, List.append_nil] at hy₁
        obtain ⟨ht, gs₂', hgs, hg, hk⟩ := step_together hb hr₁ hg [aroundGroup] hl _ _ _ _ hy₁ hy₂
        obtain rfl : gs₂ = gs₂' := List.append_cancel_right hgs
        rw [bind_ok ha] at hx
        rw [bind_ok hy₁, bind_ok hy₂]
        exact ih ht₁ ht₂ ht hg hk (by omega) (by omega) (by omega) hx
    | nil =>
      have hend : s₁.blanked.AtEnd := hb₁.rest_nil hr
      have hrest := hb.rest_eq
      rw [readRest_succ, hr] at hx
      cases groups with
      | cons g gs => exact absurd hx (by rintro ⟨r, ⟨⟩⟩)
      | nil =>
        cases h₁.opened
        cases h₂.opened
        have hend₂ : s₂.blanked.AtEnd := by rwa [Reading.AtEnd, hrest]
        rw [readRest_blanked hend, List.nil_append, readRest_blanked hend₂]
        exact swallowed_atEnd h₁.level hb₁.toAkin hb₂.toAkin hend hrest fuel₁ fuel₂ hx

theorem beside_anchored (t : Text) : Beside t.length (t.length + 1) [] [] { start := 0 }
    { start := 4 } { rest := t } { pos := 4, rest := t ++ [')'] } :=
  { alongside_anchored t with
    late := rfl
    names := rfl
    opened := .nil
    level := ⟨rfl, rfl, .nil, .nil⟩ }

theorem read_ending (t : Text) : Ending [aroundGroup]
    (readRest (t.length + 1) [] { start := 0 } { rest := t })
    (readRest (t.length + 4) [aroundGroup] { start := 4 } { pos := 4, rest := t ++ [')'] }) :=
  readRest_ending (beside_anchored t) (Nat.lt_succ_self _) (by omega) (List.cons_ne_nil _ _)

theorem map_eq_ok {x : Except SyntaxError (Pattern × Reading)} :
    (∃ p, x.map (·.1) = .ok p) ↔ ∃ r, x = .ok r := by
  cases x <;> simp [Except.map]

theorem map_eq_error {x : Except SyntaxError (Pattern × Reading)} {e : SyntaxError} :
    x.map (·.1) = .error e ↔ x = .error e := by
  cases x <;> simp [Except.map]

/-- A pattern takes in the parenthesis behind it if it is still well formed with it. -/
theorem swallowed_iff {t : Text} (h : ∃ p, read t = .ok p) : (∃ p, read (t ++ [')']) = .ok p) ↔
    read (anchoredText t) = .error ⟨.groupUnclosed, ⟨1, 2⟩, none⟩ := by
  rw [read_anchoredText, map_eq_error, read, map_eq_ok]
  have hclose : Beside t.length (t.length + 1) [] [] { start := 0 } { start := 0 } { rest := t }
      { rest := t ++ [')'] } := { beside_anchored t with level := ⟨rfl, rfl, .nil, .nil⟩ }
  have hread : ∃ r, readRest (t.length + 1) [] { start := 0 } { rest := t } = .ok r :=
    map_eq_ok.1 h
  refine readRest_swallowed hclose (beside_anchored t) ⟨.inl rfl, rfl, rfl, ?_, ?_, ?_⟩ .nil
    ⟨rfl, rfl, .nil, .nil⟩ (Nat.lt_succ_self _) ?_ ?_ hread
  · exact .inl (List.append_nil _).symm
  · simp
  · simp
  · simp
  · omega

/-! ## Acceptance -/

/-- How the text `t` is received as a pattern that is held to the start. -/
structure Acceptance (t : Text) : Prop where
  /-- Whatever is read, an error is that of the pattern as it was given. -/
  given : ∀ e, compileAnchored t = .error e → e.pattern = t ∧ e.spelled = anchoredText t
  /-- The group around a well-formed pattern makes it no worse than too large or too deep. -/
  accepted : (∃ p, read t = .ok p) → (¬∃ p, read (t ++ [')']) = .ok p) →
    ∀ e, compileAnchored t = .error e →
      e.problem = .tooLarge ∨ ∃ e', e.problem = .malformed e' ∧ e'.kind = .nestedTooDeep
  /-- A pattern that ends with a comment takes in what was to close the group. -/
  swallowed : (∃ p, read t = .ok p) → (∃ p, read (t ++ [')']) = .ok p) →
    compileAnchored t =
      .error ⟨t, anchoredText t, .malformed ⟨.groupUnclosed, ⟨1, 2⟩, none⟩⟩
  /-- Nothing but a parenthesis too many is made up for by the group. -/
  refused : ∀ e, read t = .error e → e.kind ≠ .groupUnopened →
    ∃ e', compileAnchored t = .error ⟨t, anchoredText t, .malformed e'⟩
  /-- Skip patterns are compiled in this way. -/
  skipped : ∀ e, SkipPattern.compile t = .error e ↔ compileAnchored t = .error e

theorem compileAs_error {pattern spelled : Text} {f : Flags} {e : PatternError}
    (h : compileAs pattern spelled f = .error e) : e.pattern = pattern ∧ e.spelled = spelled ∧
      (e.problem = .tooLarge ∨ ∃ e', read spelled f = .error e' ∧ e.problem = .malformed e') := by
  rw [compileAs] at h
  cases hr : read spelled f with
  | error e' =>
    rw [hr] at h
    cases h
    exact ⟨rfl, rfl, .inr ⟨e', rfl, rfl⟩⟩
  | ok p =>
    rw [hr] at h
    simp only at h
    split at h
    · cases h
      exact ⟨rfl, rfl, .inl rfl⟩
    · cases h

theorem compileAs_of_error {pattern spelled : Text} {f : Flags} {e : SyntaxError}
    (h : read spelled f = .error e) :
    compileAs pattern spelled f = .error ⟨pattern, spelled, .malformed e⟩ := by
  rw [compileAs, h]

/-- A pattern that closes no group but its own is accepted if it is well formed by itself and
refused if it is not, unless it takes in the parenthesis behind it or nests too deep for the
group. -/
theorem acceptance (t : Text) : Acceptance t where
  given e he := ⟨(compileAs_error he).1, (compileAs_error he).2.1⟩
  accepted hread hclose e he := by
    obtain ⟨-, -, hsize | ⟨e', he', hproblem⟩⟩ := compileAs_error he
    · exact .inl hsize
    · obtain ⟨r, hr⟩ := map_eq_ok.1 hread
      have hunclosed : e' ≠ ⟨.groupUnclosed, ⟨1, 2⟩, none⟩ := by
        rintro rfl
        exact hclose ((swallowed_iff hread).2 he')
      rw [read_anchoredText, map_eq_error] at he'
      exact .inr ⟨e', hproblem, ((read_ending t).of_ok hr he').resolve_left hunclosed⟩
  swallowed hread hclose := compileAs_of_error ((swallowed_iff hread).1 hclose)
  refused e he hkind := by
    obtain ⟨e', he'⟩ := (read_ending t).of_not_ok (map_eq_error.1 he) hkind
    refine ⟨e', compileAs_of_error ?_⟩
    rw [read_anchoredText, map_eq_error.2 he']
  skipped e := by
    rw [SkipPattern.compile]
    split
    · rename_i r hr
      simp [hr]
    · rename_i e' he'
      simp [he']

theorem skipPattern_compile_ok_iff (t : Text) :
    (∃ k, SkipPattern.compile t = .ok k) ↔ ∃ r, compileAnchored t = .ok r := by
  rw [SkipPattern.compile]
  split
  · rename_i r hr
    simp [hr]
  · rename_i e he
    simp [he]

/-- A pattern that closes the group around it is accepted though it is none by itself, and one that
ends with a comment is refused. -/
theorem acceptance_differs :
    (¬∃ r, compile "a)|(?:b".toList = .ok r) ∧
      (∃ k, SkipPattern.compile "a)|(?:b".toList = .ok k) ∧
      (∃ r, compile "(?x)a #c".toList = .ok r) ∧
      ¬∃ k, SkipPattern.compile "(?x)a #c".toList = .ok k := by
  have hok : ∀ {α : Type} {x : Except PatternError α}, x.toOption.isSome ↔ ∃ a, x = .ok a := by
    intro α x
    cases x <;> simp [Except.toOption]
  rw [skipPattern_compile_ok_iff, skipPattern_compile_ok_iff, ← hok, ← hok, ← hok, ← hok]
  decide +kernel

end Descent.Pattern
