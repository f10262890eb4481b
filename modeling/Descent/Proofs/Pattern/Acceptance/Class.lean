import Descent.Proofs.Pattern.Acceptance.Escape
import Descent.Proofs.Pattern.Class

/-! # Classes at the end of a pattern

A class that is still open at the end of a pattern is not closed by a parenthesis: what was to close
it is taken for a member, and the class has no end after that either. -/
namespace Descent.Pattern

variable {n n' fuel fuel' : Nat} {s s' : Reading} {c : Char} {u : Text}

/-! ## Named classes -/

theorem bumpIf_result (t : Text) (s : Reading) : ∃ p r,
    bumpIf t s = .ok (t.isPrefixOf s.rest, { s with pos := p, rest := r }) ∧ r <:+ s.rest := by
  unfold bumpIf
  cases t.isPrefixOf s.rest with
  | true => exact ⟨_, _, rfl, List.drop_suffix _ _⟩
  | false => exact ⟨s.pos, s.rest, rfl, List.suffix_refl _⟩

theorem finishSet_result (x : Extent) (negated : Bool) (set : CharSet) (s : Reading) : ∃ r l,
    finishSet x negated set s = .ok (r, { s with late := l }) ∧
      l.isSome = (s.late.isSome || (negated && !s.flags.unicode)) := by
  obtain ⟨pos, rest, ⟨i, m, d, g, unicode, r, x⟩, groups, names, late⟩ := s
  cases negated <;> cases unicode <;> exact ⟨_, _, rfl, by simp⟩

/-- What a named class reads from its name on. -/
def className (before : Reading) (negated : Bool) : Reads (Option (CharSet × Extent)) := do
  let s ← get
  let name := s.rest.takeWhile (· != ':')
  match asciiClass? name, (s.rest.drop name.length) with
  | some named, ':' :: ']' :: rest =>
    set { s with pos := s.pos + name.length + 2, rest }
    let x : Extent := ⟨before.pos, ← here⟩
    return some (← finishSet x negated named, x)
  | _, _ =>
    set before
    return none

theorem className_cases (before : Reading) (negated : Bool) (s : Reading) :
    className before negated s = .ok (none, before) ∨
      ∃ r t, className before negated s = .ok (some r, t) ∧ t.rest.length ≤ s.rest.length ∧
        t.names = s.names ∧ t.late.isSome = (s.late.isSome || (negated && !s.flags.unicode)) := by
  have hdrop := (List.drop_suffix (s.rest.takeWhile (· != ':')).length s.rest).length_le
  rw [className, bind_ok (x := get) (a := s) (t := s) rfl]
  dsimp only
  generalize s.pos + (s.rest.takeWhile (· != ':')).length + 2 = stop
  generalize s.rest.drop (s.rest.takeWhile (· != ':')).length = d at hdrop
  generalize asciiClass? (s.rest.takeWhile (· != ':')) = found
  by_cases hd : ∃ named rest, found = some named ∧ d = ':' :: ']' :: rest
  · obtain ⟨named, rest, rfl, rfl⟩ := hd
    simp only [List.length_cons] at hdrop
    obtain ⟨r, l, hr, hl⟩ := finishSet_result ⟨before.pos, stop⟩ negated named
      { s with pos := stop, rest }
    refine .inr ⟨(r, ⟨before.pos, stop⟩), { s with pos := stop, rest, late := l }, ?_, ?_, rfl, hl⟩
    · exact bind_ok (f := fun set => pure (some (set, Extent.mk before.pos stop))) hr
    · dsimp only
      omega
  · refine .inl ?_
    split
    · exact absurd ⟨_, _, rfl, rfl⟩ hd
    · rfl

/-- A named class either is none and nothing is read, or is read to its end. Its complement is an
error without Unicode. -/
theorem asciiClass_cases (s : Reading) : asciiClass s = .ok (none, s) ∨
    ∃ r t, asciiClass s = .ok (some r, t) ∧ t.rest.length < s.rest.length ∧ t.names = s.names ∧
      t.late.isSome = (s.late.isSome ||
        (['[', ':', '^'].isPrefixOf s.rest && !s.flags.unicode)) := by
  cases hopen : ['[', ':'].isPrefixOf s.rest with
  | false =>
    have hb : bumpIf ['[', ':'] s = .ok (false, s) := if_neg (by simp [hopen])
    exact .inl ((bind_ok (a := s) (t := s) rfl).trans ((bind_ok hb).trans rfl))
  | true =>
    obtain ⟨v, hv⟩ := List.isPrefixOf_iff_prefix.1 hopen
    have hcaret : ['[', ':', '^'].isPrefixOf s.rest = ['^'].isPrefixOf v := by
      rw [← hv]
      simp [List.isPrefixOf]
    have hb : bumpIf ['[', ':'] s = .ok (true, { s with pos := s.pos + 2, rest := v }) := by
      rw [bumpIf, if_pos hopen, ← hv]
      rfl
    obtain ⟨p, w, hw, hsuffix⟩ := bumpIf_result ['^'] { s with pos := s.pos + 2, rest := v }
    have hclass : asciiClass s = className s (['^'].isPrefixOf v) { s with pos := p, rest := w } :=
      (bind_ok (a := s) (t := s) rfl).trans ((bind_ok hb).trans (bind_ok hw))
    rw [hclass, hcaret]
    refine (className_cases s _ { s with pos := p, rest := w }).imp id ?_
    rintro ⟨r, t, ht, hlen, hnames, hlate⟩
    refine ⟨r, t, ht, ?_, hnames, hlate⟩
    rw [← hv]
    have hle : w.length ≤ v.length := hsuffix.length_le
    have hlen : t.rest.length ≤ w.length := hlen
    simp only [List.cons_append, List.nil_append, List.length_cons]
    omega

/-- Both read the same class, or none. -/
theorem asciiClass_abreast (h : Abreast (n + 1) (n' + 1) s s') :
    (asciiClass s = .ok (none, s) ∧ asciiClass s' = .ok (none, s')) ∨
      ∃ set x x' t t', asciiClass s = .ok (some (set, x), t) ∧
        asciiClass s' = .ok (some (set, x'), t') ∧ Abreast n n' t t' := by
  have hprefix : ['[', ':', '^'].isPrefixOf s'.rest = ['[', ':', '^'].isPrefixOf s.rest := by
    rcases h.rest with hr | ⟨hr, hr'⟩
    · rw [hr, isPrefixOf_close (by decide)]
    · rw [hr, hr']
  rcases asciiClass_cases s with hs | ⟨r, t, hs, hlen, hnames, hlate⟩ <;>
    rcases asciiClass_cases s' with hs' | ⟨r', t', hs', hlen', hnames', hlate'⟩ <;>
    obtain ⟨ht, hab⟩ := asciiClass_together h.toAlongside _ _ _ _ hs hs'
  · exact .inl ⟨hs, hs'⟩
  · cases hab
  · cases hab
  · refine .inr ⟨r.1, r.2, r'.2, t, t', hs, ?_, ?_⟩
    · rw [hs', Option.some.inj hab]
    · have hle := h.le
      have hle' := h.le'
      refine { ht with le := by omega, le' := by omega, late := ?_, names := ?_ }
      · rw [hlate, hlate', hprefix, h.late, h.flags]
      · rw [hnames, hnames', h.names]

theorem finishSet_matched {L : CharSet → Reading → Prop} (h : Abreast n n' s s') (x x' : Extent)
    (negated : Bool) (set : CharSet) :
    Matched L (finishSet x negated set s) (finishSet x' negated set s') :=
  .flags h (.ite (fun _ => complement_matched h _ _ _) fun _ => .pure h.toAkin)

/-! ## Openings -/

theorem Abreast.head?_ne (h : Abreast n n' s s') {d : Char} (hd : d ≠ ')')
    (hs : s.rest.head? ≠ some d) : s'.rest.head? ≠ some d := by
  cases hr : s.rest with
  | nil => exact Reading.AtEnd.current_ne (h.rest_nil hr) hd
  | cons c u =>
    rw [h.rest_cons hr]
    rwa [hr] at hs

/-- Behind the last hyphen the parenthesis stays. -/
theorem hyphens_matched (h : Abreast n n' s s') (hn : n ≤ fuel) (hn' : n' ≤ fuel')
    (start start' : Nat) (found found' : Found) :
    Matched (fun _ t => t.AtEnd) (classOpen.hyphens start fuel found s)
      (classOpen.hyphens start' fuel' found' s') := by
  induction fuel generalizing n n' s s' fuel' found found' with
  | zero =>
    have hs : s.rest.head? ≠ some '-' := by simp [h.nil_of_le_zero hn]
    rw [hyphens_stop hs, hyphens_stop (h.head?_ne (by decide) hs)]
    exact .ok h.toAkin
  | succ fuel ih =>
    by_cases hc : s.rest.head? = some '-'
    · obtain ⟨u, hs⟩ := List.head?_eq_some_iff.1 hc
      obtain ⟨m, m', k, k', rfl, rfl, ⟨⟩, rfl, hm, hm'⟩ := h.fuel_succ hs hn hn'
      refine .here fun p p' => .currentIs (by decide) h (fun u hs => ?_) (.pure h.toAkin)
      refine .orFail h.toAkin (bumpBlank_together h.toAlongside hs) (fun _ => ⟨_, rfl⟩)
        (fun _ => ⟨_, rfl⟩) (fun t t' ht => ih ht hm hm' _ _) fun t' _ hend => ?_
      rw [hyphens_stop (hend.current_ne (by decide))]
      exact .ok hend
    · rw [hyphens_stop hc, hyphens_stop (h.head?_ne (by decide) hc)]
      exact .ok h.toAkin

theorem classOpen_finish_atEnd (h : s.AtEnd) (start : Nat) (negated : Bool) :
    ∃ r, classOpen.finish start negated s = .ok (r, s) := by
  have hbracket : ¬(Found.nothing s.pos).items = 0 ∨ s.rest.head? ≠ some ']' :=
    .inr (h.current_ne (by decide))
  refine ⟨(⟨start, s.pos⟩, negated, .nothing s.pos), ?_⟩
  refine (bind_ok (a := s.pos) (t := s) rfl).trans ((bind_ok (a := s) (t := s) rfl).trans ?_)
  refine (bind_ok (hyphens_stop (h.current_ne (by decide)) start _ _)).trans ?_
  rw [current_bind, if_neg fun hb => h.current_ne (by decide) hb.2]
  rfl

theorem classOpen_finish_matched (h : Abreast n n' s s') (start start' : Nat) (negated : Bool) :
    Matched (fun _ t => t.AtEnd) (classOpen.finish start negated s)
      (classOpen.finish start' negated s') := by
  refine .here fun p p' => .get (.bindAstray (hyphens_together h.toAlongside.tight (Nat.le_refl _)
    (Nat.le_refl _) start start' ⟨rfl, rfl, .nil⟩) (hyphens_matched h.tight (Nat.le_refl _)
    (Nat.le_refl _) start start' _ _) (fun f t f' t' ht hf => ?_) fun f' t' hend => ?_)
  · refine .current ht (fun c u hr => ?_) fun _ hend => ?_
    · rw [hf.items]
      refine .ite (fun _ => ?_) fun _ => .pure ht.toAkin
      exact .orFail ht.toAkin (bumpBlank_together_any ht.toAlongside) (fun _ => ⟨_, rfl⟩)
        (fun _ => ⟨_, rfl⟩) (fun t t' ht => .here fun q q' => .pure ht.toAkin)
        fun t' _ hend => .ok hend
    · rw [if_neg (by simp), if_neg fun hb => hend.current_ne (by decide) hb.2]
      exact .pure ht.toAkin
  · rw [current_bind, if_neg fun hb => hend.current_ne (by decide) hb.2]
    exact .ok hend

theorem classOpen_matched (h : s.Akin s')
    (hmove : Together [')'] (fun a b _ => a = true → b = true) n n' (bumpBlank s) (bumpBlank s')) :
    Matched (fun _ t => t.AtEnd) (classOpen s) (classOpen s') := by
  have hfinish : ∀ {t' : Reading}, t'.AtEnd → ∀ start negated,
      Astray (fun _ t => t.AtEnd) (classOpen.finish start negated t') := by
    intro t' hend start negated
    obtain ⟨r, hr⟩ := classOpen_finish_atEnd hend start negated
    rw [hr]
    exact .ok hend
  refine .here fun p p' => .orFail h hmove (fun _ => ⟨_, rfl⟩) (fun _ => ⟨_, rfl⟩)
    (fun t t' ht => ?_) fun t' _ hend => ?_
  · refine .current ht (fun c u hr => .ite (fun _ => ?_) fun _ => ?_) fun _ hend' => ?_
    · exact .orFail ht.toAkin (bumpBlank_together_any ht.toAlongside) (fun _ => ⟨_, rfl⟩)
        (fun _ => ⟨_, rfl⟩) (fun t t' ht => classOpen_finish_matched ht p p' true)
        fun t' _ hend => hfinish hend p' true
    · exact classOpen_finish_matched ht p p' false
    · rw [if_neg (by simp), if_neg (by simpa using hend'.current_ne (d := '^') (by decide))]
      exact classOpen_finish_matched ht p p' false
  · rw [current_bind, if_neg (by simpa using hend.current_ne (d := '^') (by decide))]
    exact hfinish hend p' false

/-! ## Members -/

/-- At the end an item is the parenthesis, and nothing comes behind it. -/
theorem classItem_atEnd (h : s.AtEnd) : Astray (fun _ t => t.rest = []) (classItem s) := by
  rw [classItem, here_bind, current_bind]
  obtain ⟨t, ht, hnil⟩ := h.bump_eq
  rcases h with hr | hr <;> rw [hr]
  · change Astray _ ((bump >>= fun _ => pure _ : Reads Placed) s)
    rw [bind_ok ht]
    exact .ok hnil
  · exact .error _

theorem classItem_matched (h : Abreast n n' s s') :
    Matched (fun b t => t.rest = [] ∨ (∃ a, b.primitive = .anchor a) ∧ t.LoneBrace) (classItem s)
      (classItem s') := by
  cases hs : s.rest with
  | nil =>
    have hx : ∃ e, classItem s = .error e := by
      rw [classItem, here_bind, current_bind, hs]
      exact ⟨_, rfl⟩
    exact .of_error hx.choose_spec ((classItem_atEnd (h.rest_nil hs)).mono fun _ _ => .inl)
  | cons c u =>
    obtain ⟨m, m', rfl, rfl⟩ := h.exists_succ hs
    refine .here fun p p' => .current h (fun c u hs => ?_) fun hr => nomatch hs.symm.trans hr
    by_cases hc : c = '\\'
    · subst hc
      exact escape_matched h hs
    · simp only
      exact .bump h hs fun t t' ht _ => .pure ht.toAkin

theorem member_matched {L : Unit → Reading → Prop} (h : Abreast n n' s s') (x x' : Extent)
    (c : Char) : Matched L (member x c s) (member x' c s') :=
  .flags h (.ite (fun _ => .failLate h.toAkin _ _ _ _) fun _ => .pure h.toAkin)

theorem member_astray (x : Extent) (c : Char) (s : Reading) :
    Astray (fun _ t => t.rest = s.rest) (member x c s) := by
  change Astray _ ((if !s.flags.unicode ∧ 127 < c.toNat then failLate x .beyondAscii
    else pure () : Reads Unit) s)
  split
  · exact .ok rfl
  · exact .ok rfl

theorem toSet_matched {L : CharSet → Reading → Prop} (h : Abreast n n' s s') {a b : Placed}
    (hab : a.primitive = b.primitive) : Matched L (a.toSet s) (b.toSet s') := by
  unfold Placed.toSet
  rw [hab]
  cases b.primitive with
  | literal c =>
    exact .bind (member_together h.toAlongside _ _ _) (member_matched h _ _ _)
      fun _ t _ t' ht _ => .pure ht.toAkin
  | set s => exact .pure h.toAkin
  | anchor a => exact .errors rfl rfl

theorem toSet_astray (b : Placed) (s : Reading) :
    Astray (fun _ t => t.rest = s.rest) (b.toSet s) := by
  unfold Placed.toSet
  cases b.primitive with
  | literal c => exact .bind (member_astray _ _ _) fun _ t ht => .ok ht
  | set s => exact .ok rfl
  | anchor a => exact .error _

theorem toBound_matched {L : Char → Reading → Prop} (h : Abreast n n' s s') {a b : Placed}
    (hab : a.primitive = b.primitive) : Matched L (a.toBound s) (b.toBound s') := by
  unfold Placed.toBound
  rw [hab]
  cases b.primitive with
  | literal c => exact .pure h.toAkin
  | set s => exact .errors rfl rfl
  | anchor a => exact .errors rfl rfl

theorem toBound_astray (b : Placed) (s : Reading) :
    Astray (fun _ t => t.rest = s.rest) (b.toBound s) := by
  unfold Placed.toBound
  cases b.primitive with
  | literal c => exact .ok rfl
  | set s => exact .error _
  | anchor a => exact .error _

/-! ## Ranges -/

theorem peekBlank_quiet : Quiet peekBlank? := fun s => ⟨_, s, peekBlank_eq s, rfl, rfl⟩

theorem rangeOf_matched {L : CharSet × Extent → Reading → Prop} (h : Abreast n n' s s')
    {first first' last last' : Placed} (hfirst : first.primitive = first'.primitive)
    (hlast : last.primitive = last'.primitive) :
    Matched L (rangeOf first last s) (rangeOf first' last' s') := by
  refine .bind (toBound_together h.toAlongside hfirst) (toBound_matched h hfirst)
    fun a t a' t' ht ha => ?_
  refine .bind (toBound_together ht.toAlongside hlast) (toBound_matched ht hlast)
    fun b t b' t' ht hb => ?_
  cases ha
  cases hb
  refine .ite (fun _ => .errors rfl rfl) fun _ => ?_
  refine .bind (member_together ht.toAlongside _ _ a) (member_matched ht _ _ a)
    fun _ t _ t' ht _ => ?_
  exact .bind (member_together ht.toAlongside _ _ b) (member_matched ht _ _ b)
    fun _ t _ t' ht _ => .pure ht.toAkin

/-- A special boundary is neither a member nor a bound. -/
theorem rangeOf_astray (first : Placed) {last : Placed}
    (h : s.rest = [] ∨ (∃ a, last.primitive = .anchor a) ∧ s.LoneBrace) :
    Astray (fun _ t => t.AtEnd) (rangeOf first last s) := by
  refine (toBound_astray first s).bind fun a t ht => ?_
  rcases h with hnil | ⟨⟨anchor, hanchor⟩, -⟩
  · refine (toBound_astray last t).bind fun b v hv => ?_
    split
    · exact .error _
    · refine (member_astray _ a v).bind fun _ w hw => (member_astray _ b w).bind fun _ z hz => ?_
      exact .ok (.inr (by rw [hz, hw, hv, ht, hnil]))
  · have hbound : last.toBound t = .error ⟨.classRangeLiteral, last.extent, none⟩ := by
      rw [Placed.toBound, hanchor]
      rfl
    rw [bind_error hbound]
    exact .error _

theorem rangeRest_atEnd (h : s.blanked.AtEnd) (frames : List ClassFrame) (first : Placed) :
    Astray (fun _ t => t.AtEnd) (rangeRest frames first s) := by
  rw [rangeRest, skipBlank_bind, current_bind]
  generalize s.blanked = t at h
  rcases h with hr | hr <;> rw [hr]
  · rw [List.head?_cons]
    simp only
    rw [bind_ok (peekBlank_eq t), if_pos (.inl (by decide))]
    exact (toSet_astray first t).bind fun a r hr' => .ok (.inl (hr'.trans hr))
  · exact .of_error (classUnclosed_error frames t).choose_spec

theorem rangeRest_matched (h : Abreast n n' s s') (frames frames' : List ClassFrame)
    {first first' : Placed} (hfirst : first.primitive = first'.primitive) :
    Matched (fun _ t => t.AtEnd) (rangeRest frames first s) (rangeRest frames' first' s') := by
  refine .skipBlank (.current h.blanked (fun c u hr => ?_) fun _ hend =>
    .of_error (classUnclosed_error frames _).choose_spec (rangeRest_atEnd hend frames' first'))
  refine .bindQuiet (peekBlank_together h.blanked.toAlongside hr) peekBlank_quiet peekBlank_quiet
    h.blanked.toAkin fun e t e' t' ht he => ?_
  have hcond : (c ≠ '-' ∨ e = some ']' ∨ e = some '-') ↔
      (c ≠ '-' ∨ e' = some ']' ∨ e' = some '-') := or_congr Iff.rfl he
  by_cases hp : c ≠ '-' ∨ e = some ']' ∨ e = some '-'
  · rw [if_pos hp, if_pos (hcond.1 hp)]
    exact .bind (toSet_together ht.toAlongside hfirst) (toSet_matched ht hfirst)
      fun a t b t' ht hab => .pure ht.toAkin
  · rw [if_neg hp, if_neg fun h => hp (hcond.2 h)]
    refine .orFail ht.toAkin (bumpBlank_together_any ht.toAlongside) (classUnclosed_error frames)
      (classUnclosed_error frames') (fun t t' ht => ?_) fun t' _ hend => ?_
    · exact .bindAstray (classItem_together ht.toAlongside) (classItem_matched ht)
        (fun _ t _ t' ht hlast => rangeOf_matched ht hfirst hlast)
        fun last t' hlast => rangeOf_astray first' hlast
    · exact (classItem_atEnd hend).bind fun last t' hnil => rangeOf_astray first' (.inl hnil)

theorem Reading.LoneBrace.blanked_eq (h : s.LoneBrace) : s.blanked = s := by
  obtain ⟨u, hu⟩ := h.brace
  unfold blanked
  split
  · have hblank : blank false s.pos s.rest = (s.pos, s.rest) := by
      rw [hu, blank, if_neg (by decide), if_neg (by decide)]
    rw [hblank]
  · rfl

/-- Behind what is no item a special boundary is no range either. -/
theorem classRange_matched (h : Abreast n n' s s') (frames frames' : List ClassFrame) :
    Matched (fun _ t => t.AtEnd) (classRange frames s) (classRange frames' s') := by
  refine .bindAstray (classItem_together h.toAlongside) (classItem_matched h)
    (fun first t first' t' ht hfirst => rangeRest_matched ht frames frames' hfirst)
    fun first' t' hfirst => ?_
  change Astray _ (rangeRest frames' first' t')
  rcases hfirst with hnil | ⟨⟨anchor, hanchor⟩, hbrace⟩
  · exact rangeRest_atEnd (by rw [Reading.blanked_of_nil hnil]; exact .inr hnil) frames' first'
  · obtain ⟨u, hu⟩ := hbrace.brace
    have hset : first'.toSet t' = .error ⟨.classEscapeInvalid, first'.extent, none⟩ := by
      rw [Placed.toSet, hanchor]
      rfl
    rw [rangeRest, skipBlank_bind, hbrace.blanked_eq, current_bind, hu, List.head?_cons]
    simp only
    rw [bind_ok (peekBlank_eq t'), if_pos (.inl (by decide)), bind_error hset]
    exact .error _

/-! ## Whole classes -/

theorem bumpIf_cases {t : Text} (ht : t ≠ []) (s : Reading) : bumpIf t s = .ok (false, s) ∨
    ∃ r, bumpIf t s = .ok (true, r) ∧ r.rest.length < s.rest.length ∧ r.late = s.late ∧
      r.names = s.names := by
  by_cases hp : t.isPrefixOf s.rest
  · refine .inr ⟨_, if_pos hp, ?_, rfl, rfl⟩
    have hle := (List.isPrefixOf_iff_prefix.1 hp).length_le
    have hpos := List.length_pos_iff.2 ht
    simp only [List.length_drop]
    omega
  · exact .inl (if_neg hp)

theorem classOp_cases (s : Reading) : classOp? s = .ok (none, s) ∨
    ∃ op r, classOp? s = .ok (some op, r) ∧ r.rest.length < s.rest.length ∧ r.late = s.late ∧
      r.names = s.names := by
  rcases bumpIf_cases (t := ['&', '&']) nofun s with h | ⟨r, h, hr⟩
  · rcases bumpIf_cases (t := ['-', '-']) nofun s with h' | ⟨r, h', hr⟩
    · rcases bumpIf_cases (t := ['~', '~']) nofun s with h'' | ⟨r, h'', hr⟩
      · exact .inl ((bind_ok h).trans ((bind_ok h').trans ((bind_ok h'').trans rfl)))
      · exact .inr ⟨_, r, (bind_ok h).trans ((bind_ok h').trans ((bind_ok h'').trans rfl)), hr⟩
    · exact .inr ⟨_, r, (bind_ok h).trans ((bind_ok h').trans rfl), hr⟩
  · exact .inr ⟨_, r, (bind_ok h).trans rfl, hr⟩

/-- Both read the same operation, or none. -/
theorem classOp_abreast (h : Abreast (n + 1) (n' + 1) s s') :
    (classOp? s = .ok (none, s) ∧ classOp? s' = .ok (none, s')) ∨
      ∃ op t t', classOp? s = .ok (some op, t) ∧ classOp? s' = .ok (some op, t') ∧
        Abreast n n' t t' := by
  rcases classOp_cases s with hs | ⟨op, t, hs, hlen, hlate, hnames⟩ <;>
    rcases classOp_cases s' with hs' | ⟨op', t', hs', hlen', hlate', hnames'⟩ <;>
    obtain ⟨ht, hab⟩ := classOp_together h.toAlongside _ _ _ _ hs hs'
  · exact .inl ⟨hs, hs'⟩
  · cases hab
  · cases hab
  · cases hab
    have hle := h.le
    have hle' := h.le'
    exact .inr ⟨op, t, t', hs, hs', { ht with
      le := by omega
      le' := by omega
      late := by rw [hlate, hlate', h.late]
      names := by rw [hnames, hnames', h.names] }⟩

theorem classRange_atEnd {L : CharSet × Extent → Reading → Prop} (h : s.AtEnd)
    (frames : List ClassFrame) : Astray L (classRange frames s) := by
  refine (classItem_atEnd h).bind fun first t hnil => ?_
  change Astray L (rangeRest frames first t)
  rw [rangeRest, skipBlank_bind, Reading.blanked_of_nil hnil, current_bind, hnil]
  exact .of_error (classUnclosed_error frames t).choose_spec

theorem classRest_atEnd {L : CharSet × Nest → Reading → Prop} (h : s.blanked.AtEnd) (fuel : Nat)
    (frames : List ClassFrame) (found : Found) : Astray L (classRest fuel frames found s) := by
  cases fuel with
  | zero => exact .of_error (classUnclosed_error frames s).choose_spec
  | succ fuel =>
    rw [classRest, skipBlank_bind, current_bind]
    generalize s.blanked = t at h
    have hend := h
    rcases h with hr | hr <;> rw [hr]
    · have hop : classOp? t = .ok (none, t) := by
        obtain ⟨pos, rest, f, groups, names, late⟩ := t
        obtain rfl : rest = [')'] := hr
        rfl
      change Astray L ((classOp? >>= _ : Reads (CharSet × Nest)) t)
      rw [bind_ok hop]
      exact (classRange_atEnd (L := fun _ _ => False) hend frames).bind fun _ _ hf => hf.elim
    · exact .of_error (classUnclosed_error frames t).choose_spec

theorem classRest_matched {L : CharSet × Nest → Reading → Prop} (h : Abreast n n' s s')
    (hn : n ≤ fuel) (hn' : n' ≤ fuel') {frames frames' : List ClassFrame}
    (hf : SameFrames frames frames') {found found' : Found} (hfound : found.Same found') :
    Matched L (classRest fuel frames found s) (classRest fuel' frames' found' s') := by
  induction fuel generalizing n n' s s' fuel' frames frames' found found' with
  | zero =>
    have hend : s'.blanked.AtEnd := h.blanked.rest_nil (by
      rw [Reading.blanked_of_nil (h.nil_of_le_zero hn), h.nil_of_le_zero hn])
    exact .of_error (classUnclosed_error frames s).choose_spec (classRest_atEnd hend _ _ _)
  | succ fuel ih =>
    cases hb : s.blanked.rest with
    | nil =>
      obtain ⟨e, he⟩ : ∃ e, (classUnclosed frames : Reads (CharSet × Nest)) s.blanked = .error e :=
        classUnclosed_error frames s.blanked
      refine .of_error (e := e) ?_ (classRest_atEnd (h.blanked.rest_nil hb) _ _ _)
      rw [classRest, skipBlank_bind, current_bind, hb]
      exact he
    | cons c u =>
      obtain ⟨m, m', k, k', rfl, rfl, ⟨⟩, rfl, hm, hm'⟩ := h.blanked.fuel_succ hb hn hn'
      have hturn := h.blanked
      refine .skipBlank (.current hturn (fun c u hr => ?_) fun hr => nomatch hb.symm.trans hr)
      generalize s.blanked = t, s'.blanked = t' at hturn hr
      by_cases hopen : c = '['
      · subst hopen
        simp only
        rcases asciiClass_abreast hturn with ⟨ha, ha'⟩ | ⟨set, x, x', r, r', ha, ha', ht⟩
        · rw [bind_ok ha, bind_ok ha']
          have hmove := bumpBlank_together hturn.toAlongside hr
          refine .bindAstray (classOpen_together hmove) (classOpen_matched hturn.toAkin hmove)
            (fun a t b t' ht hab => ?_) fun b t' hend => ?_
          · obtain ⟨x, negated, first⟩ := a
            obtain ⟨x', negated', first'⟩ := b
            obtain ⟨hneg, hfirst⟩ := hab
            cases hneg
            exact ih ht hm hm' (.cons (.opened _ _ _ hfound) hf) hfirst
          · exact classRest_atEnd (by rwa [hend.blanked_eq]) _ _ _
        · rw [bind_ok ha, bind_ok ha']
          exact ih ht hm hm' hf (hfound.add _ _ _ .nil)
      · by_cases hclose : c = ']'
        · subst hclose
          obtain ⟨hside, hframes⟩ := found_close_same t.flags hfound hf
          refine .flags hturn ?_
          generalize found.close _ frames = p, found'.close _ frames' = p' at hside hframes
          obtain ⟨⟨set, x, nests⟩, frames⟩ := p
          obtain ⟨⟨set', x', nests'⟩, frames'⟩ := p'
          obtain ⟨rfl, hnests⟩ : set = set' ∧ SameNests nests nests' := ⟨hside.set, hside.nests⟩
          refine .bump hturn hr fun t t' ht _ => ?_
          cases hframes with
          | nil => exact .errors rfl rfl
          | cons hframe hframes =>
            cases hframe with
            | operation op hl =>
              exact .errors (classUnclosed_error _ t).choose_spec
                (classUnclosed_error _ t').choose_spec
            | opened x x' negated houter =>
              refine .here fun q q' => .bind (finishSet_together ht.toAlongside _ _ _ _)
                (finishSet_matched ht _ _ _ _) fun a t b t' ht hab => ?_
              cases hab
              cases hframes with
              | nil => exact .pure ht.toAkin
              | cons hframe hframes =>
                exact ih ht hm hm' (.cons hframe hframes)
                  (houter.add _ _ _ (.cons (.node _ _ hnests) .nil))
        · simp only
          rcases classOp_abreast hturn with ⟨ha, ha'⟩ | ⟨op, r, r', ha, ha', ht⟩
          · rw [bind_ok ha, bind_ok ha']
            refine .bindAstray (classRange_next hturn.toAlongside hr frames frames')
              (classRange_matched hturn frames frames') (fun a t b t' ht hab => ?_)
              fun b t' hend => ?_
            · rw [hab]
              exact ih ht hm hm' hf (hfound.add _ _ _ .nil)
            · exact classRest_atEnd (by rwa [hend.blanked_eq]) _ _ _
          · rw [bind_ok ha, bind_ok ha']
            obtain ⟨hside, hframes⟩ := found_close_same r.flags hfound hf
            exact .flags ht (.here fun p p' =>
              ih ht hm hm' (.cons (.operation op hside) hframes) ⟨rfl, rfl, .nil⟩)

theorem bracketClass_matched {L : CharSet × Nest → Reading → Prop}
    (h : Abreast (n + 1) (n' + 1) s s') (hs : s.rest = c :: u) :
    Matched L (bracketClass s) (bracketClass s') := by
  have hmove := bumpBlank_together h.toAlongside hs
  refine .here fun p p' => .bindAstray (classOpen_together hmove)
    (classOpen_matched h.toAkin hmove) (fun a t b t' ht hab => .get ?_) fun b t' hend => ?_
  · obtain ⟨x, negated, first⟩ := a
    obtain ⟨x', negated', first'⟩ := b
    obtain ⟨hneg, hfirst⟩ := hab
    cases hneg
    have hnothing : (Found.nothing p).Same (Found.nothing p') := ⟨rfl, rfl, .nil⟩
    exact classRest_matched ht.tight (Nat.le_refl _) (Nat.le_refl _)
      (.cons (.opened x x' negated hnothing) .nil) hfirst
  · exact classRest_atEnd (by rwa [hend.blanked_eq]) _ _ _

end Descent.Pattern
