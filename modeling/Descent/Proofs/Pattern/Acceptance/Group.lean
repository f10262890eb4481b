import Descent.Proofs.Pattern.Acceptance.Class
import Descent.Proofs.Pattern.Group

/-! # Group openings at the end of a pattern

The parenthesis ends flags that nothing else ends, and they hold for what follows then. It is not
part of a name. -/
namespace Descent.Pattern

variable {n n' fuel fuel' : Nat} {s s' : Reading} {c : Char} {u : Text}

/-! ## Flags -/

theorem SameItems.find? {items items' : List FlagItem} (h : SameItems items items')
    (item : Option Flag) :
    (items.find? (·.1 == item)).isSome = (items'.find? (·.1 == item)).isSome := by
  have hmem : ∀ items : List FlagItem,
      (items.find? (·.1 == item)).isSome ↔ item ∈ items.map Prod.fst := by
    intro items
    simp [List.find?_isSome]
  rw [Bool.eq_iff_iff, hmem, hmem, h]

theorem SameItems.isEmpty {items items' : List FlagItem} (h : SameItems items items') :
    items.isEmpty = items'.isEmpty := by
  rw [← List.isEmpty_map, h, List.isEmpty_map]

theorem flagItems_close_matched {L : List FlagItem → Reading → Prop} (h : Abreast n n' s s')
    {items items' : List FlagItem} (hi : SameItems items items') :
    Matched L (flagItems.close items s) (flagItems.close items' s') := by
  have hlast := hi.getLast?
  unfold flagItems.close
  generalize items.getLast? = o at hlast
  generalize items'.getLast? = o' at hlast
  cases o with
  | none =>
    cases o' with
    | none => exact .pure h.toAkin
    | some item => cases hlast
  | some item =>
    cases o' with
    | none => cases hlast
    | some item' =>
      obtain ⟨flag, x⟩ := item
      obtain ⟨flag', x'⟩ := item'
      cases Option.some.inj hlast
      cases flag with
      | none => exact .errors rfl rfl
      | some f => exact .pure h.toAkin

theorem flagItems_atEnd (h : s.AtEnd) (fuel : Nat) (items : List FlagItem) :
    Astray (fun _ t => t.rest = [')']) (flagItems (fuel + 1) items s) := by
  rw [flagItems, here_bind, current_bind]
  rcases h with hr | hr <;> rw [hr]
  · change Astray _ (flagItems.close items s)
    unfold flagItems.close
    generalize items.getLast? = o
    split
    · exact .error _
    · exact .ok hr
  · exact .error _

/-- Where flags end with the pattern, the parenthesis ends them. -/
theorem flagItems_matched (h : Abreast n n' s s') (hn : n < fuel) (hn' : n' < fuel')
    {items items' : List FlagItem} (hi : SameItems items items') :
    Matched (fun _ t => t.rest = [')']) (flagItems fuel items s) (flagItems fuel' items' s') := by
  induction fuel generalizing n n' s s' fuel' items items' with
  | zero => exact absurd hn (Nat.not_lt_zero n)
  | succ fuel ih =>
    obtain ⟨fuel', rfl⟩ : ∃ k', fuel' = k' + 1 := ⟨fuel' - 1, by omega⟩
    cases hs : s.rest with
    | nil =>
      refine .of_error (e := ⟨.flagEnds, ⟨s.pos, s.pos⟩, none⟩) ?_
        (flagItems_atEnd (h.rest_nil hs) fuel' items')
      rw [flagItems, here_bind, current_bind, hs]
      rfl
    | cons c u =>
    obtain ⟨m, m', rfl, rfl⟩ := h.exists_succ hs
    refine .here fun p p' => .current h (fun c u hs => ?_) fun hr => nomatch hs.symm.trans hr
    by_cases hcolon : c = ':'
    · subst hcolon
      exact flagItems_close_matched h hi
    by_cases hclose : c = ')'
    · subst hclose
      exact flagItems_close_matched h hi
    simp only
    have hitem : ∀ item, Matched (fun _ t => t.rest = [')']) (takeItem fuel p items item s)
        (takeItem fuel' p' items' item s') := by
      intro item
      have hfind := hi.find? item
      rw [takeItem, takeItem]
      generalize items.find? (·.1 == item) = o at hfind
      generalize items'.find? (·.1 == item) = o' at hfind
      cases o with
      | some found =>
        cases o' with
        | some found' => exact .errors rfl rfl
        | none => cases hfind
      | none =>
        cases o' with
        | some found => cases hfind
        | none =>
          refine .bump h hs fun t t' ht hu => ?_
          cases u with
          | nil =>
            obtain ⟨k', rfl⟩ : ∃ k', fuel' = k' + 1 := ⟨fuel' - 1, by omega⟩
            exact .of_error rfl (flagItems_atEnd (ht.rest_nil hu) k' _)
          | cons d u => exact ih ht (by omega) (by omega) (hi.snoc item _ _)
    refine .ite (fun _ => hitem none) fun _ => ?_
    cases flag? c with
    | none => exact .errors rfl rfl
    | some f => exact hitem (some f)

theorem groupFlags_matched (h : Abreast n n' s s') (f : Flags) (inner inner' : Nat) :
    Matched (fun _ t => t.rest = []) (groupFlags f inner s) (groupFlags f inner' s') := by
  have hnil : SameItems [] [] := rfl
  refine .get (.bindAstray (flagItems_together h.toAlongside.tight (Nat.lt_succ_self _)
    (Nat.lt_succ_self _) hnil) (flagItems_matched h.tight (Nat.lt_succ_self _)
    (Nat.lt_succ_self _) hnil) (fun items t items' t' ht hitems => ?_) fun items' t' hr => ?_)
  · obtain ⟨hitems, hne⟩ := hitems
    refine .current ht (fun c u hr => ?_) fun hr _ => absurd hr hne
    refine .bumpAny ht fun _ t _ t' ht => ?_
    rw [hitems.isEmpty]
    exact .ite (fun _ => .ite (fun _ => .errors rfl rfl) fun _ => .pure ht.toAkin)
      fun _ => .pure ht.toAkin
  · rw [current_bind, hr, bind_ok (bump_eq hr)]
    change Astray _ ((if items'.isEmpty then failAt inner' inner' .repetitionMissing
      else return .flags (applyFlags f items') : Reads Opening) _)
    split
    · exact .error _
    · exact .ok rfl

/-! ## Names -/

theorem nameChars_until : Until '>'
    (fun (name : Text) c => if isNameChar name.isEmpty c then some (name ++ [c]) else none) bump
    nameChars where
  zero _ := rfl
  nil fuel name s hs := by
    rw [nameChars, current_bind, hs]
    rfl
  stop fuel name s u hs := by
    rw [nameChars, current_bind, hs]
    rfl
  refuse fuel name s c u hs hc hb := by
    rw [nameChars, current_bind, hs, List.head?_cons]
    simp only
    rw [if_neg fun hp => Option.some_ne_none _ ((if_pos hp).symm.trans hb)]
    exact ⟨_, rfl⟩
  take fuel name s c u b' hs hc hb := by
    rw [nameChars, current_bind, hs, List.head?_cons]
    simp only
    split at hb
    · rename_i hp
      cases hb
      rw [if_pos hp]
    · cases hb

theorem lookup_isSome {names names' : List (Text × Extent)}
    (h : names.map Prod.fst = names'.map Prod.fst) (name : Text) :
    (names.lookup name).isSome = (names'.lookup name).isSome := by
  have hmem : ∀ names : List (Text × Extent),
      (names.lookup name).isSome ↔ name ∈ names.map Prod.fst := by
    intro names
    simp [List.lookup_isSome_iff]
  rw [Bool.eq_iff_iff, hmem, hmem, h]

/-- A name does not go on with the parenthesis. -/
theorem groupName_matched {L : Unit → Reading → Prop} (h : Abreast n n' s s') :
    Matched L (groupName s) (groupName s') := by
  refine .here fun p p' => .current h (fun c u hs => .get ?_) fun hr hend => ?_
  · rcases nameChars_until.matched (by decide) (fun name => by simp [isNameChar_close]) moves_bump
      h.tight (Nat.le_refl _) (Nat.le_refl _) [] with hname | ⟨name, t, e, ha, hnil, he⟩
    · refine .bind (nameChars_together h.toAlongside.tight (Nat.le_refl _) (Nat.le_refl _) [])
        hname fun name t name' t' ht hname => .here fun q q' => ?_
      cases hname
      refine .bumpIf (by decide) ht fun m t t' ht => ?_
      refine .ite (fun _ => .errors rfl rfl) fun _ => .ite (fun _ => .errors rfl rfl)
        fun _ => .get ?_
      have hlookup := lookup_isSome ht.names name
      generalize t.names.lookup name = o at hlookup
      generalize t'.names.lookup name = o' at hlookup
      cases o <;> cases o'
      · exact .ok ⟨ht.late, congrArg (name :: ·) ht.names⟩
      · cases hlookup
      · cases hlookup
      · exact .errors rfl rfl
    · have hb : bumpIf ['>'] t = .ok (false, t) := if_neg (by rw [hnil]; decide)
      rw [bind_ok ha, bind_error he, here_bind, bind_ok hb]
      exact .errors rfl rfl
  · rcases hend with hr' | hr' <;> rw [hr']
    · obtain ⟨e, he⟩ := nameChars_until.refuse 0 [] s' ')' [] hr' (by decide)
        (by simp [isNameChar_close])
      refine .errors rfl (?_ : _ = Except.error e)
      rw [if_neg (by simp), bind_ok (x := get) (a := s') (t := s') rfl, hr']
      exact bind_error he
    · exact .errors rfl rfl

/-! ## Openings -/

theorem lookAround_quiet : Quiet lookAround :=
  .bind (.bumpIf _) fun _ => .ite (.pure _) <| .bind (.bumpIf _) fun _ => .ite (.pure _) <|
    .bind (.bumpIf _) fun _ => .ite (.pure _) (.bumpIf _)

theorem nextIndex_quiet : Quiet nextIndex := fun _ => ⟨_, _, rfl, rfl, rfl⟩

theorem groupOpen_matched (h : Abreast (n + 1) (n' + 1) s s') (hs : s.rest = c :: u) :
    Matched (fun _ t => t.rest = []) (groupOpen s) (groupOpen s') := by
  refine .here fun p p' => .bump h hs fun t t' ht _ => .skipBlank ?_
  replace ht := ht.blanked
  generalize t.blanked = t, t'.blanked = t' at ht
  refine .here fun q q' => .bindQuiet (lookAround_together ht.toAlongside) lookAround_quiet
    lookAround_quiet ht.toAkin fun look t _ t' ht hlook => ?_
  cases hlook
  refine .ite (fun _ => .errors rfl rfl) fun _ => .flags ht ?_
  have hnamed : ∀ {r r'}, Abreast n n' r r' → Matched (fun _ t => t.rest = [])
      ((do
        let index ← nextIndex
        groupName
        return .group t.flags (some index) : Reads Opening) r)
      ((do
        let index ← nextIndex
        groupName
        return .group t.flags (some index) : Reads Opening) r') := by
    intro r r' hr
    refine .bindQuiet (nextIndex_together hr.toAlongside) nextIndex_quiet nextIndex_quiet hr.toAkin
      fun i t i' t' ht hi => ?_
    cases hi
    exact .bind (groupName_together ht.toAlongside) (groupName_matched ht)
      fun _ t _ t' ht _ => .pure ht.toAkin
  refine .bumpIf (by decide) ht fun m t t' ht => ?_
  refine .ite (fun _ => hnamed ht) fun _ => ?_
  refine .bumpIf (by decide) ht fun m t t' ht => ?_
  refine .ite (fun _ => hnamed ht) fun _ => ?_
  refine .bumpIf (by decide) ht fun m t t' ht => ?_
  refine .ite (fun _ => .current ht (fun c u hr => ?_) fun hr hend => ?_) fun _ => ?_
  · exact groupFlags_matched ht _ q q'
  · -- the parenthesis ends no flags, and a group is not opened by a question mark alone
    rcases hend with hr' | hr' <;> rw [hr']
    · refine .errors rfl (?_ : _ = Except.error ⟨.repetitionMissing, ⟨q', q'⟩, none⟩)
      rw [if_neg (by simp)]
      obtain ⟨pos, rest, f, groups, names, late⟩ := t'
      obtain rfl : rest = [')'] := hr'
      rfl
    · exact .errors rfl rfl
  · refine .bindQuiet (nextIndex_together ht.toAlongside) nextIndex_quiet nextIndex_quiet ht.toAkin
      fun i t i' t' ht hi => ?_
    cases hi
    exact .pure ht.toAkin

end Descent.Pattern
