import Descent.Proofs.Pattern.Class

/-! # Group openings inside a group

What reads the start of a group comes to the same flags and number with a closing parenthesis behind
the pattern. -/
namespace Descent.Pattern

variable {behind : Text} {n n' fuel fuel' : Nat} {s s' : Reading} {c : Char} {u : Text}

/-- The same flags and hyphens, wherever they stand. -/
def SameItems (items items' : List FlagItem) : Prop := items.map Prod.fst = items'.map Prod.fst

theorem SameItems.snoc {items items' : List FlagItem} (h : SameItems items items')
    (item : Option Flag) (x x' : Extent) :
    SameItems (items ++ [(item, x)]) (items' ++ [(item, x')]) := by
  rw [SameItems, List.map_append, List.map_append, h]
  rfl

/-- What an item does to the flags: a hyphen turns those after it off. -/
def putItem (p : Bool × Flags) : Option Flag → Bool × Flags
  | none => (false, p.2)
  | some flag => (p.1, flag.put p.1 p.2)

theorem applyFlags_eq (f : Flags) (items : List FlagItem) :
    applyFlags f items = ((items.map Prod.fst).foldl putItem (true, f)).2 := by
  rw [List.foldl_map]
  refine congrArg (fun g => (items.foldl g (true, f)).2) (funext fun p => funext fun item => ?_)
  obtain ⟨_ | flag, x⟩ := item <;> rfl

theorem SameItems.applyFlags {items items' : List FlagItem} (h : SameItems items items')
    (f : Flags) : applyFlags f items = applyFlags f items' := by
  rw [applyFlags_eq, applyFlags_eq, h]

theorem SameItems.getLast? {items items' : List FlagItem} (h : SameItems items items') :
    items.getLast?.map Prod.fst = items'.getLast?.map Prod.fst := by
  rw [← List.getLast?_map, ← List.getLast?_map, h]

theorem flagItems_close_together (h : Alongside behind n n' s s') (hs : s.rest ≠ [])
    {items items' : List FlagItem} (hi : SameItems items items') :
    Together behind (fun a b t => SameItems a b ∧ t.rest ≠ []) n n' (flagItems.close items s)
      (flagItems.close items' s') := by
  have hlast := hi.getLast?
  unfold flagItems.close
  cases hl : items.getLast? with
  | none =>
    cases hl' : items'.getLast? with
    | none => exact .pure h ⟨hi, hs⟩
    | some item =>
      rw [hl, hl'] at hlast
      cases hlast
  | some item =>
    obtain ⟨flag, x⟩ := item
    cases flag with
    | none => exact .error rfl
    | some f =>
      cases hl' : items'.getLast? with
      | none =>
        rw [hl, hl'] at hlast
        cases hlast
      | some item =>
        obtain ⟨flag, x'⟩ := item
        rw [hl, hl'] at hlast
        cases Option.some.inj hlast
        exact .pure h ⟨hi, hs⟩

/-- What `flagItems` does with an item that it has read at `p`. -/
def takeItem (fuel p : Nat) (items : List FlagItem) (item : Option Flag) : Reads (List FlagItem) :=
  match items.find? (·.1 == item) with
  | some (_, x) =>
    failAt p (p + 1) (if item.isNone then .negationRepeated else .flagDuplicate) (some x)
  | none => do
    if ← bump then flagItems fuel (items ++ [(item, ⟨p, p + 1⟩)])
    else failAt (p + 1) (p + 1) .flagEnds

/-- Flags end before the end of the pattern. -/
theorem flagItems_together (h : Alongside behind n n' s s') (hn : n < fuel) (hn' : n' < fuel')
    {items items' : List FlagItem} (hi : SameItems items items') :
    Together behind (fun a b t => SameItems a b ∧ t.rest ≠ []) n n' (flagItems fuel items s)
      (flagItems fuel' items' s') := by
  induction fuel generalizing n n' s s' fuel' items items' with
  | zero => exact absurd hn (Nat.not_lt_zero n)
  | succ fuel ih =>
    obtain ⟨k', rfl⟩ : ∃ k', fuel' = k' + 1 := ⟨fuel' - 1, by omega⟩
    refine .here fun p p' => .current h (fun c u hs => ?_) fun _ _ _ => .error rfl
    have hne : s.rest ≠ [] := by
      rw [hs]
      exact nofun
    obtain ⟨m, m', rfl, rfl⟩ := h.exists_succ hs
    by_cases hcolon : c = ':'
    · subst hcolon
      exact flagItems_close_together h hne hi
    by_cases hclose : c = ')'
    · subst hclose
      exact flagItems_close_together h hne hi
    simp only
    have hitem : ∀ item, Together behind (fun a b t => SameItems a b ∧ t.rest ≠ []) (m + 1) (m' + 1)
        (takeItem fuel p items item s) (takeItem k' p' items' item s') := by
      intro item
      rw [takeItem, takeItem]
      cases items.find? (·.1 == item) with
      | some found => exact .error rfl
      | none =>
        cases items'.find? (·.1 == item) with
        | some found => exact .error' rfl
        | none =>
          refine .bind (bump_together h hs) fun a t b t' ht hab => ?_
          obtain ⟨hab, -, -⟩ := hab
          cases a with
          | false => exact .error rfl
          | true =>
            rw [hab rfl]
            exact (ih ht (by omega) (by omega) (hi.snoc item _ _)).succ
    refine .ite (fun _ => hitem none) fun _ => ?_
    cases flag? c with
    | none => exact .error rfl
    | some f => exact hitem (some f)

theorem isNameChar_close (first : Bool) : isNameChar first ')' = false := by
  cases first <;> decide

theorem nameChars_together (h : Alongside behind n n' s s') (hn : n ≤ fuel) (hn' : n' ≤ fuel')
    (name : Text) : Together behind (fun a b _ => a = b) n n' (nameChars fuel name s)
      (nameChars fuel' name s') := by
  have hnil : ∀ {r : Reading}, r.rest = [] → ∀ fuel name,
      nameChars fuel name r = .ok (name, r) := by
    intro r hr fuel name
    cases fuel with
    | zero => rfl
    | succ fuel =>
      rw [nameChars, current_bind, hr]
      rfl
  have hstop : ∀ {n n' s s'}, Alongside behind n n' s s' → s.rest = [] → ∀ fuel fuel' name,
      Together behind (fun a b _ => a = b) n n' (nameChars fuel name s)
        (nameChars fuel' name s') := by
    intro n n' s s' h hs fuel fuel' name
    rw [hnil hs]
    rcases h.rest_nil hs with hr | hr
    · cases fuel' with
      | zero => exact .pure h rfl
      | succ fuel' =>
        rw [nameChars, current_bind, hr]
        change Together behind _ n n' _
          ((if isNameChar name.isEmpty ')' = true then _ else _ : Reads Text) s')
        rw [isNameChar_close]
        exact .error' rfl
    · rw [hnil hr]
      exact .pure h rfl
  induction fuel generalizing n n' s s' fuel' name with
  | zero => exact hstop h (h.nil_of_le_zero hn) _ _ _
  | succ fuel ih =>
    cases hs : s.rest with
    | nil => exact hstop h hs _ _ _
    | cons c u =>
      obtain ⟨m, m', k, k', rfl, rfl, ⟨⟩, rfl, hm, hm'⟩ := h.fuel_succ hs hn hn'
      refine .current h (fun c u hs => ?_) fun hr => nomatch hs.symm.trans hr
      by_cases hc : c = '>'
      · subst hc
        exact .pure h rfl
      · simp only
        refine .ite (fun _ => ?_) fun _ => .error rfl
        exact .bind (bump_together h hs) fun _ t _ t' ht _ => (ih ht hm hm' _).succ

theorem groupName_together (h : Alongside behind n n' s s') :
    Together behind (fun _ _ _ => True) n n' (groupName s) (groupName s') := by
  refine .here fun p p' => .currentSome h rfl fun c u hs => .get ?_
  refine .bind ((nameChars_together h.tight (Nat.le_refl _) (Nat.le_refl _) []).mono h.le h.le'
    fun _ _ _ => id) fun name t name' t' ht hname => ?_
  cases hname
  refine .here fun q q' => .bind (bumpIf_together ht (by decide)) fun m t m' t' ht hm => ?_
  cases hm
  refine .ite (fun _ => .error rfl) fun _ => .ite (fun _ => .error rfl) fun _ => .get ?_
  cases t.names.lookup name with
  | some x => exact .error rfl
  | none =>
    cases t'.names.lookup name with
    | some x => exact .error' rfl
    | none =>
      rintro _ _ _ _ ⟨⟩ ⟨⟩
      exact ⟨{ ht with }, trivial⟩

theorem lookAround_together (h : Alongside behind n n' s s') :
    Together behind (fun a b _ => a = b) n n' (lookAround s) (lookAround s') := by
  refine .bind (bumpIf_together h (by decide)) fun m t _ t' ht hm => ?_
  cases hm
  refine .ite (fun _ => .pure ht rfl) fun _ => ?_
  refine .bind (bumpIf_together ht (by decide)) fun m t _ t' ht hm => ?_
  cases hm
  refine .ite (fun _ => .pure ht rfl) fun _ => ?_
  refine .bind (bumpIf_together ht (by decide)) fun m t _ t' ht hm => ?_
  cases hm
  exact .ite (fun _ => .pure ht rfl) fun _ => bumpIf_together ht (by decide)

theorem nextIndex_together (h : Alongside behind n n' s s') :
    Together behind (fun a b _ => a = b) n n' (nextIndex s) (nextIndex s') := by
  rintro _ _ _ _ ⟨⟩ ⟨⟩
  have hgroups : s'.groups + 1 = s.groups + 1 := congrArg (· + 1) h.groups
  exact ⟨{ h with groups := hgroups }, hgroups.symm⟩

/-- The flags that follow a question mark, and whether they make a group. -/
def groupFlags (f : Flags) (inner : Nat) : Reads Opening := do
  let items ← flagItems ((← get).rest.length + 1) []
  let closing ← current?
  let _ ← bump
  if closing = some ')' then
    if items.isEmpty then failAt inner inner .repetitionMissing
    else return .flags (applyFlags f items)
  else return .group (applyFlags f items) none

theorem groupFlags_together (h : Alongside behind n n' s s') (f : Flags) (inner inner' : Nat) :
    Together behind (fun a b _ => a = b) n n' (groupFlags f inner s) (groupFlags f inner' s') := by
  have hnil : SameItems [] [] := rfl
  refine .get (.bind ((flagItems_together h.tight (Nat.lt_succ_self _) (Nat.lt_succ_self _)
    hnil).mono h.le h.le' fun _ _ _ => id) fun items t items' t' ht hitems => ?_)
  obtain ⟨hitems, hne⟩ := hitems
  refine .current ht (fun c u hr => ?_) fun hr => absurd hr hne
  refine .bind (bump_together_any ht) fun _ t _ t' ht _ => ?_
  have hflags := hitems.applyFlags f
  refine .ite (fun _ => .guard rfl rfl fun _ => .pure ht ?_) fun _ => .pure ht ?_
  · rw [hflags]
  · rw [hflags]

theorem groupOpen_together (h : Alongside behind (n + 1) (n' + 1) s s') (hs : s.rest = c :: u) :
    Together behind (fun a b _ => a = b) n n' (groupOpen s) (groupOpen s') := by
  refine .here fun p p' => .bind (bump_together h hs) fun _ t _ t' ht _ => ?_
  refine .bind (skipBlank_together ht) fun _ t _ t' ht _ => .here fun q q' => ?_
  refine .bind (lookAround_together ht) fun look t _ t' ht hlook => ?_
  cases hlook
  refine .ite (fun _ => .error rfl) fun _ => .flags ht ?_
  have hnamed : ∀ {r r'}, Alongside behind n n' r r' → Together behind (fun a b _ => a = b) n n'
      ((do
        let index ← nextIndex
        groupName
        return .group t.flags (some index) : Reads Opening) r)
      ((do
        let index ← nextIndex
        groupName
        return .group t.flags (some index) : Reads Opening) r') := by
    intro r r' hr
    refine .bind (nextIndex_together hr) fun i t i' t' ht hi => ?_
    cases hi
    exact .bind (groupName_together ht) fun _ t _ t' ht _ => .pure ht rfl
  refine .bind (bumpIf_together ht (by decide)) fun m t _ t' ht hm => ?_
  cases hm
  refine .ite (fun _ => hnamed ht) fun _ => ?_
  refine .bind (bumpIf_together ht (by decide)) fun m t _ t' ht hm => ?_
  cases hm
  refine .ite (fun _ => hnamed ht) fun _ => ?_
  refine .bind (bumpIf_together ht (by decide)) fun m t _ t' ht hm => ?_
  cases hm
  refine .ite (fun _ => ?_) fun _ => ?_
  · exact .currentSome ht rfl fun c u hr => groupFlags_together ht _ q q'
  · refine .bind (nextIndex_together ht) fun i t i' t' ht hi => ?_
    cases hi
    exact .pure ht rfl

end Descent.Pattern
