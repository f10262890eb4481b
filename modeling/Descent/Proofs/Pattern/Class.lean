import Descent.Proofs.Pattern.Escape
import Mathlib.Data.List.Forall2

/-! # Classes inside a group

What reads a bracketed class comes to the same set with a closing parenthesis behind the pattern. -/
namespace Descent.Pattern

variable {behind : Text} {n n' fuel fuel' : Nat} {s s' : Reading} {c : Char} {u : Text}

/-- As deep in all its parts, wherever they stand. -/
inductive Nest.Same : Nest → Nest → Prop where
  | node (x x' : Extent) {inside inside' : List Nest} :
    List.Forall₂ Nest.Same inside inside' → Same (.node x inside) (.node x' inside')

abbrev SameNests : List Nest → List Nest → Prop := List.Forall₂ Nest.Same

theorem SameNests.gather {nests nests' : List Nest} (h : SameNests nests nests') (several : Bool)
    (x x' : Extent) : SameNests (Nest.gather several x nests) (Nest.gather several x' nests') := by
  cases several with
  | true => exact .cons (.node x x' h) .nil
  | false => exact h

/-- The same set, made of as many items. -/
structure Found.Same (f f' : Found) : Prop where
  set : f.set = f'.set
  items : f.items = f'.items
  nests : SameNests f.nests f'.nests

theorem Found.Same.add {f f' : Found} (h : f.Same f') (set : CharSet) (x x' : Extent)
    {nests nests' : List Nest} (hn : SameNests nests nests') :
    (f.add set x nests).Same (f'.add set x' nests') :=
  ⟨congrArg (CharSet.union · set) h.set, congrArg (· + 1) h.items, List.rel_append h.nests hn⟩

structure Side.Same (a a' : Side) : Prop where
  set : a.set = a'.set
  nests : SameNests a.nests a'.nests

inductive ClassFrame.Same : ClassFrame → ClassFrame → Prop where
  | opened (x x' : Extent) (negated : Bool) {outer outer' : Found} :
    outer.Same outer' → Same (.opened x negated outer) (.opened x' negated outer')
  | operation (op : ClassOp) {left left' : Side} :
    left.Same left' → Same (.operation op left) (.operation op left')

theorem finishSet_together (h : Alongside behind n n' s s') (x x' : Extent) (negated : Bool)
    (set : CharSet) : Together behind (fun a b _ => a = b) n n'
      (finishSet x negated set s) (finishSet x' negated set s') :=
  .flags h (.ite (fun _ => complement_together h _ _ _) fun _ => .pure h rfl)

/-- Where no colon comes the name of a class does not end, with the parenthesis or without. -/
theorem takeWhile_close (t : Text) :
    (t.dropWhile (· != ':') = [] ∧ (t ++ [')']).dropWhile (· != ':') = []) ∨
      ((t ++ [')']).takeWhile (· != ':') = t.takeWhile (· != ':') ∧
        (t ++ [')']).dropWhile (· != ':') = t.dropWhile (· != ':') ++ [')']) := by
  induction t with
  | nil => exact .inl ⟨rfl, rfl⟩
  | cons c t ih =>
    rw [List.cons_append, List.dropWhile_cons, List.dropWhile_cons, List.takeWhile_cons,
      List.takeWhile_cons]
    split
    · exact ih.imp id fun ⟨ht, hd⟩ => ⟨by rw [ht], hd⟩
    · exact .inr ⟨rfl, rfl⟩

theorem takeWhile_behind (h : behind = [] ∨ behind = [')']) (t : Text) :
    (t.dropWhile (· != ':') = [] ∧ (t ++ behind).dropWhile (· != ':') = []) ∨
      ((t ++ behind).takeWhile (· != ':') = t.takeWhile (· != ':') ∧
        (t ++ behind).dropWhile (· != ':') = t.dropWhile (· != ':') ++ behind) := by
  rcases h with rfl | rfl
  · exact .inr ⟨by rw [List.append_nil], by rw [List.append_nil, List.append_nil]⟩
  · exact takeWhile_close t

theorem drop_length_takeWhile (p : Char → Bool) (t : Text) :
    t.drop (t.takeWhile p).length = t.dropWhile p := by
  have h := congrArg (List.drop (t.takeWhile p).length) ((@List.takeWhile_append_dropWhile _ p t))
  rw [List.drop_left] at h
  exact h.symm

theorem asciiClass_together (h : Alongside behind n n' s s') :
    Together behind (fun a b _ => a.map Prod.fst = b.map Prod.fst) n n' (asciiClass s)
      (asciiClass s') := by
  refine .get (.bind (bumpIf_together h (by decide)) fun m t m' t' ht hm => ?_)
  cases hm
  refine .ite (fun _ => ?_) fun _ => .pure ht rfl
  refine .bind (bumpIf_together ht (by decide)) fun m t m' t' ht hm => .get ?_
  cases hm
  have hback : Together behind (fun a b _ => a.map Prod.fst = b.map Prod.fst) n n'
      ((do set s; return none : Reads (Option (CharSet × Extent))) t)
      ((do set s'; return none : Reads (Option (CharSet × Extent))) t') := by
    rintro _ _ _ _ ⟨⟩ ⟨⟩
    exact ⟨h, rfl⟩
  simp only [drop_length_takeWhile]
  rcases ht.rest with hr | ⟨hr, hr'⟩
  · rw [hr]
    rcases takeWhile_behind ht.behind_eq t.rest with ⟨hd, hd'⟩ | ⟨hw, hd⟩
    · rw [hd, hd']
      generalize asciiClass? _ = x
      generalize asciiClass? _ = y
      cases x <;> cases y <;> exact hback
    · rw [hw, hd]
      have hlen := (List.dropWhile_suffix (l := t.rest) (· != ':')).length_le
      have hle' := ht.le'
      rw [hr] at hle'
      generalize asciiClass? _ = x
      generalize t.rest.dropWhile (· != ':') = d at hlen
      by_cases hclose : ∃ rest, d = ':' :: ']' :: rest
      · obtain ⟨rest, rfl⟩ := hclose
        cases x with
        | none => exact hback
        | some named =>
          simp only [List.cons_append]
          have hle := Nat.le_trans hlen ht.le
          simp only [List.length_cons, List.length_append] at hle hle' hlen
          refine .bind (.set (k := n) (l := n')
            ⟨ht.behind_eq, ht.flags, ht.groups, .inl rfl, ?_, ?_⟩) fun _ t _ t' ht _ =>
              .here fun p p' => .bind (finishSet_together ht _ _ _ _) fun a t b t' ht hab => ?_
          · simp only
            omega
          · simp only [List.length_append]
            omega
          · cases hab
            exact .pure ht rfl
      · have hclose' : ¬∃ rest, d ++ behind = ':' :: ']' :: rest := by
          rintro ⟨rest, he⟩
          rcases ht.behind_eq with rfl | rfl
          · exact hclose ⟨rest, by rwa [List.append_nil] at he⟩
          · rcases d with _ | ⟨a, _ | ⟨b, d⟩⟩
            · cases he
            · cases he
            · cases he
              exact hclose ⟨d, rfl⟩
        generalize d ++ behind = d' at hclose'
        split
        · exact absurd ⟨_, rfl⟩ hclose
        · split
          · exact absurd ⟨_, rfl⟩ hclose'
          · exact hback
  · rw [hr, hr']
    generalize asciiClass? _ = x
    cases x <;> exact hback

/-! ## Openings -/

theorem hyphens_stop (hs : s.rest.head? ≠ some '-') (start fuel : Nat) (found : Found) :
    classOpen.hyphens start fuel found s = .ok (found, s) := by
  cases fuel with
  | zero => rfl
  | succ fuel =>
    change (if s.rest.head? = some '-' then _ else _ : Reads Found) s = _
    rw [if_neg hs]
    rfl

theorem hyphens_together (h : Alongside behind n n' s s') (hn : n ≤ fuel) (hn' : n' ≤ fuel')
    (start start' : Nat) {found found' : Found} (hf : found.Same found') :
    Together behind (fun a b _ => a.Same b) n n' (classOpen.hyphens start fuel found s)
      (classOpen.hyphens start' fuel' found' s') := by
  have hstop : ∀ {n n' s s'}, Alongside behind n n' s s' → s.rest.head? ≠ some '-' →
      ∀ fuel fuel' {found found' : Found}, found.Same found' →
        Together behind (fun a b _ => a.Same b) n n'
        (classOpen.hyphens start fuel found s) (classOpen.hyphens start' fuel' found' s') := by
    intro n n' s s' h hs fuel fuel' found found' hf
    rw [hyphens_stop hs, hyphens_stop]
    · exact .pure h hf
    · cases hr : s.rest with
      | nil => rcases h.rest_nil hr with hr' | hr' <;> simp [hr']
      | cons c u =>
        rw [h.rest_cons hr]
        rw [hr] at hs
        exact hs
  induction fuel generalizing n n' s s' fuel' found found' with
  | zero => exact hstop h (by simp [h.nil_of_le_zero hn]) _ _ hf
  | succ fuel ih =>
    by_cases hc : s.rest.head? = some '-'
    · obtain ⟨u, hs⟩ := List.head?_eq_some_iff.1 hc
      obtain ⟨m, m', k, k', rfl, rfl, ⟨⟩, rfl, hm, hm'⟩ := h.fuel_succ hs hn hn'
      refine .here fun p p' => .currentIs (by decide) h (fun u hs => ?_) fun hne => absurd hc hne
      refine .bind (bumpBlank_together h hs) fun more t _ t' ht hmore => .more hmore rfl fun _ => ?_
      exact (ih ht hm hm' (hf.add _ _ _ .nil)).succ
    · exact hstop h hc _ _ hf

theorem classOpen_finish_together (h : Alongside behind n n' s s') (start start' : Nat)
    (negated : Bool) :
    Together behind (fun a b _ => a.2.1 = b.2.1 ∧ a.2.2.Same b.2.2) n n'
      (classOpen.finish start negated s) (classOpen.finish start' negated s') := by
  refine Together.mono ?_ h.le h.le' fun _ _ _ => id
  refine .here fun p p' => .get (.bind (hyphens_together h.tight (Nat.le_refl _) (Nat.le_refl _)
    start start' ⟨rfl, rfl, .nil⟩) fun f t f' t' ht hf => ?_)
  have hrest : Together behind (fun a b _ => a.2.1 = b.2.1 ∧ a.2.2.Same b.2.2)
      s.rest.length s'.rest.length
      ((do return (⟨start, ← here⟩, negated, f) : Reads (Extent × Bool × Found)) t)
      ((do return (⟨start', ← here⟩, negated, f') : Reads (Extent × Bool × Found)) t') :=
    .here fun q q' => .pure ht ⟨rfl, hf⟩
  refine .current ht (fun c u hr => ?_) fun _ o ho => ?_
  · rw [hf.items]
    refine .ite (fun _ => ?_) fun _ => hrest
    refine .bind (bumpBlank_together_any ht) fun m t _ t' ht hm => .more hm rfl fun _ => ?_
    exact .here fun q q' => .pure ht ⟨rfl, hf.add _ _ _ .nil⟩
  · rw [if_neg (by simp), if_neg (by rcases ho with rfl | rfl <;> simp)]
    exact hrest

/-- The bound is that of the move past the bracket. -/
theorem classOpen_together
    (h : Together behind (fun a b _ => a = true → b = true) n n' (bumpBlank s) (bumpBlank s')) :
    Together behind (fun a b _ => a.2.1 = b.2.1 ∧ a.2.2.Same b.2.2) n n' (classOpen s)
      (classOpen s') := by
  refine .here fun p p' => .bind h fun m t _ t' ht hm => .more hm rfl fun _ => ?_
  refine .current ht (fun c u hr => .ite (fun _ => ?_) fun _ => ?_) fun hr o ho => ?_
  · refine .bind (bumpBlank_together_any ht) fun m t _ t' ht hm => .more hm rfl fun _ => ?_
    exact classOpen_finish_together ht p p' true
  · exact classOpen_finish_together ht p p' false
  · rw [if_neg (by simp), if_neg (by rcases ho with rfl | rfl <;> simp)]
    exact classOpen_finish_together ht p p' false

/-! ## Members -/

theorem classUnclosed_error {α : Type} (frames : List ClassFrame) (s : Reading) :
    ∃ e, (classUnclosed frames : Reads α) s = .error e := by
  induction frames with
  | nil => exact ⟨_, rfl⟩
  | cons frame frames ih =>
    cases frame with
    | opened x negated outer => exact ⟨_, rfl⟩
    | operation op left => exact ih

theorem classItem_next (h : Alongside behind (n + 1) (n' + 1) s s') (hs : s.rest = c :: u) :
    Together behind (fun a b _ => a.primitive = b.primitive) n n' (classItem s) (classItem s') := by
  refine .here fun p p' => .current h (fun c u hs => ?_) fun hr => nomatch hs.symm.trans hr
  by_cases hc : c = '\\'
  · subst hc
    exact escape_together h hs
  · simp only
    exact .bind (bump_together h hs) fun _ t _ t' ht _ => .pure ht rfl

theorem classItem_together (h : Alongside behind n n' s s') :
    Together behind (fun a b _ => a.primitive = b.primitive) n n' (classItem s) (classItem s') := by
  cases hs : s.rest with
  | nil =>
    refine .here fun p p' => .current h (fun c u hr => ?_) fun _ _ _ => .error rfl
    cases hs.symm.trans hr
  | cons c u =>
    obtain ⟨m, m', rfl, rfl⟩ := h.exists_succ hs
    exact (classItem_next h hs).succ

theorem member_together (h : Alongside behind n n' s s') (x x' : Extent) (c : Char) :
    Together behind (fun _ _ _ => True) n n' (member x c s) (member x' c s') :=
  .flags h (.ite (fun _ => failLate_together h _ _ _ _) fun _ => .pure h trivial)

theorem toSet_together (h : Alongside behind n n' s s') {a b : Placed}
    (hab : a.primitive = b.primitive) :
    Together behind (fun a b _ => a = b) n n' (a.toSet s) (b.toSet s') := by
  unfold Placed.toSet
  rw [hab]
  cases b.primitive with
  | literal c => exact .bind (member_together h _ _ _) fun _ t _ t' ht _ => .pure ht rfl
  | set s => exact .pure h rfl
  | anchor a => exact .error rfl

theorem toBound_together (h : Alongside behind n n' s s') {a b : Placed}
    (hab : a.primitive = b.primitive) :
    Together behind (fun a b _ => a = b) n n' (a.toBound s) (b.toBound s') := by
  unfold Placed.toBound
  rw [hab]
  cases b.primitive with
  | literal c => exact .pure h rfl
  | set s => exact .error rfl
  | anchor a => exact .error rfl

theorem dropWhile_close (t : Text) : (t ++ [')']).dropWhile Unicode.isWhiteSpace =
    t.dropWhile Unicode.isWhiteSpace ++ [')'] := by
  induction t with
  | nil => rfl
  | cons c t ih =>
    rw [List.cons_append, List.dropWhile_cons, List.dropWhile_cons, ih]
    split <;> rfl

/-- A character that ends no range: the text is blank up to its end or up to a comment. -/
theorem head?_of_blank {t : Text} (h : ∀ c ∈ (t.dropWhile Unicode.isWhiteSpace).head?, c = '#') :
    ¬(t.head? = some ']' ∨ t.head? = some '-') := by
  cases t with
  | nil => simp
  | cons c t =>
    rw [List.dropWhile_cons] at h
    rintro (hc | hc) <;> cases hc
    · exact absurd (h ']' rfl) (by decide)
    · exact absurd (h '-' rfl) (by decide)

/-- What `peekBlank?` comes to where `t` is left. -/
def peekedAt (extended : Bool) (t : Text) : Option Char :=
  if !extended then t.tail.head?
  else match t.tail.dropWhile Unicode.isWhiteSpace with
    | [] => t.tail.head?
    | '#' :: rest => match rest.dropWhile Unicode.isWhiteSpace with
      | [] => t.tail.head?
      | c :: _ => some c
    | c :: _ => some c

theorem peekBlank_eq (s : Reading) : peekBlank? s = .ok (peekedAt s.flags.extended s.rest, s) := by
  rw [peekedAt]
  change (if !s.flags.extended then pure s.rest.tail.head?
    else match s.rest.tail.dropWhile Unicode.isWhiteSpace with
      | [] => pure s.rest.tail.head?
      | '#' :: rest => match rest.dropWhile Unicode.isWhiteSpace with
        | [] => pure s.rest.tail.head?
        | c :: _ => pure (some c)
      | c :: _ => pure (some c) : Reads (Option Char)) s = _
  cases s.flags.extended with
  | false => rfl
  | true =>
    cases s.rest.tail.dropWhile Unicode.isWhiteSpace with
    | nil => rfl
    | cons d v =>
      by_cases hhash : d = '#'
      · subst hhash
        simp only
        cases v.dropWhile Unicode.isWhiteSpace <;> rfl
      · simp only
        rfl

/-- A parenthesis behind the text ends no range either. -/
theorem peekedAt_close (extended : Bool) (c : Char) (u : Text) :
    (peekedAt extended (c :: u) = some ']' ∨ peekedAt extended (c :: u) = some '-') ↔
      (peekedAt extended (c :: (u ++ [')'])) = some ']' ∨
        peekedAt extended (c :: (u ++ [')'])) = some '-') := by
  rw [peekedAt, peekedAt]
  cases extended with
  | false => cases u <;> simp
  | true =>
    simp only [List.tail_cons, dropWhile_close]
    cases hd : u.dropWhile Unicode.isWhiteSpace with
    | nil => exact iff_of_false (head?_of_blank (by rw [hd]; exact nofun)) (by simp)
    | cons d v =>
      by_cases hhash : d = '#'
      · subst hhash
        simp only [List.cons_append, dropWhile_close]
        cases hv : v.dropWhile Unicode.isWhiteSpace with
        | nil =>
          refine iff_of_false (head?_of_blank ?_) (by simp)
          rw [hd]
          rintro _ ⟨⟩
          rfl
        | cons e v => exact Iff.rfl
      · simp only [List.cons_append]
        exact Iff.rfl

theorem peekBlank_together (h : Alongside behind n n' s s') (hs : s.rest = c :: u) :
    Together behind (fun a b _ => (a = some ']' ∨ a = some '-') ↔ (b = some ']' ∨ b = some '-'))
      n n' (peekBlank? s) (peekBlank? s') := by
  rw [peekBlank_eq, peekBlank_eq, hs, h.rest_cons hs, h.flags]
  rintro _ _ _ _ ⟨⟩ ⟨⟩
  refine ⟨h, ?_⟩
  rcases h.behind_eq with rfl | rfl
  · rw [List.append_nil]
  · exact peekedAt_close _ _ _

/-- The range between two items. -/
def rangeOf (first last : Placed) : Reads (CharSet × Extent) := do
  let a ← first.toBound
  let b ← last.toBound
  let x : Extent := ⟨first.extent.start, last.extent.stop⟩
  if b < a then failAt x.start x.stop .classRangeInvalid
  else
    member first.extent a
    member last.extent b
    return (.range a b, x)

theorem rangeOf_together (h : Alongside behind n n' s s') {first first' last last' : Placed}
    (hfirst : first.primitive = first'.primitive) (hlast : last.primitive = last'.primitive) :
    Together behind (fun a b _ => a.1 = b.1) n n' (rangeOf first last s)
      (rangeOf first' last' s') := by
  refine .bind (toBound_together h hfirst) fun a t a' t' ht ha => ?_
  refine .bind (toBound_together ht hlast) fun b t b' t' ht hb => ?_
  cases ha
  cases hb
  refine .ite (fun _ => .error rfl) fun _ => ?_
  refine .bind (member_together ht _ _ a) fun _ t _ t' ht _ => ?_
  refine .bind (member_together ht _ _ b) fun _ t _ t' ht _ => ?_
  exact .pure ht rfl

/-- What `classRange` reads behind its first item. -/
def rangeRest (frames : List ClassFrame) (first : Placed) : Reads (CharSet × Extent) := do
  skipBlank
  match ← current? with
  | none => classUnclosed frames
  | some c =>
    let next ← peekBlank?
    if c ≠ '-' ∨ next = some ']' ∨ next = some '-' then return (← first.toSet, first.extent)
    else if !(← bumpBlank) then classUnclosed frames
    else rangeOf first (← classItem)

theorem rangeRest_together (h : Alongside behind n n' s s') (frames frames' : List ClassFrame)
    {first first' : Placed} (hfirst : first.primitive = first'.primitive) :
    Together behind (fun a b _ => a.1 = b.1) n n' (rangeRest frames first s)
      (rangeRest frames' first' s') := by
  refine .bind (skipBlank_together h) fun _ t _ t' ht _ => ?_
  refine .current ht (fun c u hr => ?_) fun _ _ _ =>
    .error (classUnclosed_error frames t).choose_spec
  refine .bind (peekBlank_together ht hr) fun e t e' t' ht he => ?_
  have hcond : (c ≠ '-' ∨ e = some ']' ∨ e = some '-') ↔
      (c ≠ '-' ∨ e' = some ']' ∨ e' = some '-') := or_congr Iff.rfl he
  by_cases hp : c ≠ '-' ∨ e = some ']' ∨ e = some '-'
  · rw [if_pos hp, if_pos (hcond.1 hp)]
    refine .bind (toSet_together ht hfirst) fun a t b t' ht hab => ?_
    exact .pure ht hab
  · rw [if_neg hp, if_neg fun h => hp (hcond.2 h)]
    refine .bind (bumpBlank_together_any ht) fun m t _ t' ht hm =>
      .more hm (classUnclosed_error frames t).choose_spec fun _ => ?_
    exact .bind (classItem_together ht) fun _ t _ t' ht hlast => rangeOf_together ht hfirst hlast

theorem classRange_next (h : Alongside behind (n + 1) (n' + 1) s s') (hs : s.rest = c :: u)
    (frames frames' : List ClassFrame) : Together behind (fun a b _ => a.1 = b.1) n n'
      (classRange frames s) (classRange frames' s') :=
  .bind (classItem_next h hs) fun _ _ _ _ ht hfirst => rangeRest_together ht frames frames' hfirst

theorem classRange_together (h : Alongside behind n n' s s') (frames frames' : List ClassFrame) :
    Together behind (fun a b _ => a.1 = b.1) n n' (classRange frames s) (classRange frames' s') :=
  .bind (classItem_together h) fun _ _ _ _ ht hfirst => rangeRest_together ht frames frames' hfirst

/-! ## Whole classes -/

abbrev SameFrames : List ClassFrame → List ClassFrame → Prop := List.Forall₂ ClassFrame.Same

theorem closeOperation_same (f : Flags) {right right' : Side} (h : right.Same right')
    {frames frames' : List ClassFrame} (hf : SameFrames frames frames') :
    (closeOperation f right frames).1.Same (closeOperation f right' frames').1 ∧
      SameFrames (closeOperation f right frames).2 (closeOperation f right' frames').2 := by
  cases hf with
  | nil => exact ⟨h, .nil⟩
  | cons hframe hf =>
    cases hframe with
    | opened x x' negated hf' => exact ⟨h, .cons (.opened x x' negated hf') hf⟩
    | operation op hl =>
      refine ⟨⟨?_, .cons (.node _ _ (List.rel_append hl.nests h.nests)) .nil⟩, hf⟩
      simp only [closeOperation, hl.set, h.set]

theorem found_close_same (f : Flags) {found found' : Found} (h : found.Same found')
    {frames frames' : List ClassFrame} (hf : SameFrames frames frames') :
    (found.close f frames).1.Same (found'.close f frames').1 ∧
      SameFrames (found.close f frames).2 (found'.close f frames').2 := by
  refine closeOperation_same f ⟨h.set, ?_⟩ hf
  rw [Found.side, Found.side, h.items]
  exact h.nests.gather _ _ _

theorem classOp_together (h : Alongside behind n n' s s') :
    Together behind (fun a b _ => a = b) n n' (classOp? s) (classOp? s') := by
  refine .bind (bumpIf_together h (by decide)) fun m t _ t' ht hm => ?_
  cases hm
  refine .ite (fun _ => .pure ht rfl) fun _ => ?_
  refine .bind (bumpIf_together ht (by decide)) fun m t _ t' ht hm => ?_
  cases hm
  refine .ite (fun _ => .pure ht rfl) fun _ => ?_
  refine .bind (bumpIf_together ht (by decide)) fun m t _ t' ht hm => ?_
  cases hm
  exact .ite (fun _ => .pure ht rfl) fun _ => .pure ht rfl

theorem classRest_together (h : Alongside behind n n' s s') {frames frames' : List ClassFrame}
    (hf : SameFrames frames frames') {found found' : Found} (hfound : found.Same found') :
    Together behind (fun a b _ => a.1 = b.1 ∧ a.2.Same b.2) n n' (classRest fuel frames found s)
      (classRest fuel' frames' found' s') := by
  induction fuel generalizing fuel' s s' frames frames' found found' with
  | zero => exact .error (classUnclosed_error frames s).choose_spec
  | succ fuel ih =>
    cases fuel' with
    | zero => exact .error' (classUnclosed_error frames' s').choose_spec
    | succ fuel' =>
      refine .bind (skipBlank_together h) fun _ t _ t' ht _ => ?_
      refine .current ht (fun c u hr => ?_) fun _ _ _ =>
        .error (classUnclosed_error frames t).choose_spec
      by_cases hopen : c = '['
      · subst hopen
        refine .bind (asciiClass_together ht) fun a t b t' ht hab => ?_
        cases a with
        | some a =>
          obtain ⟨b, rfl⟩ : ∃ b', b = some b' := by
            cases b with
            | none => cases hab
            | some b => exact ⟨b, rfl⟩
          obtain ⟨set, x⟩ := a
          obtain ⟨set', x'⟩ := b
          cases Option.some.inj hab
          exact ih ht hf (hfound.add _ _ _ .nil)
        | none =>
          obtain rfl : b = none := by
            cases b with
            | none => rfl
            | some b => cases hab
          refine .bind (classOpen_together (bumpBlank_together_any ht)) fun a t b t' ht hab => ?_
          obtain ⟨x, negated, first⟩ := a
          obtain ⟨x', negated', first'⟩ := b
          obtain ⟨hneg, hfirst⟩ := hab
          cases hneg
          exact ih ht (.cons (.opened _ _ _ hfound) hf) hfirst
      · by_cases hclose : c = ']'
        · subst hclose
          obtain ⟨hside, hframes⟩ := found_close_same t.flags hfound hf
          refine .flags ht ?_
          generalize found.close _ frames = p, found'.close _ frames' = p' at hside hframes
          obtain ⟨⟨set, x, nests⟩, frames⟩ := p
          obtain ⟨⟨set', x', nests'⟩, frames'⟩ := p'
          obtain ⟨rfl, hnests⟩ : set = set' ∧ SameNests nests nests' := ⟨hside.set, hside.nests⟩
          refine .bind (bump_together_any ht) fun _ t _ t' ht _ => ?_
          cases hframes with
          | nil => exact .error rfl
          | cons hframe hframes =>
            cases hframe with
            | operation op hl => exact .error (classUnclosed_error _ t).choose_spec
            | opened x x' negated houter =>
              refine .here fun q q' => .bind (finishSet_together ht _ _ _ _)
                fun a t b t' ht hab => ?_
              cases hab
              cases hframes with
              | nil => exact .pure ht ⟨rfl, .node _ _ hnests⟩
              | cons hframe hframes =>
                exact ih ht (.cons hframe hframes)
                  (houter.add _ _ _ (.cons (.node _ _ hnests) .nil))
        · simp only
          refine .bind (classOp_together ht) fun op t _ t' ht hop => ?_
          cases hop
          cases op with
          | some op =>
            refine .flags ht (.here fun p p' => ?_)
            obtain ⟨hside, hframes⟩ := found_close_same t.flags hfound hf
            exact ih ht (.cons (.operation op hside) hframes) ⟨rfl, rfl, .nil⟩
          | none =>
            refine .bind (classRange_together ht frames frames') fun a t b t' ht hab => ?_
            rw [hab]
            exact ih ht hf (hfound.add _ _ _ .nil)

theorem bracketClass_together (h : Alongside behind (n + 1) (n' + 1) s s') (hs : s.rest = c :: u) :
    Together behind (fun a b _ => a.1 = b.1 ∧ a.2.Same b.2) n n' (bracketClass s)
      (bracketClass s') := by
  refine .here fun p p' => .bind (classOpen_together (bumpBlank_together h hs))
    fun a t b t' ht hab => .get ?_
  obtain ⟨x, negated, first⟩ := a
  obtain ⟨x', negated', first'⟩ := b
  obtain ⟨hneg, hfirst⟩ := hab
  cases hneg
  have hnothing : (Found.nothing p).Same (Found.nothing p') := ⟨rfl, rfl, .nil⟩
  exact classRest_together ht (.cons (.opened x x' negated hnothing) .nil) hfirst

end Descent.Pattern
