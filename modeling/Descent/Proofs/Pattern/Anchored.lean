import Descent.Pattern.Compile
import Descent.Proofs.Pattern.Group

/-! # Patterns held to the start

A pattern is held to the start of a text by what is written around it. If it is well formed by
itself, reading stays inside of what is added: what comes out is the pattern behind an anchor, and
it is found nowhere but at the start. -/
namespace Descent.Pattern

variable {behind : Text} {n n' fuel fuel' : Nat} {s s' : Reading} {c : Char} {u : Text}

/-! ## Levels and groups -/

/-- The same patterns and as deep, wherever they stand. -/
structure Level.Same (l l' : Level) : Prop where
  items : l.items.map (·.pattern) = l'.items.map (·.pattern)
  finished : l.finished.map Prod.fst = l'.finished.map Prod.fst
  nests : List.Forall₂ (fun i i' => SameNests i.nests i'.nests) l.items l'.items
  deep : List.Forall₂ (fun b b' => SameNests b.2 b'.2) l.finished l'.finished

namespace Level.Same

variable {l l' : Level}

theorem push (h : l.Same l') (p : Option Pattern) (x x' : Extent) {nests nests' : List Nest}
    (hn : SameNests nests nests') : (l.push p x nests).Same (l'.push p x' nests') :=
  ⟨congrArg (p :: ·) h.items, h.finished, .cons hn h.nests, h.deep⟩

theorem branch (h : l.Same l') (stop stop' : Nat) :
    (l.branch stop).1 = (l'.branch stop').1 := by
  have hpatterns : ∀ items : List Item, items.reverse.filterMap (·.pattern) =
      (items.map (·.pattern)).reverse.filterMap id := by
    intro items
    rw [← List.map_reverse, List.filterMap_map]
    rfl
  rw [Level.branch, Level.branch]
  simp only [hpatterns, h.items]

theorem branch_nests (h : l.Same l') (stop stop' : Nat) :
    SameNests (l.branch stop).2 (l'.branch stop').2 := by
  have hlen : l.items.reverse.length = l'.items.reverse.length := by
    rw [List.length_reverse, List.length_reverse, h.nests.length_eq]
  rw [Level.branch, Level.branch]
  simp only [hlen]
  exact SameNests.gather (List.rel_flatMap (List.rel_reverse h.nests) fun _ _ hi => hi) _ _ _

theorem nextBranch (h : l.Same l') (stop stop' : Nat) :
    (l.nextBranch stop).Same (l'.nextBranch stop') where
  items := rfl
  finished := by
    rw [Level.nextBranch, Level.nextBranch, List.map_cons, List.map_cons, h.finished,
      h.branch stop stop']
  nests := .nil
  deep := .cons (h.branch_nests stop stop') h.deep

theorem close (h : l.Same l') (stop stop' : Nat) : (l.close stop).1 = (l'.close stop').1 := by
  rw [Level.close, Level.close]
  simp only [List.map_reverse, List.map_cons, h.finished, h.branch stop stop']

theorem close_nests (h : l.Same l') (stop stop' : Nat) :
    SameNests (l.close stop).2 (l'.close stop').2 := by
  have hall : List.Forall₂ (fun b b' => SameNests b.2 b'.2) (l.branch stop :: l.finished).reverse
      (l'.branch stop' :: l'.finished).reverse :=
    List.rel_reverse (.cons (h.branch_nests stop stop') h.deep)
  rw [Level.close, Level.close]
  simp only [hall.length_eq]
  exact SameNests.gather (List.rel_flatMap hall fun _ _ hb => hb) _ _ _

end Level.Same

structure OpenGroup.Same (g g' : OpenGroup) : Prop where
  index : g.index = g'.index
  outer : g.outer.Same g'.outer
  flags : g.flags = g'.flags

/-! ## Steps -/

theorem primitive_together (h : Alongside behind (n + 1) (n' + 1) s s') (hs : s.rest = c :: u) :
    Together behind (fun a b _ => a = b) n n' (primitive s) (primitive s') := by
  refine .flags h (.here fun p p' => .current h (fun c u hs => ?_)
    fun hr => nomatch hs.symm.trans hr)
  by_cases hslash : c = '\\'
  · subst hslash
    refine .bind (escape_together h hs) fun a t b t' ht hab => ?_
    simp only [hab]
    cases b.primitive with
    | literal c => exact .pure ht rfl
    | set s => exact .pure ht rfl
    | anchor a => exact .pure ht rfl
  · simp only
    refine .bind (bump_together h hs) fun _ t _ t' ht _ => ?_
    split
    · refine .ite (fun _ => ?_) fun _ => .pure ht rfl
      exact .bind (failLate_together ht _ _ _ _) fun _ t _ t' ht _ => .pure ht rfl
    · exact .pure ht rfl
    · exact .pure ht rfl
    · exact .pure ht rfl

theorem repeatLast_together (h : Alongside behind (n + 1) (n' + 1) s s') (hs : s.rest = c :: u)
    {l l' : Level} (hl : l.Same l') :
    Together behind (fun a b _ => a.Same b) n n' (repeatLast c l s) (repeatLast c l' s') := by
  obtain ⟨start, branchStart, finished, items⟩ := l
  obtain ⟨start', branchStart', finished', items'⟩ := l'
  obtain ⟨hitems, hfinished, hnests, hdeep⟩ := hl
  cases items with
  | nil => exact .error rfl
  | cons item items =>
    cases items' with
    | nil => cases hitems
    | cons item' items' =>
      obtain ⟨hitem, htail⟩ := List.cons.inj hitems
      obtain ⟨p, x, nests⟩ := item
      obtain ⟨p', x', nests'⟩ := item'
      cases hitem
      obtain ⟨hnest, hrest⟩ := List.forall₂_cons.1 hnests
      cases p with
      | none => exact .error rfl
      | some p =>
        refine .here fun q q' => .bind (operator_together h hs) fun a t b t' ht hab => .flags ht ?_
        cases hab
        refine .here fun r r' => .pure ht ⟨?_, hfinished, ?_, hdeep⟩
        · exact congrArg (some _ :: ·) htail
        · exact .cons (.cons (.node _ _ hnest) .nil) hrest

/-- What goes on inside the groups of the first reading leaves the other groups alone. -/
theorem step_together (h : Alongside behind (n + 1) (n' + 1) s s') (hs : s.rest = c :: u)
    {groups groups' : List OpenGroup} (hg : List.Forall₂ OpenGroup.Same groups groups')
    (outer : List OpenGroup) {l l' : Level} (hl : l.Same l') :
    Together behind (fun a b _ => ∃ groups', b.1 = groups' ++ outer ∧
        List.Forall₂ OpenGroup.Same a.1 groups' ∧ a.2.Same b.2) n n'
      (step c groups l s) (step c (groups' ++ outer) l' s') := by
  refine .here fun p p' => ?_
  have hrepeat : Together behind (fun a b _ => ∃ groups', b.1 = groups' ++ outer ∧
      List.Forall₂ OpenGroup.Same a.1 groups' ∧ a.2.Same b.2) n n'
        ((do return (groups, ← repeatLast c l) : Reads (List OpenGroup × Level)) s)
        ((do return (groups' ++ outer, ← repeatLast c l') : Reads (List OpenGroup × Level)) s') :=
    .bind (repeatLast_together h hs hl) fun a t b t' ht hab => .pure ht ⟨groups', rfl, hg, hab⟩
  split
  · refine .flags h (.bind (groupOpen_together h hs) fun a t b t' ht hab => ?_)
    cases hab
    cases a with
    | flags after =>
      refine .bind (setFlags_together ht after) fun _ t _ t' ht _ => .here fun q q' => ?_
      exact .pure ht ⟨groups', rfl, hg, hl.push _ _ _ .nil⟩
    | group inside index =>
      refine .bind (setFlags_together ht inside) fun _ t _ t' ht _ => .here fun q q' => ?_
      exact .pure ht ⟨_ :: groups', rfl, .cons ⟨rfl, hl, rfl⟩ hg, ⟨rfl, rfl, .nil, .nil⟩⟩
  · cases hg with
    | nil => exact .error rfl
    | @cons g g' gs gs' hgg hg =>
      simp only [List.cons_append, hgg.flags, hgg.index]
      refine .bind (setFlags_together h g'.flags) fun _ t _ t' ht hrest => ?_
      refine .bind (bump_together ht (hrest.trans hs)) fun _ t _ t' ht _ => ?_
      refine .pure ht ⟨_, rfl, hg, ?_⟩
      rw [hl.close p p']
      exact hgg.outer.push _ _ _ (.cons (.node _ _ (hl.close_nests p p')) .nil)
  · refine .bind (bump_together h hs) fun _ t _ t' ht _ => ?_
    exact .pure ht ⟨groups', rfl, hg, hl.nextBranch _ _⟩
  · refine .flags h (.bind (bracketClass_together h hs) fun a t b t' ht hab => .here fun q q' => ?_)
    refine .pure ht ⟨groups', rfl, hg, ?_⟩
    rw [hab.1]
    exact hl.push _ _ _ (.cons hab.2 .nil)
  · exact hrepeat
  · exact hrepeat
  · exact hrepeat
  · exact hrepeat
  · refine .bind (primitive_together h hs) fun a t b t' ht hab => .here fun q q' => ?_
    cases hab
    exact .pure ht ⟨groups', rfl, hg, hl.push _ _ _ .nil⟩

/-! ## Whole patterns -/

theorem finish_nil (l : Level) (s : Reading) : finish [] l s =
    (match (l.close s.pos).2.findSome? (Nest.beyond? maxNesting) with
      | some x => failAt x.start x.stop .nestedTooDeep
      | none => get >>= fun t : Reading => match t.late with
        | some e => throw e
        | none => return (l.close s.pos).1 : Reads Pattern) s := rfl

theorem finish_ok {groups : List OpenGroup} {l : Level} {p : Pattern} {t : Reading}
    (h : finish groups l s = .ok (p, t)) : groups = [] ∧ (l.close s.pos).1 = p := by
  cases groups with
  | cons g groups => cases h
  | nil =>
    refine ⟨rfl, ?_⟩
    rw [finish_nil] at h
    cases hn : (l.close s.pos).2.findSome? (Nest.beyond? maxNesting) with
    | some x =>
      rw [hn] at h
      cases h
    | none =>
      obtain ⟨pos, rest, flags, groups, names, late⟩ := s
      rw [hn] at h
      cases late with
      | some e => cases h
      | none =>
        cases h
        rfl

theorem readRest_succ (fuel : Nat) (groups : List OpenGroup) (l : Level) (s : Reading) :
    readRest (fuel + 1) groups l s = (match s.blanked.rest.head? with
      | none => finish groups l
      | some c => step c groups l >>= fun r => readRest fuel r.1 r.2 : Reads Pattern)
        s.blanked := rfl

theorem readRest_nil (hs : s.rest = []) (fuel : Nat) (groups : List OpenGroup) (l : Level) :
    readRest fuel groups l s = finish groups l s := by
  cases fuel with
  | zero => rfl
  | succ fuel => rw [readRest_succ, Reading.blanked_of_nil hs, hs]; rfl

/-- The parenthesis closes one group, and nothing is left. -/
theorem step_close (hs : s.rest = [')']) (g : OpenGroup) (groups : List OpenGroup) (l : Level) :
    ∃ p x t, step ')' (g :: groups) l s =
        .ok ((groups, g.outer.push (some p) x [.node x (l.close s.pos).2]), t) ∧
      (g.index = none → p = (l.close s.pos).1) ∧ t.rest = [] ∧ t.late = s.late := by
  obtain ⟨start, index, outer, flags⟩ := g
  obtain ⟨pos, rest, f, indices, names, late⟩ := s
  obtain rfl : rest = [')'] := hs
  refine ⟨_, _, ⟨pos + 1, [], flags, indices, names, late⟩, rfl, ?_, rfl, rfl⟩
  rintro rfl
  rfl

/-- A pattern that is well formed by itself never closes the group around it, which then holds just
this pattern. -/
theorem readRest_enclosed (h : Alongside behind n n' s s') (hn : n < fuel) (hn' : n' < fuel')
    {groups groups' : List OpenGroup} (hg : List.Forall₂ OpenGroup.Same groups groups')
    {around : OpenGroup} (hindex : around.index = none) {l l' : Level} (hl : l.Same l')
    {p p' : Pattern} {t t' : Reading} (hp : readRest fuel groups l s = .ok (p, t))
    (hp' : readRest fuel' (groups' ++ [around]) l' s' = .ok (p', t')) :
    ∃ x nests stop, p' = ((around.outer.push (some p) x nests).close stop).1 := by
  induction fuel generalizing n n' s s' fuel' groups groups' l l' with
  | zero => exact absurd hn (Nat.not_lt_zero n)
  | succ fuel ih =>
    obtain ⟨fuel', rfl⟩ : ∃ k', fuel' = k' + 1 := ⟨fuel' - 1, by omega⟩
    have hb := h.blanked
    rw [readRest_succ] at hp hp'
    cases hr : s.blanked.rest with
    | cons c u =>
      rw [hr] at hp
      rw [hb.rest_cons hr] at hp'
      obtain ⟨m, m', rfl, rfl⟩ := hb.exists_succ hr
      change (step c groups l s.blanked).bind (fun r => readRest fuel r.1.1 r.1.2 r.2) = _ at hp
      change (step c (groups' ++ [around]) l' s'.blanked).bind
        (fun r => readRest fuel' r.1.1 r.1.2 r.2) = _ at hp'
      cases ha : step c groups l s.blanked with
      | error e =>
        rw [ha] at hp
        cases hp
      | ok a =>
        cases hb' : step c (groups' ++ [around]) l' s'.blanked with
        | error e =>
          rw [hb'] at hp'
          cases hp'
        | ok b =>
          rw [ha] at hp
          rw [hb'] at hp'
          obtain ⟨ht, groups'', hgroups, hg, hl⟩ :=
            step_together hb hr hg [around] hl a.1 a.2 b.1 b.2 ha hb'
          obtain ⟨⟨bgroups, bl⟩, bt⟩ := b
          obtain rfl : bgroups = groups'' ++ [around] := hgroups
          exact ih ht (by omega) (by omega) hg hl hp hp'
    | nil =>
      rw [hr] at hp
      obtain ⟨rfl, hclose⟩ := finish_ok hp
      cases hg
      rcases hb.rest_nil hr with hr' | hr'
      · rw [hr'] at hp'
        obtain ⟨q, x, t, hstep, hq, ht, -⟩ := step_close hr' around [] l'
        change (step ')' [around] l' s'.blanked).bind
          (fun r => readRest fuel' r.1.1 r.1.2 r.2) = _ at hp'
        rw [hstep] at hp'
        change readRest fuel' [] _ t = _ at hp'
        rw [readRest_nil ht] at hp'
        obtain ⟨-, hclose'⟩ := finish_ok hp'
        rw [hq hindex, ← hl.close s.blanked.pos s'.blanked.pos, hclose] at hclose'
        exact ⟨x, _, _, hclose'.symm⟩
      · rw [hr'] at hp'
        obtain ⟨hnil, -⟩ := finish_ok hp'
        cases hnil

/-- The group around a pattern that is held to the start; an anchor stands before it. -/
def aroundGroup : OpenGroup := ⟨1, none, ⟨0, 0, [], [⟨some (.anchor .textStart), ⟨0, 1⟩, []⟩]⟩, {}⟩

/-- What is read once the text in front of a pattern has been. -/
theorem readRest_opening (fuel : Nat) (t : Text) :
    readRest (fuel + 2) [] { start := 0 } { rest := '^' :: '(' :: '?' :: ':' :: t } =
      readRest fuel [aroundGroup] { start := 4 } { pos := 4, rest := t } := rfl

theorem read_anchoredText (t : Text) : read (anchoredText t) =
    (readRest (t.length + 4) [aroundGroup] { start := 4 } { pos := 4, rest := t ++ [')'] }).map
      (·.1) := by
  have hlen : (anchoredText t).length + 1 = t.length + 4 + 2 := by simp [anchoredText]
  rw [read, hlen, show anchoredText t = '^' :: '(' :: '?' :: ':' :: (t ++ [')']) from rfl,
    readRest_opening]

theorem alongside_anchored (t : Text) : Alongside [')'] t.length (t.length + 1) { rest := t }
    { pos := 4, rest := t ++ [')'] } :=
  ⟨.inr rfl, rfl, rfl, .inl rfl, Nat.le_refl _, by simp⟩

theorem read_eq_ok {t : Text} {p : Pattern} (h : read t = .ok p) :
    ∃ r, readRest (t.length + 1) [] { start := 0 } { rest := t } = .ok (p, r) := by
  rw [read] at h
  cases hr : readRest (t.length + 1) [] { start := 0 } { rest := t } with
  | error e =>
    rw [hr] at h
    cases h
  | ok r =>
    rw [hr] at h
    cases h
    exact ⟨r.2, rfl⟩

theorem read_anchored {t : Text} {p p' : Pattern} (h : read t = .ok p)
    (h' : read (anchoredText t) = .ok p') : p' = choice [concat [.anchor .textStart, p]] := by
  obtain ⟨r, hr⟩ := read_eq_ok h
  rw [read_anchoredText] at h'
  cases hr' : readRest (t.length + 4) [aroundGroup] { start := 4 }
      { pos := 4, rest := t ++ [')'] } with
  | error e =>
    rw [hr'] at h'
    cases h'
  | ok r' =>
    rw [hr'] at h'
    cases h'
    have hlevel : Level.Same { start := 0 } { start := 4 } := ⟨rfl, rfl, .nil, .nil⟩
    obtain ⟨x, nests, stop, hp⟩ := readRest_enclosed (alongside_anchored t) (Nat.lt_succ_self _)
      (by omega) .nil rfl hlevel hr hr'
    exact hp

/-! ## Anchored expressions -/

/-- A part that is no concatenation and no literal stays the first. -/
theorem concat_anchor (a : Anchor) (ps : List Pattern) :
    concat (.anchor a :: ps) = inRow (.anchor a :: (ps.flatMap parts).foldr prepend []) := rfl

theorem parts_inRow_anchor (a : Anchor) (ps : List Pattern) :
    ∃ qs, (inRow (.anchor a :: ps)).parts = .anchor a :: qs := by
  cases ps with
  | nil => exact ⟨_, rfl⟩
  | cons p ps => exact ⟨_, rfl⟩

theorem branches_inRow_anchor (a : Anchor) (ps : List Pattern) :
    (inRow (.anchor a :: ps)).branches = [inRow (.anchor a :: ps)] := by
  cases ps with
  | nil => rfl
  | cons p ps => rfl

/-- A single branch that starts with an anchor still does after its choice is made. -/
theorem choice_anchor (a : Anchor) (ps : List Pattern) :
    ∃ qs, choice [concat (.anchor a :: ps)] = inRow (.anchor a :: qs) := by
  rw [concat_anchor]
  generalize (ps.flatMap parts).foldr prepend [] = ps
  obtain ⟨qs, hqs⟩ := parts_inRow_anchor a ps
  have hbs : ([inRow (.anchor a :: ps)].flatMap branches).map parts = [.anchor a :: qs] := by
    rw [List.flatMap_singleton, branches_inRow_anchor, List.map_singleton, hqs]
  rw [choice, hbs]
  cases qs with
  | nil => exact ⟨[], rfl⟩
  | cons q qs => exact ⟨_, rfl⟩

end Pattern

namespace Regex

/-- What matches only where the text starts. -/
inductive Held : Regex → Prop where
  | alone : Held (.anchor .textStart)
  | before (r : Regex) : Held (.cat (.anchor .textStart) r)

theorem Held.scan_eq_none {r : Regex} (h : r.Held) (c : Char) (t : Text) :
    scan [[r]] (some c) t = none := by
  have hmoves : ∀ a, moves ⟨some c, a⟩ [[r]] = [] := by
    intro a
    cases h with
    | alone => rfl
    | before r => rfl
  cases t with
  | nil => simp [scan, hmoves]
  | cons d t => simp [scan, hmoves, survivors]

theorem Held.find_eq {r : Regex} (h : r.Held) (t : Text) :
    r.find t = (r.atStart t).map fun n => (0, n) := by
  have hlater : ∀ c t, findFrom r (some c) t = none := by
    intro c t
    induction t generalizing c with
    | nil => simp [findFrom, h.scan_eq_none]
    | cons d t ih => simp [findFrom, h.scan_eq_none, ih]
  rw [find, atStart]
  cases t with
  | nil => cases hs : scan [[r]] none [] <;> simp [findFrom, hs]
  | cons c t => cases hs : scan [[r]] none (c :: t) <;> simp [findFrom, hs, hlater]

end Regex

namespace Pattern

theorem held_toRegex (a : List Pattern) : (inRow (.anchor .textStart :: a)).toRegex.Held := by
  cases a with
  | nil => exact .alone
  | cons p ps => exact .before _

theorem compileAs_eq_ok {pattern spelled : Text} {f : Flags} {r : Regex}
    (h : compileAs pattern spelled f = .ok r) : ∃ p, read spelled f = .ok p ∧ r = p.toRegex := by
  rw [compileAs] at h
  cases hp : read spelled f with
  | error e =>
    rw [hp] at h
    cases h
  | ok p =>
    rw [hp] at h
    simp only at h
    split at h
    · cases h
    · cases h
      exact ⟨p, rfl, rfl⟩

/-- A pattern that is well formed by itself is found nowhere but at the start once it is held
there. -/
theorem held_of_read {t : Text} {p : Pattern} {r : Regex} (h : read t = .ok p)
    (h' : compileAnchored t = .ok r) : r.Held := by
  obtain ⟨p', hp', rfl⟩ := compileAs_eq_ok h'
  obtain ⟨qs, hqs⟩ := choice_anchor .textStart [p]
  rw [read_anchored h hp', hqs]
  exact held_toRegex qs

theorem held_of_compile {t : Text} {r r' : Regex} (h : compile t = .ok r)
    (h' : compileAnchored t = .ok r') : r'.Held := by
  obtain ⟨p, hp, -⟩ := compileAs_eq_ok h
  exact held_of_read hp h'

end Descent.Pattern
