import Descent.Proofs.Pattern.Anchored
import Descent.Proofs.Pattern.Meaning
import Mathlib.Logic.Basic

/-! # Patterns kept flat

Concatenations, choices and repetitions are simplified as they are built. What is built matches what
its parts say; only the order of preference can change, where a choice is made after what its
branches share. -/
namespace Descent.Pattern

variable {p q : Pattern} {ps qs front : List Pattern} {i : Place} {n m : Nat}

/-! ## Concatenation -/

/-- The patterns match one after the other. -/
def RowMatches : List Pattern → Place → Nat → Prop
  | [], _, n => n = 0
  | p :: ps, i, n => ∃ m k, n = m + k ∧ p.Matches i m ∧ RowMatches ps (i.past m) k

theorem rowMatches_singleton : RowMatches [p] i n ↔ p.Matches i n := by
  constructor
  · rintro ⟨m, _, rfl, h, rfl⟩
    exact h
  · exact fun h => ⟨n, 0, rfl, h, rfl⟩

theorem rowMatches_append : RowMatches (ps ++ qs) i n ↔
    ∃ m k, n = m + k ∧ RowMatches ps i m ∧ RowMatches qs (i.past m) k := by
  induction ps generalizing i n with
  | nil =>
    constructor
    · exact fun h => ⟨0, n, (Nat.zero_add n).symm, rfl, h⟩
    · rintro ⟨_, k, rfl, rfl, h⟩
      rwa [Nat.zero_add]
  | cons p ps ih =>
    constructor
    · rintro ⟨m, _, rfl, hm, h⟩
      obtain ⟨k, l, rfl, hk, hl⟩ := ih.1 h
      exact ⟨m + k, l, (Nat.add_assoc ..).symm, ⟨m, k, rfl, hm, hk⟩, i.past_past m k ▸ hl⟩
    · rintro ⟨_, l, rfl, ⟨m, k, rfl, hm, hk⟩, hl⟩
      exact ⟨m, k + l, Nat.add_assoc .., hm, ih.2 ⟨k, l, rfl, hk, (i.past_past m k).symm ▸ hl⟩⟩

theorem matches_inRow : (inRow ps).Matches i n ↔ RowMatches ps i n := by
  induction ps generalizing i n with
  | nil => exact Iff.rfl
  | cons p ps ih =>
    cases ps with
    | nil => exact rowMatches_singleton.symm
    | cons q ps =>
      exact exists_congr fun m => exists_congr fun k => and_congr_right fun _ =>
        and_congr_right fun _ => ih

theorem rowMatches_parts : RowMatches p.parts i n ↔ p.Matches i n := by
  induction p generalizing i n with
  | empty => exact Iff.rfl
  | cat p q ihp ihq =>
    rw [parts, rowMatches_append]
    simp only [ihp, ihq]
    exact Iff.rfl
  | literal | chars | anchor | group | alt | repeated => exact rowMatches_singleton

theorem matches_literal_append {t u : List Char} : (literal (t ++ u)).Matches i n ↔
    ∃ m k, n = m + k ∧ (literal t).Matches i m ∧ (literal u).Matches (i.past m) k := by
  constructor
  · rintro ⟨rfl, v, hv⟩
    rw [List.append_assoc] at hv
    refine ⟨_, _, List.length_append, ⟨rfl, u ++ v, hv⟩, rfl, v, ?_⟩
    rw [Place.past, ← hv]
    simp
  · rintro ⟨_, _, rfl, ⟨rfl, v, hv⟩, rfl, w, hw⟩
    have hpast : (i.past t.length).ahead = v := by
      rw [Place.past, ← hv]
      simp
    rw [hpast] at hw
    exact ⟨List.length_append.symm, w, by rw [List.append_assoc, hw, hv]⟩

theorem rowMatches_prepend : RowMatches (prepend p ps) i n ↔ RowMatches (p :: ps) i n := by
  unfold prepend
  split
  · rename_i t u ps
    constructor
    · rintro ⟨_, k, rfl, h, hps⟩
      obtain ⟨a, b, rfl, ha, hb⟩ := matches_literal_append.1 h
      exact ⟨a, b + k, Nat.add_assoc .., ha, b, k, rfl, hb, (i.past_past a b).symm ▸ hps⟩
    · rintro ⟨a, _, rfl, ha, b, k, rfl, hb, hps⟩
      exact ⟨a + b, k, (Nat.add_assoc ..).symm, matches_literal_append.2 ⟨a, b, rfl, ha, hb⟩,
        i.past_past a b ▸ hps⟩
  · exact Iff.rfl

theorem rowMatches_foldr_prepend : RowMatches (ps.foldr prepend []) i n ↔ RowMatches ps i n := by
  induction ps generalizing i n with
  | nil => exact Iff.rfl
  | cons p ps ih =>
    rw [List.foldr_cons, rowMatches_prepend]
    exact exists_congr fun m => exists_congr fun k => and_congr_right fun _ =>
      and_congr_right fun _ => ih

theorem rowMatches_flatMap_parts : RowMatches (ps.flatMap parts) i n ↔ RowMatches ps i n := by
  induction ps generalizing i n with
  | nil => exact Iff.rfl
  | cons p ps ih =>
    rw [List.flatMap_cons, rowMatches_append]
    simp only [rowMatches_parts, ih]
    exact Iff.rfl

/-- A concatenation matches what its parts match one after the other. -/
theorem matches_concat : (concat ps).Matches i n ↔ RowMatches ps i n := by
  rw [concat, matches_inRow, rowMatches_foldr_prepend, rowMatches_flatMap_parts]

/-! ## Choice -/

theorem exists_branch_matches : (∃ b ∈ p.branches, b.Matches i n) ↔ p.Matches i n := by
  induction p generalizing i n with
  | alt p q ihp ihq =>
    rw [branches, Matches, ← ihp, ← ihq]
    simp only [List.mem_append, or_and_right, exists_or]
  | empty | literal | chars | anchor | group | cat | repeated => simp [branches]

theorem matches_oneOf (hps : ps ≠ []) : (oneOf ps).Matches i n ↔ ∃ p ∈ ps, p.Matches i n := by
  induction ps with
  | nil => exact absurd rfl hps
  | cons p ps ih =>
    cases ps with
    | nil => simp [oneOf]
    | cons q ps =>
      have hrest := ih (List.cons_ne_nil q ps)
      rw [oneOf, Matches, hrest]
      · simp only [List.mem_cons, exists_eq_or_imp]
      · simp

/-! A set matches its members, whichever way it is written. -/

section Sets

variable {unicode : Bool} {s : CharSet} {one? : Pattern → Option CharSet}

theorem matches_singleton (c : Char) :
    (literal [c]).Matches i n ↔ (chars true (.single c)).Matches i n := by
  refine and_congr_right fun _ => ?_
  cases i.ahead with
  | nil => simp
  | cons d t =>
    rw [List.head?_cons, List.cons_prefix_cons, and_iff_left List.nil_prefix]
    exact eq_comm.trans (by simp [CharSet.mem_single])

theorem matches_ofSet : (ofSet unicode s).Matches i n ↔ (chars true s).Matches i n := by
  rw [ofSet]
  split
  · rename_i c hc
    rw [CharSet.only?_eq_some.1 hc]
    exact matches_singleton c
  · exact Iff.rfl

theorem matches_of_singleton? (h : singleton? p = some s) (i : Place) (n : Nat) :
    p.Matches i n ↔ (chars true s).Matches i n := by
  unfold singleton? at h
  split at h
  · rename_i c
    cases h
    exact matches_singleton c
  · cases h

theorem matches_of_set? (h : set? p = some s) (i : Place) (n : Nat) :
    p.Matches i n ↔ (chars true s).Matches i n := by
  unfold set? at h
  split at h
  · cases h
    exact Iff.rfl
  · cases h

theorem matches_union?
    (hone : ∀ {p s}, one? p = some s → ∀ i n, p.Matches i n ↔ (chars true s).Matches i n)
    (h : union? one? ps = some s) : (chars true s).Matches i n ↔ ∃ p ∈ ps, p.Matches i n := by
  induction ps generalizing s with
  | nil =>
    cases h
    simp [Matches]
  | cons p ps ih =>
    obtain ⟨s, hs, t, ht, rfl⟩ : ∃ s, one? p = some s ∧ ∃ t, union? one? ps = some t ∧
        CharSet.union s t = _ := by
      simpa [union?, Option.bind_eq_some_iff] using h
    simp only [List.mem_cons, exists_eq_or_imp, hone hs, ← ih ht]
    simp only [Matches, CharSet.mem_union, Bool.or_eq_true, and_or_left, exists_or]

/-- Several branches match what one of them does, also where they are made into one set. -/
theorem matches_eitherOf (hps : ps ≠ []) :
    (eitherOf ps).Matches i n ↔ ∃ p ∈ ps, p.Matches i n := by
  unfold eitherOf
  split
  · simp
  · split
    · rename_i h
      exact matches_ofSet.trans (matches_union? matches_of_singleton? h)
    · rename_i h
      exact matches_ofSet.trans (matches_union? matches_of_set? h)
    · exact matches_oneOf hps

end Sets

theorem commonPrefix_isPrefix (ps qs : List Pattern) :
    commonPrefix ps qs <+: ps ∧ commonPrefix ps qs <+: qs := by
  fun_induction commonPrefix ps qs with
  | case1 p ps qs ih =>
    exact ⟨List.cons_prefix_cons.2 ⟨rfl, ih.1⟩, List.cons_prefix_cons.2 ⟨rfl, ih.2⟩⟩
  | case2 | case3 => exact ⟨List.nil_prefix, List.nil_prefix⟩

theorem foldl_commonPrefix_isPrefix (b : List Pattern) (bs : List (List Pattern)) :
    bs.foldl commonPrefix b <+: b ∧ ∀ b' ∈ bs, bs.foldl commonPrefix b <+: b' := by
  induction bs generalizing b with
  | nil => exact ⟨List.prefix_refl b, nofun⟩
  | cons b' bs ih =>
    obtain ⟨hfirst, hrest⟩ := ih (commonPrefix b b')
    obtain ⟨hb, hb'⟩ := commonPrefix_isPrefix b b'
    exact ⟨hfirst.trans hb, List.forall_mem_cons.2 ⟨hfirst.trans hb', hrest⟩⟩

/-- All branches begin with what is shared. -/
theorem shared_isPrefix {bs : List (List Pattern)} {b : List Pattern} (hb : b ∈ bs) :
    shared bs <+: b := by
  cases bs with
  | nil => cases hb
  | cons b₀ bs =>
    rw [shared]
    split
    · obtain ⟨hfirst, hrest⟩ := foldl_commonPrefix_isPrefix b₀ bs
      rcases List.mem_cons.1 hb with rfl | hb
      · exact hfirst
      · exact hrest b hb
    · exact List.nil_prefix

theorem branches_ne_nil (p : Pattern) : p.branches ≠ [] := by
  induction p with
  | alt p q ihp ihq => simp [branches, ihp]
  | empty | literal | chars | anchor | group | cat | repeated => simp [branches]

theorem exists_flatMap_branches :
    (∃ b ∈ ps.flatMap branches, b.Matches i n) ↔ ∃ p ∈ ps, p.Matches i n := by
  constructor
  · rintro ⟨b, hb, h⟩
    obtain ⟨p, hp, hb⟩ := List.mem_flatMap.1 hb
    exact ⟨p, hp, exists_branch_matches.1 ⟨b, hb, h⟩⟩
  · rintro ⟨p, hp, h⟩
    obtain ⟨b, hb, h⟩ := exists_branch_matches.2 h
    exact ⟨b, List.mem_flatMap.2 ⟨p, hp, hb⟩, h⟩

theorem flatMap_branches_ne_nil (hps : ps ≠ []) : ps.flatMap branches ≠ [] := by
  obtain ⟨p, ps, rfl⟩ := List.exists_cons_of_ne_nil hps
  simp [branches_ne_nil p]

/-- Rows that begin alike match what they share and then one of their ends. -/
theorem exists_rowMatches_drop {bs : List (List Pattern)} (hfront : ∀ b ∈ bs, front <+: b) :
    (∃ b ∈ bs, RowMatches b i n) ↔ ∃ m k, n = m + k ∧ RowMatches front i m ∧
      ∃ b ∈ bs, RowMatches (b.drop front.length) (i.past m) k := by
  have hrow : ∀ b ∈ bs, RowMatches b i n ↔ ∃ m k, n = m + k ∧ RowMatches front i m ∧
      RowMatches (b.drop front.length) (i.past m) k := by
    intro b hb
    obtain ⟨rest, rfl⟩ := hfront b hb
    rw [List.drop_left, rowMatches_append]
  constructor
  · rintro ⟨b, hb, h⟩
    obtain ⟨m, k, hn, hm, hk⟩ := (hrow b hb).1 h
    exact ⟨m, k, hn, hm, b, hb, hk⟩
  · rintro ⟨m, k, hn, hm, b, hb, hk⟩
    exact ⟨b, hb, (hrow b hb).2 ⟨m, k, hn, hm, hk⟩⟩

/-- A choice matches what one of its branches matches. -/
theorem matches_choice (hps : ps ≠ []) : (choice ps).Matches i n ↔ ∃ p ∈ ps, p.Matches i n := by
  -- as rows of parts the branches begin alike, and the choice is one of their ends
  have hrows : (∃ p ∈ ps, p.Matches i n) ↔
      ∃ b ∈ (ps.flatMap branches).map parts, RowMatches b i n := by
    rw [← exists_flatMap_branches]
    simp only [List.mem_map, exists_exists_and_eq_and, rowMatches_parts]
  rw [hrows, choice, matches_concat, exists_rowMatches_drop fun b hb => shared_isPrefix hb,
    rowMatches_append]
  refine exists_congr fun m => exists_congr fun k => and_congr_right fun _ =>
    and_congr_right fun _ => ?_
  rw [rowMatches_singleton, matches_eitherOf, exists_flatMap_branches]
  · simp only [List.mem_map, exists_exists_and_eq_and, matches_inRow]
  · refine flatMap_branches_ne_nil ?_
    simpa using flatMap_branches_ne_nil hps

/-! ## Repetition -/

theorem times_eq_zero {matching : Place → Nat → Prop} (h : ∀ i n, matching i n → n = 0)
    {times : Nat} : Times matching times i n ↔ n = 0 ∧ (times = 0 ∨ matching i 0) := by
  induction times generalizing n with
  | zero => exact ⟨fun hn => ⟨hn, .inl rfl⟩, And.left⟩
  | succ times ih =>
    constructor
    · rintro ⟨m, k, rfl, hm, hk⟩
      obtain rfl := h i m hm
      obtain ⟨rfl, -⟩ := ih.1 hk
      exact ⟨rfl, .inr hm⟩
    · rintro ⟨rfl, ht | hm⟩
      · exact absurd ht (Nat.succ_ne_zero times)
      · exact ⟨0, 0, rfl, hm, ih.2 ⟨rfl, .inr hm⟩⟩

theorem Matches.eq_zero (hp : p.isZeroWidth) (i : Place) (n : Nat) (h : p.Matches i n) :
    n = 0 := by
  induction p generalizing i n with
  | empty => exact h
  | literal | chars => cases hp
  | anchor a => exact h.1
  | group index p ih => exact ih hp i n h
  | cat p q ihp ihq =>
    obtain ⟨hp, hq⟩ := Bool.and_eq_true_iff.1 hp
    obtain ⟨m, k, rfl, hm, hk⟩ := h
    rw [ihp hp i m hm, ihq hq _ k hk]
  | alt p q ihp ihq =>
    obtain ⟨hp, hq⟩ := Bool.and_eq_true_iff.1 hp
    exact h.elim (ihp hp i n) (ihq hq i n)
  | repeated least most greedy p ih =>
    obtain ⟨times, -, -, h⟩ := h
    exact ((times_eq_zero (ih hp)).1 h).1

variable {least : Nat} {most : Option Nat} {greedy : Bool}

/-- What has no width may as well be repeated once at most. -/
theorem matches_repeated_zeroWidth (hp : p.isZeroWidth) :
    (repeated (least.min 1) (some ((most.getD 1).min 1)) greedy p).Matches i n ↔
      (repeated least most greedy p).Matches i n := by
  have htimes : ∀ times, Times p.Matches times i n ↔ n = 0 ∧ (times = 0 ∨ p.Matches i 0) :=
    fun times => times_eq_zero (Matches.eq_zero hp)
  simp only [Matches, htimes]
  constructor
  · rintro ⟨times, hle, -, hn, h⟩
    have hle : min least 1 ≤ times := hle
    exact ⟨least, Nat.le_refl _, fun _ _ => Nat.le_max_left _ _, hn, h.imp_left fun _ => by omega⟩
  · rintro ⟨times, hle, -, hn, h⟩
    have hleast : times = 0 → min least 1 = 0 := fun _ => by omega
    exact ⟨min least 1, Nat.le_refl _, fun _ _ => Nat.le_max_left _ _, hn, h.imp_left hleast⟩

theorem matches_repeated_bounds (hbound : ∀ m ∈ most, least ≤ m) :
    (if most = some 0 then empty else if least = 1 ∧ most = some 1 then p
      else repeated least most greedy p).Matches i n ↔
      (repeated least most greedy p).Matches i n := by
  split
  · rename_i hmost
    obtain rfl := Nat.le_zero.1 (hbound 0 hmost)
    constructor
    · exact fun hn => ⟨0, Nat.le_refl 0, fun _ _ => Nat.zero_le _, hn⟩
    · rintro ⟨times, -, hle, h⟩
      obtain rfl := Nat.le_zero.1 (hle 0 hmost)
      exact h
  · split
    · rename_i hone
      obtain ⟨rfl, rfl⟩ := hone
      constructor
      · exact fun h => ⟨1, Nat.le_refl 1, fun _ _ => Nat.le_max_left _ _, n, 0, rfl, h, rfl⟩
      · rintro ⟨times, hle, hmost, h⟩
        obtain rfl : times = 1 := Nat.le_antisymm (hmost 1 rfl) hle
        obtain ⟨m, _, rfl, hm, rfl⟩ := h
        exact hm
    · exact Iff.rfl

/-- A repetition matches its part as often as it says. -/
theorem matches_repetition (hbound : ∀ m ∈ most, least ≤ m) :
    (repetition least most greedy p).Matches i n ↔
      (repeated least most greedy p).Matches i n := by
  rw [repetition]
  cases hp : p.isZeroWidth with
  | false => exact matches_repeated_bounds hbound
  | true =>
    have hbound' : ∀ m ∈ some ((most.getD 1).min 1), least.min 1 ≤ m := by
      rintro _ ⟨⟩
      cases most with
      | none => exact Nat.min_le_right _ _
      | some m =>
        exact Nat.le_min.2
          ⟨Nat.le_trans (Nat.min_le_left _ _) (hbound m rfl), Nat.min_le_right _ _⟩
    exact (matches_repeated_bounds hbound').trans (matches_repeated_zeroWidth hp)

/-! ## Behind an anchor -/

theorem parts_of_mem_parts (h : q ∈ p.parts) : q.parts = [q] := by
  induction p with
  | empty => cases h
  | cat p p' ihp ihp' => exact (List.mem_append.1 h).elim ihp ihp'
  | literal | chars | anchor | group | alt | repeated =>
    cases List.mem_singleton.1 h
    rfl

/-- No literals stand next to each other. -/
def Merged : List Pattern → Prop
  | literal _ :: literal _ :: _ => False
  | _ :: ps => Merged ps
  | [] => True

/-- What stands in a row after concatenation: neither are there concatenations among it, nor could
literals be joined. -/
structure Flat (ps : List Pattern) : Prop where
  single : ∀ p ∈ ps, p.parts = [p]
  merged : Merged ps

theorem Merged.tail (h : Merged (p :: ps)) : Merged ps := by
  unfold Merged at h
  split at h
  · exact h.elim
  · rename_i heq
    cases heq
    exact h
  · trivial

theorem merged_prepend (h : Merged ps) : Merged (prepend p ps) := by
  fun_cases prepend p ps with
  | case1 t u ps =>
    cases ps with
    | nil => trivial
    | cons q ps => cases q <;> exact h
  | case2 _ _ hno =>
    unfold Merged
    split
    · rename_i heq
      cases heq
      exact hno _ _ _ rfl rfl
    · rename_i heq
      cases heq
      exact h
    · trivial

theorem prepend_of_merged (h : Merged (p :: ps)) : prepend p ps = p :: ps := by
  fun_cases prepend p ps with
  | case1 t u ps => exact h.elim
  | case2 => rfl

namespace Flat

theorem prepend (h : Flat ps) (hp : p.parts = [p]) : Flat (prepend p ps) where
  merged := merged_prepend h.merged
  single := by
    fun_cases Pattern.prepend p ps with
    | case1 t u ps =>
      exact List.forall_mem_cons.2 ⟨rfl, fun q hq => h.single q (List.mem_cons_of_mem _ hq)⟩
    | case2 => exact List.forall_mem_cons.2 ⟨hp, h.single⟩

theorem foldr_prepend (h : ∀ p ∈ ps, p.parts = [p]) : Flat (ps.foldr Pattern.prepend []) := by
  induction ps with
  | nil => exact ⟨nofun, trivial⟩
  | cons p ps ih =>
    obtain ⟨hp, hps⟩ := List.forall_mem_cons.1 h
    exact (ih hps).prepend hp

theorem foldr_prepend_eq (h : Merged ps) : ps.foldr Pattern.prepend [] = ps := by
  induction ps with
  | nil => rfl
  | cons p ps ih => rw [List.foldr_cons, ih h.tail, prepend_of_merged h]

theorem flatMap_parts (h : ∀ p ∈ ps, p.parts = [p]) : ps.flatMap parts = ps := by
  induction ps with
  | nil => rfl
  | cons p ps ih =>
    obtain ⟨hp, hps⟩ := List.forall_mem_cons.1 h
    rw [List.flatMap_cons, hp, ih hps, List.singleton_append]

theorem parts_inRow (h : ∀ p ∈ ps, p.parts = [p]) : (inRow ps).parts = ps := by
  induction ps with
  | nil => rfl
  | cons p ps ih =>
    obtain ⟨hp, hps⟩ := List.forall_mem_cons.1 h
    cases ps with
    | nil => exact hp
    | cons q ps =>
      rw [inRow, parts, hp, ih hps, List.singleton_append]
      simp

theorem cons_anchor (h : Flat ps) (a : Anchor) : Flat (anchor a :: ps) where
  single := List.forall_mem_cons.2 ⟨rfl, h.single⟩
  merged := h.merged

end Flat

/-- What a concatenation is made of afterwards. -/
theorem exists_flat (ps : List Pattern) : ∃ qs, Flat qs ∧ concat ps = inRow qs := by
  refine ⟨_, Flat.foldr_prepend fun p hp => ?_, rfl⟩
  obtain ⟨q, -, hp⟩ := List.mem_flatMap.1 hp
  exact parts_of_mem_parts hp

/-- A single branch that begins with an anchor is left as it is. -/
theorem choice_inRow_anchor {a : Anchor} (h : Flat (anchor a :: ps)) :
    choice [inRow (anchor a :: ps)] = inRow (anchor a :: ps) := by
  have hbranches : ([inRow (anchor a :: ps)].flatMap branches).map parts = [anchor a :: ps] := by
    rw [List.flatMap_singleton, branches_inRow_anchor, List.map_singleton,
      Flat.parts_inRow h.single]
  rw [choice, hbranches]
  cases ps with
  | nil => rfl
  | cons p ps =>
    have hshared : shared [anchor a :: p :: ps] = anchor a :: p :: ps := rfl
    have hends : eitherOf (([anchor a :: p :: ps].map fun b =>
        inRow (b.drop (anchor a :: p :: ps).length)).flatMap branches) = empty := by
      rw [List.map_singleton, List.drop_length]
      rfl
    simp only [hshared, hends]
    rw [concat, List.flatMap_append, Flat.flatMap_parts h.single]
    simp [parts, Flat.foldr_prepend_eq h.merged]

theorem choice_concat_anchor (a : Anchor) (h : Flat ps) :
    choice [concat [anchor a, inRow ps]] = inRow (anchor a :: ps) := by
  have hconcat : concat [anchor a, inRow ps] = inRow (anchor a :: ps) := by
    rw [concat_anchor, List.flatMap_singleton, Flat.parts_inRow h.single,
      Flat.foldr_prepend_eq h.merged]
  rw [hconcat, choice_inRow_anchor (h.cons_anchor a)]

theorem ways_inRow_anchor (a : Anchor) (ps : List Pattern) (k : Way) :
    (inRow (anchor a :: ps)).ways n k = .check a ((inRow ps).ways n k) := by
  cases ps with
  | nil => rfl
  | cons p ps => rfl

/-- Being held to the start changes no matches there, nor their order. -/
theorem matchLengths_held (ps : List Pattern) (t : Text) :
    (choice [concat [anchor .textStart, concat ps]]).matchLengths t =
      (concat ps).matchLengths t := by
  obtain ⟨qs, hqs, heq⟩ := exists_flat ps
  rw [heq, choice_concat_anchor _ hqs, matchLengths, ways_inRow_anchor]
  rfl

/-- What was read is kept flat. -/
theorem readRest_ok {fuel : Nat} {groups : List OpenGroup} {l : Level} {s t : Reading}
    (h : readRest fuel groups l s = .ok (p, t)) : ∃ ps, p = concat ps := by
  induction fuel generalizing groups l s with
  | zero =>
    obtain ⟨-, hclose⟩ := finish_ok h
    exact ⟨_, hclose.symm⟩
  | succ fuel ih =>
    rw [readRest_succ] at h
    cases hs : s.blanked.rest.head? with
    | none =>
      rw [hs] at h
      obtain ⟨-, hclose⟩ := finish_ok h
      exact ⟨_, hclose.symm⟩
    | some c =>
      rw [hs] at h
      change (step c groups l s.blanked).bind (fun r => readRest fuel r.1.1 r.1.2 r.2) = _ at h
      cases hstep : step c groups l s.blanked with
      | error e =>
        rw [hstep] at h
        cases h
      | ok r =>
        rw [hstep] at h
        exact ih h

/-- Held to the start, a pattern has the matches that it has there by itself, in the same order. -/
theorem matchLengths_anchored {t : Text} {p' : Pattern} (h : read t = .ok p)
    (h' : read (anchoredText t) = .ok p') (u : Text) : p'.matchLengths u = p.matchLengths u := by
  obtain ⟨r, hr⟩ := read_eq_ok h
  obtain ⟨ps, hps⟩ := readRest_ok hr
  rw [read_anchored h h', hps, matchLengths_held]

end Descent.Pattern
