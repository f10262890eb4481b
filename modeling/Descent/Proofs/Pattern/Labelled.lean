import Descent.Proofs.Pattern.Meaning

/-! # What is written for a pattern

The regular expression of a pattern means what the pattern means. It writes out counted repetitions,
and its labels are the points at which ways part or turn. So a search for it finds the
preferred match of the pattern. -/
namespace Descent

namespace Regex

/-- The labels of an expression lie in a range, and each stands for one thread. -/
structure Numbered (r : Regex) (lo hi : Nat) : Prop where
  range : ∀ rest label th, (label, th) ∈ r.sites rest → lo ≤ label ∧ label < hi
  unambiguous : ∀ rest, Unambiguous (r.sites rest)

namespace Numbered

variable {r a b : Regex} {lo mid hi : Nat} {greedy : Bool}

theorem of_sites (h : ∀ rest, r.sites rest = []) (lo hi : Nat) : r.Numbered lo hi where
  range rest label th hmem := by
    rw [h] at hmem
    cases hmem
  unambiguous rest label th th' hmem := by
    rw [h] at hmem
    cases hmem

theorem mono {lo' hi' : Nat} (h : r.Numbered lo hi) (hlo : lo' ≤ lo) (hhi : hi ≤ hi') :
    r.Numbered lo' hi' where
  range rest label th hmem :=
    have hrange := h.range rest label th hmem
    ⟨Nat.le_trans hlo hrange.1, Nat.lt_of_lt_of_le hrange.2 hhi⟩
  unambiguous := h.unambiguous

theorem once (label : Nat) : (Regex.once label).Numbered label (label + 1) where
  range rest label' th h := by
    cases List.mem_singleton.1 h
    omega
  unambiguous rest label' th th' h h' := by
    cases List.mem_singleton.1 h
    cases List.mem_singleton.1 h'
    rfl

/-- Labels of two ranges do not meet. -/
theorem append {S T : List (Nat × Thread)} (hS : Unambiguous S) (hT : Unambiguous T)
    (hlo : ∀ label th, (label, th) ∈ S → label < mid)
    (hhi : ∀ label th, (label, th) ∈ T → mid ≤ label) : Unambiguous (S ++ T) := by
  intro label th th' h h'
  rcases List.mem_append.1 h with h | h <;> rcases List.mem_append.1 h' with h' | h'
  · exact hS label th th' h h'
  · have := hlo label th h
    have := hhi label th' h'
    omega
  · have := hhi label th h
    have := hlo label th' h'
    omega
  · exact hT label th th' h h'

theorem cat (ha : a.Numbered lo mid) (hb : b.Numbered mid hi) (hlo : lo ≤ mid) (hhi : mid ≤ hi) :
    (Regex.cat a b).Numbered lo hi where
  range rest label th h := by
    rcases List.mem_append.1 h with h | h
    · exact (ha.mono (Nat.le_refl lo) hhi).range _ label th h
    · exact (hb.mono hlo (Nat.le_refl hi)).range _ label th h
  unambiguous rest := append (ha.unambiguous _) (hb.unambiguous _)
    (fun label th h => (ha.range _ label th h).2) fun label th h => (hb.range _ label th h).1

theorem alt (ha : a.Numbered lo mid) (hb : b.Numbered mid hi) (hlo : lo ≤ mid) (hhi : mid ≤ hi) :
    (Regex.alt a b).Numbered lo hi where
  range rest label th h := by
    rcases List.mem_append.1 h with h | h
    · exact (ha.mono (Nat.le_refl lo) hhi).range _ label th h
    · exact (hb.mono hlo (Nat.le_refl hi)).range _ label th h
  unambiguous rest := append (ha.unambiguous _) (hb.unambiguous _)
    (fun label th h => (ha.range _ label th h).2) fun label th h => (hb.range _ label th h).1

theorem seq (ha : a.Numbered lo mid) (hb : b.Numbered mid hi) (hlo : lo ≤ mid) (hhi : mid ≤ hi) :
    (Regex.seq a b).Numbered lo hi := by
  cases a with
  | empty => exact hb.mono hlo (Nat.le_refl hi)
  | _ => exact ha.cat hb hlo hhi

theorem again (ha : a.Numbered lo hi) (hlo : lo ≤ hi) :
    (Regex.again hi greedy a).Numbered lo (hi + 1) where
  range rest label th h := by
    rcases List.mem_cons.1 h with h | h
    · cases h
      omega
    · have := ha.range _ label th h
      omega
  unambiguous rest label th th' h h' := by
    rcases List.mem_cons.1 h with h | h <;> rcases List.mem_cons.1 h' with h' | h'
    · cases h
      cases h'
      rfl
    · cases h
      have := ha.range _ _ th' h'
      omega
    · cases h'
      have := ha.range _ _ th h
      omega
    · exact ha.unambiguous _ label th th' h h'

/-- The first turn of a loop has the labels of the others. -/
theorem oneOrMore (ha : a.Numbered lo hi) (hlo : lo ≤ hi) :
    (Regex.cat a (Regex.again hi greedy a)).Numbered lo (hi + 1) := by
  -- the first turn is followed by the loop, and so are its later turns: the same threads
  have hsub : ∀ rest, (Regex.cat a (Regex.again hi greedy a)).sites rest ⊆
      (Regex.again hi greedy a).sites rest := fun rest =>
    List.append_subset.2 ⟨List.subset_cons_self _ _, List.Subset.refl _⟩
  have hagain : (Regex.again hi greedy a).Numbered lo (hi + 1) := ha.again hlo
  exact ⟨fun rest label th h => hagain.range rest label th (hsub rest h),
    fun rest label th th' h h' => hagain.unambiguous rest label th th' (hsub rest h) (hsub rest h')⟩

end Numbered
end Regex

/-! ## What is written means the same -/

namespace Pattern

/-- The computation writes an expression with the given number of points, ways and matches. -/
structure Writes (written : Labelling Regex) (points : Nat) (ways : Nat → Way → Way)
    (matching : Place → Nat → Prop) : Prop where
  count : ∀ n, (written n).2 = n + points
  numbered : ∀ n, (written n).1.Numbered n (n + points)
  ways : ∀ n k, (written n).1.ways k = ways n k
  matching : ∀ n i m, (written n).1.Matches i m ↔ matching i m

namespace Writes

variable {written written' : Labelling Regex} {points points' : Nat} {ways ways' : Nat → Way → Way}
variable {matching matching' : Place → Nat → Prop} {greedy : Bool}

theorem congr (h : Writes written points ways matching) (hpoints : points' = points)
    (hways : ∀ n k, ways' n k = ways n k) (hmatching : ∀ i m, matching' i m ↔ matching i m) :
    Writes written points' ways' matching' where
  count n := hpoints ▸ h.count n
  numbered n := hpoints ▸ h.numbered n
  ways n k := (h.ways n k).trans (hways n k).symm
  matching n i m := (h.matching n i m).trans (hmatching i m).symm

theorem pure {r : Regex} (hr : ∀ rest, r.sites rest = []) :
    Writes (Pure.pure r) 0 (fun _ k => r.ways k) r.Matches where
  count _ := rfl
  numbered _ := .of_sites hr _ _
  ways _ _ := rfl
  matching _ _ _ := Iff.rfl

theorem seq_ways (a b : Regex) (k : Way) : (Regex.seq a b).ways k = a.ways (b.ways k) := by
  cases a <;> rfl

theorem seq_matches (a b : Regex) (i : Place) (n : Nat) :
    (Regex.seq a b).Matches i n ↔ ∃ m k, n = m + k ∧ a.Matches i m ∧ b.Matches (i.past m) k := by
  cases a with
  | empty =>
    constructor
    · exact fun h => ⟨0, n, (Nat.zero_add n).symm, rfl, h⟩
    · rintro ⟨_, k, rfl, rfl, h⟩
      rwa [Nat.zero_add]
  | _ => rfl

theorem seq (h : Writes written points ways matching)
    (h' : Writes written' points' ways' matching') :
    Writes (do return .seq (← written) (← written')) (points + points')
      (fun n k => ways n (ways' (n + points) k))
      (fun i n => ∃ m k, n = m + k ∧ matching i m ∧ matching' (i.past m) k) where
  count n := by
    change (written' (written n).2).2 = _
    rw [h.count, h'.count, Nat.add_assoc]
  numbered n := by
    change (Regex.seq (written n).1 (written' (written n).2).1).Numbered _ _
    rw [h.count, ← Nat.add_assoc]
    exact (h.numbered n).seq (h'.numbered _) (Nat.le_add_right _ _) (Nat.le_add_right _ _)
  ways n k := by
    change (Regex.seq (written n).1 (written' (written n).2).1).ways k = _
    rw [seq_ways, h.ways, h'.ways, h.count]
  matching n i m := by
    change (Regex.seq (written n).1 (written' (written n).2).1).Matches i m ↔ _
    rw [seq_matches]
    simp only [h.matching, h'.matching]

theorem alt (h : Writes written points ways matching)
    (h' : Writes written' points' ways' matching') :
    Writes (do return .alt (← written) (← written')) (points + points')
      (fun n k => (ways n k).orElse (ways' (n + points) k))
      (fun i n => matching i n ∨ matching' i n) where
  count n := by
    change (written' (written n).2).2 = _
    rw [h.count, h'.count, Nat.add_assoc]
  numbered n := by
    change (Regex.alt (written n).1 (written' (written n).2).1).Numbered _ _
    rw [h.count, ← Nat.add_assoc]
    exact (h.numbered n).alt (h'.numbered _) (Nat.le_add_right _ _) (Nat.le_add_right _ _)
  ways n k := by
    change ((written n).1.ways k).orElse ((written' (written n).2).1.ways k) = _
    rw [h.ways, h'.ways, h.count]
  matching n i m := or_congr (h.matching n i m) (h'.matching _ i m)

/-- The way on without what may be left out has the place in the order that the greed says. -/
theorem skippable (h : Writes written points ways matching) :
    Writes (do return Pattern.skippable greedy (← written)) points
      (fun n k => .prefer greedy (ways n k) k) (fun i n => matching i n ∨ n = 0) := by
  have hempty : Writes (Pure.pure .empty) 0 (fun _ k => k) fun _ n => n = 0 :=
    pure fun _ => rfl
  cases greedy with
  | true => exact h.alt hempty
  | false =>
    refine (hempty.alt h).congr (Nat.zero_add points).symm (fun n k => rfl) fun i m => or_comm

/-- A point before what is written. -/
theorem fork (h : Writes written points ways matching) :
    Writes (do let fork ← label; return .cat (.once fork) (← written)) (1 + points)
      (fun n k => .pass n (ways (n + 1) k)) matching where
  count n := by
    change (written (n + 1)).2 = _
    rw [h.count, Nat.add_assoc]
  numbered n := by
    change (Regex.cat (.once n) (written (n + 1)).1).Numbered _ _
    rw [← Nat.add_assoc]
    exact (Regex.Numbered.once n).cat (h.numbered (n + 1)) (by omega) (by omega)
  ways n k := congrArg (Way.pass n) (h.ways (n + 1) k)
  matching n i m := by
    rw [← h.matching (n + 1)]
    constructor
    · rintro ⟨_, k, rfl, rfl, hm⟩
      rwa [Nat.zero_add]
    · exact fun hm => ⟨0, m, (Nat.zero_add m).symm, rfl, hm⟩

theorem again (h : Writes written points ways matching) :
    Writes (do let r ← written; return .again (← label) greedy r) (points + 1)
      (fun n k => .loop greedy (n + points) (ways n) k) (fun i n => ∃ t, Times matching t i n) where
  count n := congrArg (· + 1) (h.count n)
  numbered n := by
    change (Regex.again (written n).2 greedy (written n).1).Numbered _ _
    rw [h.count]
    exact (h.numbered n).again (by omega)
  ways n k := by
    change Way.loop greedy (written n).2 (written n).1.ways k = _
    rw [h.count, funext (h.ways n)]
  matching n i m := by
    have hmatching : (written n).1.Matches = matching :=
      funext fun i => funext fun m => propext (h.matching n i m)
    change (∃ t, Times (written n).1.Matches t i m) ↔ _
    rw [hmatching]

theorem plus (h : Writes written points ways matching) :
    Writes (Pattern.plus greedy written) (points + 1) (oneOrMore greedy points ways)
      (fun i n => ∃ t, 0 < t ∧ Times matching t i n) where
  count n := congrArg (· + 1) (h.count n)
  numbered n := by
    change (Regex.cat (written n).1 (.again (written n).2 greedy (written n).1)).Numbered _ _
    rw [h.count]
    exact (h.numbered n).oneOrMore (by omega)
  ways n k := by
    change (written n).1.ways (Way.loop greedy (written n).2 (written n).1.ways k) = _
    rw [h.count, funext (h.ways n)]
    rfl
  matching n i m := by
    have hmatching : (written n).1.Matches = matching :=
      funext fun i => funext fun m => propext (h.matching n i m)
    change (∃ a b, m = a + b ∧ (written n).1.Matches i a ∧
      ∃ t, Times (written n).1.Matches t (i.past a) b) ↔ _
    rw [hmatching]
    constructor
    · rintro ⟨a, b, hm, ha, t, hb⟩
      exact ⟨t + 1, Nat.succ_pos t, a, b, hm, ha, hb⟩
    · rintro ⟨t, ht, h⟩
      obtain ⟨t, rfl⟩ := Nat.exists_eq_succ_of_ne_zero (Nat.ne_of_gt ht)
      obtain ⟨a, b, hm, ha, hb⟩ := h
      exact ⟨a, b, hm, ha, t, hb⟩

/-- Copies in a row, with something behind them. -/
theorem copies (h : Writes written points ways matching)
    (h' : Writes written' points' ways' matching') (count : Nat) :
    Writes (do
        let first ← Pattern.copies count written
        let rest ← written'
        return first.foldr .seq rest)
      (count * points + points')
      (fun n k => inTurn points ways count n (ways' (n + count * points) k))
      (fun i n => ∃ m k, n = m + k ∧ Times matching count i m ∧ matching' (i.past m) k) := by
  induction count with
  | zero =>
    refine h'.congr (by simp) (fun n k => ?_) fun i n => ?_
    · simp [inTurn]
    · constructor
      · rintro ⟨_, k, rfl, rfl, hk⟩
        rwa [Nat.zero_add]
      · exact fun hn => ⟨0, n, (Nat.zero_add n).symm, rfl, hn⟩
  | succ count ih =>
    have hcopies : Pattern.copies (count + 1) written =
        (do return (← written) :: (← Pattern.copies count written)) := by
      rw [Pattern.copies, List.replicate_succ, List.mapM_cons]
      rfl
    rw [hcopies]
    refine (h.seq ih).congr (by rw [Nat.succ_mul]; omega) (fun n k => ?_) fun i n => ?_
    · rw [add_succ_mul]
      rfl
    · constructor
      · rintro ⟨_, l, rfl, ⟨m, k, rfl, hm, hk⟩, hl⟩
        exact ⟨m, k + l, Nat.add_assoc .., hm, k, l, rfl, hk, i.past_past m k ▸ hl⟩
      · rintro ⟨m, _, rfl, hm, k, l, rfl, hk, hl⟩
        exact ⟨m + k, l, (Nat.add_assoc ..).symm, ⟨m, k, rfl, hm, hk⟩,
          i.past_past m k ▸ hl⟩

theorem upTo (h : Writes written points ways matching) (count : Nat) :
    Writes (Pattern.upTo greedy count written) (count * (1 + points))
      (Pattern.atMost greedy points ways count) (fun i n => ∃ t, t ≤ count ∧ Times matching t i n) := by
  induction count with
  | zero =>
    have hempty : Writes (Pure.pure .empty) 0 (fun _ k => k) fun _ n => n = 0 := pure fun _ => rfl
    refine hempty.congr (Nat.zero_mul _) (fun _ _ => rfl) fun i n => ?_
    constructor
    · rintro ⟨t, ht, h⟩
      obtain rfl := Nat.le_zero.1 ht
      exact h
    · exact fun hn => ⟨0, Nat.le_refl 0, hn⟩
  | succ count ih =>
    have hturns : Pattern.upTo greedy (count + 1) written =
        (do let fork ← label
            return .cat (.once fork) (Pattern.skippable greedy
              (.seq (← written) (← Pattern.upTo greedy count written)))) := by
      rw [Pattern.upTo, Pattern.copies, List.replicate_succ, List.mapM_cons]
      rfl
    rw [hturns]
    refine (h.seq ih).skippable.fork.congr ?_ (fun n k => rfl) fun i n => times_le_succ
    rw [Nat.succ_mul]
    omega

theorem star (h : Writes written points ways matching) (nullable : Bool) :
    Writes (Pattern.star greedy nullable written)
      (if nullable then points + 2 else points + 1) (anyNumber greedy points ways nullable)
      (fun i n => ∃ t, Times matching t i n) := by
  cases nullable with
  | false => exact h.again
  | true =>
    refine h.plus.skippable.fork.congr (by simp; omega) (fun n k => rfl) fun i n => ?_
    constructor
    · rintro ⟨t, ht⟩
      cases t with
      | zero => exact .inr ht
      | succ t => exact .inl ⟨t + 1, Nat.succ_pos t, ht⟩
    · rintro (⟨t, -, ht⟩ | rfl)
      · exact ⟨t, ht⟩
      · exact ⟨0, rfl⟩

end Writes

theorem spell_writes (t : Text) :
    Writes (pure (.spell t)) 0 (fun _ k => t.foldr (fun c k => .read (.single c) k) k)
      (fun i n => n = t.length ∧ t <+: i.ahead) := by
  induction t with
  | nil =>
    refine (Writes.pure fun _ => rfl).congr rfl (fun _ _ => rfl) fun i n => ?_
    exact and_iff_left List.nil_prefix
  | cons c t ih =>
    have hchar : Writes (pure (.chars (.single c))) 0 (fun _ k => .read (.single c) k)
        (fun i n => n = 1 ∧ ∃ d ∈ i.ahead.head?, (CharSet.single c).mem d) := .pure fun _ => rfl
    refine (hchar.seq ih).congr rfl (fun _ _ => rfl) fun i n => ?_
    constructor
    · rintro ⟨hn, u, hu⟩
      have hpast : (i.past 1).ahead = t ++ u := by
        rw [Place.past, ← hu]
        rfl
      refine ⟨1, t.length, by rw [hn, List.length_cons, Nat.add_comm], ⟨rfl, c, ?_, ?_⟩, rfl, ?_⟩
      · rw [← hu]
        rfl
      · exact CharSet.mem_single.2 rfl
      · exact ⟨u, hpast.symm⟩
    · rintro ⟨_, _, rfl, ⟨rfl, d, hd, hmem⟩, rfl, u, hu⟩
      obtain rfl := CharSet.mem_single.1 hmem
      obtain ⟨v, hv⟩ := List.head?_eq_some_iff.1 hd
      refine ⟨Nat.add_comm .., u, ?_⟩
      rw [hv, List.cons_append, hu, Place.past, hv]
      rfl

theorem repeated_writes {p : Pattern} (ih : Writes p.labelled p.points p.ways p.Matches)
    (least : Nat) (most : Option Nat) (greedy : Bool) :
    Writes (labelled (.repeated least most greedy p)) (points (.repeated least most greedy p))
      (ways (.repeated least most greedy p)) (Matches (.repeated least most greedy p)) := by
  cases most with
  | some most =>
    rw [labelled]
    refine (ih.copies (ih.upTo (most - least)) least).congr rfl (fun n k => rfl) fun i n => ?_
    rw [times_and_more, Matches]
    refine exists_congr fun times => and_congr_right fun hle => and_congr_left fun _ => ?_
    simp only [Option.mem_def, Option.some.injEq, forall_eq']
    omega
  | none =>
    rw [labelled]
    by_cases hleast : least = 0
    · simp only [if_pos hleast]
      refine (ih.star p.isNullable).congr ?_ (fun n k => ?_) fun i n => ?_
      · rw [points, if_pos hleast]
      · rw [ways, if_pos hleast]
      · simp [Matches, hleast]
    · simp only [if_neg hleast]
      refine (ih.copies ih.plus (least - 1)).congr ?_ (fun n k => ?_) fun i n => ?_
      · rw [points, if_neg hleast]
      · rw [ways, if_neg hleast]
      · rw [times_and_more, Matches]
        refine exists_congr fun times => ?_
        have hle : least ≤ times ↔ least - 1 ≤ times ∧ 0 < times - (least - 1) := by omega
        simp [hle, and_assoc]

theorem labelled_writes (p : Pattern) : Writes p.labelled p.points p.ways p.Matches := by
  induction p with
  | empty => exact .pure fun _ => rfl
  | literal t => exact spell_writes t
  | chars u s => exact .pure fun _ => rfl
  | anchor a => exact .pure fun _ => rfl
  | group index p ih => exact ih
  | cat p q ihp ihq => exact ihp.seq ihq
  | alt p q ihp ihq =>
    exact (ihp.alt ihq).fork.congr (by rw [points, Nat.add_assoc]) (fun _ _ => rfl) fun _ _ => Iff.rfl
  | repeated least most greedy p ih => exact repeated_writes ih least most greedy

theorem toRegex_matches (p : Pattern) (i : Place) (n : Nat) :
    p.toRegex.Matches i n ↔ p.Matches i n :=
  p.labelled_writes.matching 0 i n

theorem lengths_toRegex (p : Pattern) (t : Text) :
    Regex.lengths [p.toRegex] none t = p.matchLengths t := by
  rw [Regex.lengths_eq_ways]
  exact congrFun (congrFun (p.labelled_writes.ways 0 _) _) _

theorem unambiguous_toRegex (p : Pattern) : Regex.Unambiguous (Regex.threadSites [p.toRegex]) := by
  have hsites : Regex.threadSites [p.toRegex] = p.toRegex.sites [] := List.append_nil _
  rw [hsites]
  exact (p.labelled_writes.numbered 0).unambiguous []

/-- The search finds the preferred match of a pattern. -/
theorem atStart_toRegex (p : Pattern) (t : Text) :
    p.toRegex.atStart t = (p.matchLengths t).head? := by
  rw [Regex.atStart_eq p.unambiguous_toRegex, lengths_toRegex]

/-- What the ways through a pattern come to is what it matches. -/
theorem mem_matchLengths {p : Pattern} {t : Text} {n : Nat} :
    n ∈ p.matchLengths t ↔ p.Matches ⟨none, t⟩ n := by
  rw [← lengths_toRegex, Regex.mem_lengths_single_iff p.unambiguous_toRegex, toRegex_matches]

end Pattern
end Descent
