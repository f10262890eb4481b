import Descent.Proofs.Pattern.Plain

/-! # Patterns that prefer the longest

A pattern without anchors is a set of texts, and it matches the prefixes that are in the set. What
it prefers among them depends on how it is written. Where greedy repetitions of characters are
followed by nothing that these characters could begin, the longest prefix is preferred. -/
namespace Descent

/-- Among the prefixes of `t` with the property, `w` is the longest. -/
structure Text.LongestPrefix (P : Text → Prop) (t w : Text) : Prop where
  holds : P w
  start : w <+: t
  length_le : ∀ u, P u → u <+: t → u.length ≤ w.length

namespace Pattern

/-! ## The texts of a pattern -/

def AnchorFree : Pattern → Prop
  | empty => True
  | literal _ => True
  | chars _ _ => True
  | anchor _ => False
  | group _ p => p.AnchorFree
  | cat p q => p.AnchorFree ∧ q.AnchorFree
  | alt p q => p.AnchorFree ∧ q.AnchorFree
  | repeated _ _ _ p => p.AnchorFree

/-- The text is one of those that the pattern is made for, whatever stands around it. -/
def Accepts : Pattern → Text → Prop
  | empty, w => w = []
  | literal t, w => w = t
  | chars _ s, w => ∃ c, s.mem c ∧ w = [c]
  | anchor _, _ => False
  | group _ p, w => p.Accepts w
  | cat p q, w => ∃ u v, w = u ++ v ∧ p.Accepts u ∧ q.Accepts v
  | alt p q, w => p.Accepts w ∨ q.Accepts w
  | repeated least most _ p, w => ∃ us : List Text, w = us.flatten ∧ least ≤ us.length ∧
      (∀ m ∈ most, us.length ≤ max least m) ∧ ∀ u ∈ us, p.Accepts u

variable {p q : Pattern} {s : CharSet} {i : Place} {n : Nat} {t u v w : Text}

theorem append_prefix_iff : u ++ v <+: t ↔ u <+: t ∧ v <+: t.drop u.length := by
  constructor
  · rintro ⟨rest, rfl⟩
    rw [List.append_assoc, List.drop_left]
    exact ⟨List.prefix_append _ _, List.prefix_append _ _⟩
  · rintro ⟨⟨rest, rfl⟩, hv⟩
    rw [List.drop_left] at hv
    exact (List.prefix_append_right_inj u).2 hv

/-- The match is one of the texts. -/
def MatchesText (p : Pattern) (i : Place) (n : Nat) : Prop :=
  ∃ w, p.Accepts w ∧ w <+: i.ahead ∧ w.length = n

theorem times_matches_iff {times : Nat} (hp : ∀ i n, p.Matches i n ↔ p.MatchesText i n) :
    Times p.Matches times i n ↔ ∃ us : List Text, us.length = times ∧ (∀ u ∈ us, p.Accepts u) ∧
      us.flatten <+: i.ahead ∧ us.flatten.length = n := by
  induction times generalizing i n with
  | zero =>
    constructor
    · rintro rfl
      exact ⟨[], rfl, nofun, List.nil_prefix, rfl⟩
    · rintro ⟨us, hus, -, -, rfl⟩
      rw [List.length_eq_zero_iff.1 hus]
      rfl
  | succ times ih =>
    constructor
    · rintro ⟨m, k, rfl, hm, hk⟩
      obtain ⟨u, hu, hstart, rfl⟩ := (hp _ _).1 hm
      obtain ⟨us, rfl, hus, hrest, rfl⟩ := ih.1 hk
      refine ⟨u :: us, rfl, List.forall_mem_cons.2 ⟨hu, hus⟩, ?_, ?_⟩
      · exact append_prefix_iff.2 ⟨hstart, hrest⟩
      · exact List.length_append
    · rintro ⟨us, hlength, hus, hstart, rfl⟩
      obtain ⟨u, us, rfl⟩ := List.exists_cons_of_length_eq_add_one hlength
      obtain ⟨hu, hus⟩ := List.forall_mem_cons.1 hus
      obtain ⟨hfirst, hrest⟩ := append_prefix_iff.1 hstart
      exact ⟨u.length, us.flatten.length, List.length_append, (hp _ _).2 ⟨u, hu, hfirst, rfl⟩,
        ih.2 ⟨us, Nat.succ.inj hlength, hus, hrest, rfl⟩⟩

/-- A pattern without anchors matches its texts wherever they stand, and nothing else. -/
theorem matches_iff_accepts (hp : p.AnchorFree) : p.Matches i n ↔ p.MatchesText i n := by
  induction p generalizing i n with
  | empty =>
    constructor
    · rintro rfl
      exact ⟨[], rfl, List.nil_prefix, rfl⟩
    · rintro ⟨_, rfl, -, rfl⟩
      rfl
  | literal t =>
    constructor
    · rintro ⟨rfl, ht⟩
      exact ⟨t, rfl, ht, rfl⟩
    · rintro ⟨_, rfl, ht, rfl⟩
      exact ⟨rfl, ht⟩
  | chars unicode s =>
    constructor
    · rintro ⟨rfl, c, hc, hs⟩
      obtain ⟨t, ht⟩ := List.head?_eq_some_iff.1 hc
      refine ⟨[c], ⟨c, hs, rfl⟩, ?_, rfl⟩
      rw [ht]
      exact ⟨t, rfl⟩
    · rintro ⟨_, ⟨c, hs, rfl⟩, ⟨t, ht⟩, rfl⟩
      refine ⟨rfl, c, ?_, hs⟩
      rw [← ht]
      rfl
  | anchor a => exact hp.elim
  | group index p ih => exact ih hp
  | cat p q ihp ihq =>
    constructor
    · rintro ⟨m, k, rfl, hm, hk⟩
      obtain ⟨u, hu, hstart, rfl⟩ := (ihp hp.1).1 hm
      obtain ⟨v, hv, hrest, rfl⟩ := (ihq hp.2).1 hk
      exact ⟨u ++ v, ⟨u, v, rfl, hu, hv⟩, append_prefix_iff.2 ⟨hstart, hrest⟩,
        List.length_append⟩
    · rintro ⟨_, ⟨u, v, rfl, hu, hv⟩, hstart, rfl⟩
      obtain ⟨hfirst, hrest⟩ := append_prefix_iff.1 hstart
      exact ⟨u.length, v.length, List.length_append, (ihp hp.1).2 ⟨u, hu, hfirst, rfl⟩,
        (ihq hp.2).2 ⟨v, hv, hrest, rfl⟩⟩
  | alt p q ihp ihq =>
    refine (or_congr (ihp hp.1) (ihq hp.2)).trans ?_
    simp only [MatchesText, Accepts, or_and_right, exists_or]
  | repeated least most greedy p ih =>
    rw [Matches]
    simp only [times_matches_iff fun i n => ih (i := i) (n := n) hp]
    constructor
    · rintro ⟨_, hleast, hmost, us, rfl, hus, hstart, hlength⟩
      exact ⟨us.flatten, ⟨us, rfl, hleast, hmost, hus⟩, hstart, hlength⟩
    · rintro ⟨_, ⟨us, rfl, hleast, hmost, hus⟩, hstart, hlength⟩
      exact ⟨us.length, hleast, hmost, us, rfl, hus, hstart, hlength⟩

theorem length_flatten_singles {us : List Text} (h : ∀ u ∈ us, ∃ c, s.mem c ∧ u = [c]) :
    us.flatten.length = us.length := by
  induction us with
  | nil => rfl
  | cons u us ih =>
    obtain ⟨⟨c, -, rfl⟩, hus⟩ := List.forall_mem_cons.1 h
    rw [List.flatten_cons, List.length_append, ih hus, List.length_singleton, List.length_cons,
      Nat.add_comm]

/-- Characters of a set in a row, and enough of them. -/
theorem accepts_repeated_chars {least : Nat} {greedy unicode : Bool} :
    (repeated least none greedy (chars unicode s)).Accepts w ↔
      least ≤ w.length ∧ ∀ c ∈ w, s.mem c := by
  constructor
  · rintro ⟨us, rfl, hleast, -, hus⟩
    refine ⟨(length_flatten_singles hus).symm ▸ hleast, fun c hc => ?_⟩
    obtain ⟨u, hu, hcu⟩ := List.mem_flatten.1 hc
    obtain ⟨d, hd, rfl⟩ := hus u hu
    rwa [List.mem_singleton.1 hcu]
  · rintro ⟨hleast, hw⟩
    refine ⟨w.map fun c => [c], ?_, ?_, nofun, fun u hu => ?_⟩
    · rw [← List.flatMap_def, List.flatMap_singleton']
    · rwa [List.length_map]
    · obtain ⟨c, hc, rfl⟩ := List.mem_map.1 hu
      exact ⟨c, hw c hc, rfl⟩

theorem accepts_optional {greedy : Bool} :
    (repeated 0 (some 1) greedy p).Accepts w ↔ w = [] ∨ p.Accepts w := by
  constructor
  · rintro ⟨us, rfl, -, hmost, hus⟩
    match us, hmost 1 rfl with
    | [], _ => exact .inl rfl
    | [u], _ =>
      rw [List.flatten_singleton]
      exact .inr (hus u (List.mem_singleton_self u))
  · rintro (rfl | hw)
    · exact ⟨[], rfl, Nat.le_refl 0, fun _ _ => Nat.zero_le _, nofun⟩
    · refine ⟨[w], List.flatten_singleton.symm, Nat.zero_le 1, ?_, List.forall_mem_singleton.2 hw⟩
      rintro _ ⟨⟩
      exact Nat.le_refl 1

end Pattern

namespace Plan

/-! ## What is tried first -/

/-- At every place, what is tried first is the longest. -/
def Longest (k : Plan) : Prop := ∀ i, ∀ n ∈ k i, ∀ m ∈ (k i).head?, n ≤ m

/-- Nothing is read where a character of the set comes next. -/
def Stops (s : CharSet) (k : Plan) : Prop :=
  ∀ i, (∃ c ∈ i.ahead.head?, s.mem c) → ∀ n ∈ k i, n = 0

/-- Every way on begins with a character of the set. -/
def Opens (s : CharSet) (k : Plan) : Prop := ∀ i, ∀ n ∈ k i, ∃ c ∈ i.ahead.head?, s.mem c

variable {k k' : Plan} {s s' : CharSet} {i : Place} {n : Nat}

theorem mem_read : n ∈ read s k i ↔
    (∃ c ∈ i.ahead.head?, s.mem c) ∧ ∃ m ∈ k (i.past 1), n = m + 1 := by
  rw [read]
  cases hi : i.ahead with
  | nil => simp
  | cons c t =>
    cases hc : s.mem c with
    | false => simp [hc]
    | true =>
      simp only [if_true, List.mem_map, List.head?_cons, Option.mem_some_iff, exists_eq_left', hc,
        true_and]
      exact exists_congr fun m => and_congr_right' eq_comm

theorem longest_done : Longest fun _ => [0] := by
  intro i n hn m hm
  cases List.mem_singleton.1 hn
  exact Nat.zero_le m

theorem stops_done : Stops s fun _ => [0] := fun _ _ _ hn => List.mem_singleton.1 hn

theorem Longest.read (hk : k.Longest) : (read s k).Longest := by
  intro i n hn m hm
  obtain ⟨-, n', hn', rfl⟩ := mem_read.1 hn
  rw [Plan.read] at hm
  cases hi : i.ahead with
  | nil =>
    rw [hi] at hm
    cases hm
  | cons c t =>
    rw [hi] at hm
    simp only at hm
    split at hm
    · rw [List.head?_map] at hm
      obtain ⟨m', hm', rfl⟩ := Option.map_eq_some_iff.1 hm
      exact Nat.succ_le_succ (hk _ n' hn' m' hm')
    · cases hm

theorem opens_read (s : CharSet) (k : Plan) : (read s k).Opens s :=
  fun _ _ hn => (mem_read.1 hn).1

theorem Opens.orElse (hk : k.Opens s) (hk' : k'.Opens s) : (k.orElse k').Opens s :=
  fun i n hn => (List.mem_append.1 hn).elim (hk i n) (hk' i n)

/-- Nothing is read where a character of another set comes next. -/
theorem Opens.stops (hk : k.Opens s) (h : ∀ c, s.mem c → ¬ s'.mem c) : k.Stops s' := by
  rintro i ⟨c, hc, hs'⟩ n hn
  obtain ⟨d, hd, hs⟩ := hk i n hn
  cases hc.symm.trans hd
  exact absurd hs' (h c hs)

theorem stops_read (h : ∀ c, s.mem c → ¬ s'.mem c) : (read s k).Stops s' :=
  (opens_read s k).stops h

theorem Stops.orElse (hk : k.Stops s) (hk' : k'.Stops s) : (k.orElse k').Stops s :=
  fun i hi n hn => (List.mem_append.1 hn).elim (hk i hi n) (hk' i hi n)

/-- Of two ways on, the first is at least as long wherever both are there. -/
theorem Longest.orElse (hk : k.Longest) (hk' : k'.Longest)
    (h : ∀ i, ∀ m ∈ k i, ∀ n ∈ k' i, n ≤ m) : (k.orElse k').Longest := by
  intro i n hn m hm
  rw [Plan.orElse] at hn hm
  cases hki : k i with
  | nil =>
    rw [hki] at hn hm
    exact hk' i n hn m hm
  | cons l ls =>
    have hhead : l ∈ (k i).head? := by
      rw [hki]
      rfl
    rw [hki] at hm
    obtain rfl : l = m := Option.some.inj hm
    rcases List.mem_append.1 hn with hn | hn
    · exact hk i n hn l hhead
    · exact h i l (List.mem_of_mem_head? hhead) n hn

/-- A character may be left out where what follows cannot begin with it. -/
theorem Longest.read_orElse (hk : k.Longest) (hk' : k'.Longest) (hs : k'.Stops s) :
    ((Plan.read s k).orElse k').Longest := by
  refine hk.read.orElse hk' fun i m hm n hn => ?_
  rw [hs i (mem_read.1 hm).1 n hn]
  exact Nat.zero_le m

/-- What holds of the ways on behind a greedy loop, and stays true with one turn more, holds of the
loop. -/
theorem loop_of_turns {body : Plan → Plan} {P : Place → List Nat → Prop} (hk : ∀ i, P i (k i))
    (hturn : ∀ k', (∀ i, P i (k' i)) → ∀ i, P i ((body k').orElse k i)) (i : Place) :
    P i (loop true body k i) := by
  have hupTo : ∀ count i, P i (upTo true body count k i) := by
    intro count
    induction count with
    | zero => exact hk
    | succ count ih => exact hturn _ ih
  exact hupTo _ i

/-- A greedy loop over a set takes all characters there are of it. -/
theorem Longest.loop (hk : k.Longest) (hs : k.Stops s) : (loop true (Plan.read s) k).Longest :=
  loop_of_turns (P := fun _ ways => ∀ n ∈ ways, ∀ m ∈ ways.head?, n ≤ m) hk
    fun _ hk' => Longest.read_orElse hk' hk hs

/-- Where the turns of a greedy loop begin like what follows it, one turn more must be at least as
long as leaving the loop. -/
theorem Longest.loop_of_le {body : Plan → Plan} (hk : k.Longest) (hopens : k.Opens s)
    (hbody : ∀ k', (body k').Opens s) (hturn : ∀ k' : Plan, k'.Longest → k'.Opens s →
      (body k').Longest ∧ ∀ i, ∀ m ∈ body k' i, ∀ n ∈ k i, n ≤ m) :
    (Plan.loop true body k).Longest ∧ (Plan.loop true body k).Opens s := by
  have hloop := @loop_of_turns k body (fun i ways =>
    (∀ n ∈ ways, ∀ m ∈ ways.head?, n ≤ m) ∧ ∀ n ∈ ways, ∃ c ∈ i.ahead.head?, s.mem c)
    (fun i => ⟨hk i, hopens i⟩) fun k' hk' i => by
      obtain ⟨hlongest, hle⟩ := hturn k' (fun i => (hk' i).1) fun i => (hk' i).2
      exact ⟨hlongest.orElse hk hle i, (hbody k').orElse hopens i⟩
  exact ⟨fun i => (hloop i).1, fun i => (hloop i).2⟩

/-! ## Runs of characters -/

/-- How many characters of the set come next. -/
def run (s : CharSet) (i : Place) : Nat := (i.ahead.takeWhile s.mem).length

/-- Every way on takes all characters of the set that come next. -/
def Covers (s : CharSet) (k : Plan) : Prop := ∀ i, ∀ n ∈ k i, run s i ≤ n

/-- No way on goes past the characters of the set that come next. -/
def Within (s : CharSet) (k : Plan) : Prop := ∀ i, ∀ n ∈ k i, n ≤ run s i

theorem run_le_past (s : CharSet) (i : Place) : run s i ≤ run s (i.past 1) + 1 := by
  cases hi : i.ahead with
  | nil => simp [run, hi]
  | cons c t =>
    cases hc : s.mem c with
    | false => simp [run, hi, hc]
    | true => simp [run, Place.past, hi, hc]

theorem run_eq_past (h : ∃ c ∈ i.ahead.head?, s.mem c) : run s i = run s (i.past 1) + 1 := by
  obtain ⟨c, hc, hs⟩ := h
  obtain ⟨t, ht⟩ := List.head?_eq_some_iff.1 hc
  simp [run, Place.past, ht, hs]

theorem run_eq_zero (h : ∀ c ∈ i.ahead.head?, s.mem c = false) : run s i = 0 := by
  cases hi : i.ahead with
  | nil => simp [run, hi]
  | cons c t =>
    have hc : s.mem c = false := h c (by simp [hi])
    simp [run, hi, hc]

/-- There is no run to take where a character of another set comes next. -/
theorem Opens.covers (hk : k.Opens s) (h : ∀ c, s.mem c → ¬ s'.mem c) : k.Covers s' := by
  intro i n hn
  obtain ⟨c, hc, hs⟩ := hk i n hn
  have hrun : run s' i = 0 := by
    apply run_eq_zero
    intro d hd
    cases hc.symm.trans hd
    simpa using h c hs
  omega

theorem Covers.read (hk : k.Covers s) (s' : CharSet) : (read s' k).Covers s := by
  intro i n hn
  obtain ⟨-, m, hm, rfl⟩ := mem_read.1 hn
  have hrun := run_le_past s i
  have hle := hk _ m hm
  omega

theorem Covers.orElse (hk : k.Covers s) (hk' : k'.Covers s) : (k.orElse k').Covers s :=
  fun i n hn => (List.mem_append.1 hn).elim (hk i n) (hk' i n)

theorem Covers.loop (hk : k.Covers s) (s' : CharSet) :
    (loop true (Plan.read s') k).Covers s :=
  loop_of_turns (P := fun i ways => ∀ n ∈ ways, run s i ≤ n) hk
    fun _ hk' => Covers.orElse (Covers.read hk' s') hk

theorem within_done : Within s fun _ => [0] := by
  intro i n hn
  simp [List.mem_singleton.1 hn]

theorem Within.read (hk : k.Within s) (h : ∀ c, s'.mem c → s.mem c) : (read s' k).Within s := by
  intro i n hn
  obtain ⟨⟨c, hc, hs'⟩, m, hm, rfl⟩ := mem_read.1 hn
  have hrun := run_eq_past ⟨c, hc, h c hs'⟩
  have hle := hk _ m hm
  omega

theorem Within.orElse (hk : k.Within s) (hk' : k'.Within s) : (k.orElse k').Within s :=
  fun i n hn => (List.mem_append.1 hn).elim (hk i n) (hk' i n)

theorem Within.loop (hk : k.Within s) (h : ∀ c, s'.mem c → s.mem c) :
    (loop true (Plan.read s') k).Within s :=
  loop_of_turns (P := fun i ways => ∀ n ∈ ways, n ≤ run s i) hk
    fun _ hk' => Within.orElse (Within.read hk' h) hk

/-- What takes a run of characters is at least as long as what stays within it. -/
theorem Covers.read_le (hk : k.Covers s) (hk' : k'.Within s) {m : Nat}
    (hm : m ∈ Plan.read s' k i) (hn : n ∈ Plan.read s' k' i) : n ≤ m := by
  obtain ⟨-, m', hm', rfl⟩ := mem_read.1 hm
  obtain ⟨-, n', hn', rfl⟩ := mem_read.1 hn
  have hcovers := hk _ m' hm'
  have hwithin := hk' _ n' hn'
  omega

end Plan

namespace Pattern

variable {p : Pattern} {P : Text → Prop} {t w : Text} {n : Nat}

/-- The pattern is made for the texts with a property, and of these it prefers the longest. -/
structure TakesLongest (p : Pattern) (P : Text → Prop) : Prop where
  accepts : ∀ w, p.Accepts w ↔ P w
  free : p.AnchorFree
  loops : p.LoopsRead
  longest : (p.tries fun _ => [0]).Longest

namespace TakesLongest

/-- The lengths that the pattern matches are those of the texts it is made for. -/
theorem mem_matchLengths_iff (hp : p.TakesLongest P) :
    n ∈ p.matchLengths t ↔ ∃ w, P w ∧ w <+: t ∧ w.length = n := by
  rw [mem_matchLengths, matches_iff_accepts hp.free]
  exact exists_congr fun w => and_congr_left' (hp.accepts w)

theorem atStart_eq_none_iff (hp : p.TakesLongest P) :
    p.toRegex.atStart t = none ↔ ∀ w, P w → ¬ w <+: t := by
  rw [atStart_toRegex, List.head?_eq_none_iff, List.eq_nil_iff_forall_not_mem]
  constructor
  · exact fun h w hw hstart => h _ (hp.mem_matchLengths_iff.2 ⟨w, hw, hstart, rfl⟩)
  · intro h n hn
    obtain ⟨w, hw, hstart, -⟩ := hp.mem_matchLengths_iff.1 hn
    exact h w hw hstart

/-- What is matched is the longest prefix with the property. -/
theorem atStart_eq_some_iff (hp : p.TakesLongest P) : p.toRegex.atStart t = some n ↔
    n ≤ t.length ∧ Text.LongestPrefix P t (t.take n) := by
  have hlongest : ∀ n ∈ p.matchLengths t,
      ∀ m ∈ (p.matchLengths t).head?, n ≤ m := by
    rw [matchLengths_eq_tries hp.loops]
    exact hp.longest _
  rw [atStart_toRegex]
  constructor
  · intro hn
    obtain ⟨w, hw, hstart, rfl⟩ := hp.mem_matchLengths_iff.1 (List.mem_of_mem_head? hn)
    rw [← List.prefix_iff_eq_take.1 hstart]
    refine ⟨hstart.length_le, hw, hstart, fun u hu hstart => ?_⟩
    exact hlongest _ (hp.mem_matchLengths_iff.2 ⟨u, hu, hstart, rfl⟩) _ hn
  · rintro ⟨hle, hw⟩
    have hlength : (t.take n).length = n := List.length_take_of_le hle
    have hn := hp.mem_matchLengths_iff.2 ⟨_, hw.holds, hw.start, hlength⟩
    cases hhead : (p.matchLengths t).head? with
    | none =>
      rw [List.head?_eq_none_iff.1 hhead] at hn
      cases hn
    | some m =>
      obtain ⟨u, hu, hstart, rfl⟩ := hp.mem_matchLengths_iff.1 (List.mem_of_mem_head? hhead)
      have hge := hlongest n hn _ hhead
      have hle := hw.length_le u hu hstart
      rw [Nat.le_antisymm (hlength ▸ hle) hge]

theorem atStart_of_longest (hp : p.TakesLongest P) (hw : Text.LongestPrefix P t w) :
    p.toRegex.atStart t = some w.length := by
  refine hp.atStart_eq_some_iff.2 ⟨hw.start.length_le, ?_⟩
  rwa [← List.prefix_iff_eq_take.1 hw.start]

theorem exists_longest (hp : p.TakesLongest P) (h : ∃ w, P w ∧ w <+: t) :
    ∃ w, Text.LongestPrefix P t w := by
  cases hmatch : p.toRegex.atStart t with
  | none =>
    obtain ⟨w, hw, hstart⟩ := h
    exact absurd hstart (hp.atStart_eq_none_iff.1 hmatch w hw)
  | some n => exact ⟨_, (hp.atStart_eq_some_iff.1 hmatch).2⟩

end TakesLongest
end Pattern
end Descent
