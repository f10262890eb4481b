import Descent.Proofs.Regex.Ways

/-! # What an expression matches

Whether an expression matches the next characters at a place, said part by part and without labels
or order. The ways through an expression come to all of its matches and to nothing else: a match
that would pass a label twice between two characters is there without the detour, too. -/
namespace Descent

/-- A place in a text: the character before it and the text that follows. -/
structure Place where
  before : Option Char
  ahead : Text

namespace Place

def look (i : Place) : Look := ⟨i.before, i.ahead.head?⟩

/-- The place after the next `n` characters. -/
def past (i : Place) (n : Nat) : Place := ⟨(i.ahead.take n).getLast?.or i.before, i.ahead.drop n⟩

theorem past_past (i : Place) (m n : Nat) : (i.past m).past n = i.past (m + n) := by
  simp [past, List.take_add, List.getLast?_append, Option.or_assoc]

theorem past_one {i : Place} {c : Char} {t : Text} (h : i.ahead = c :: t) :
    i.past 1 = ⟨some c, t⟩ := by
  simp [past, h]

end Place

/-- A number of matches in a row, with `n` characters in all. -/
def Times (matching : Place → Nat → Prop) : Nat → Place → Nat → Prop
  | 0, _, n => n = 0
  | times + 1, i, n => ∃ m k, n = m + k ∧ matching i m ∧ Times matching times (i.past m) k

theorem times_add {matching : Place → Nat → Prop} {a b n : Nat} {i : Place} :
    Times matching (a + b) i n ↔
      ∃ m k, n = m + k ∧ Times matching a i m ∧ Times matching b (i.past m) k := by
  induction a generalizing i n with
  | zero =>
    rw [Nat.zero_add]
    constructor
    · exact fun h => ⟨0, n, (Nat.zero_add n).symm, rfl, h⟩
    · rintro ⟨_, k, rfl, rfl, h⟩
      rwa [Nat.zero_add]
  | succ a ih =>
    rw [Nat.succ_add]
    constructor
    · rintro ⟨m, _, rfl, hm, hrest⟩
      obtain ⟨k, l, rfl, hk, hl⟩ := ih.1 hrest
      exact ⟨m + k, l, (Nat.add_assoc ..).symm, ⟨m, k, rfl, hm, hk⟩, i.past_past m k ▸ hl⟩
    · rintro ⟨_, l, rfl, ⟨m, k, rfl, hm, hk⟩, hl⟩
      exact ⟨m, k + l, Nat.add_assoc .., hm, ih.2 ⟨k, l, rfl, hk, (i.past_past m k).symm ▸ hl⟩⟩

/-- A number of matches and then as many more as allowed. -/
theorem times_and_more {matching : Place → Nat → Prop} {least n : Nat} {i : Place}
    {allowed : Nat → Prop} :
    (∃ m k, n = m + k ∧ Times matching least i m ∧
        ∃ t, allowed t ∧ Times matching t (i.past m) k) ↔
      ∃ times, least ≤ times ∧ allowed (times - least) ∧ Times matching times i n := by
  constructor
  · rintro ⟨m, k, hn, hm, t, ht, hk⟩
    refine ⟨least + t, Nat.le_add_right _ _, ?_, times_add.2 ⟨m, k, hn, hm, hk⟩⟩
    rwa [Nat.add_sub_cancel_left]
  · rintro ⟨times, hle, ht, htimes⟩
    rw [← Nat.add_sub_of_le hle] at htimes
    obtain ⟨m, k, hn, hm, hk⟩ := times_add.1 htimes
    exact ⟨m, k, hn, hm, _, ht, hk⟩

theorem times_le_succ {matching : Place → Nat → Prop} {count n : Nat} {i : Place} :
    (∃ t, t ≤ count + 1 ∧ Times matching t i n) ↔
      (∃ m k, n = m + k ∧ matching i m ∧ ∃ t, t ≤ count ∧ Times matching t (i.past m) k) ∨
        n = 0 := by
  constructor
  · rintro ⟨t, ht, h⟩
    cases t with
    | zero => exact .inr h
    | succ t =>
      obtain ⟨m, k, hn, hm, hk⟩ := h
      exact .inl ⟨m, k, hn, hm, t, Nat.le_of_succ_le_succ ht, hk⟩
  · rintro (⟨m, k, hn, hm, t, ht, hk⟩ | rfl)
    · exact ⟨t + 1, Nat.succ_le_succ ht, m, k, hn, hm, hk⟩
    · exact ⟨0, Nat.zero_le _, rfl⟩

namespace Regex

/-- The expression matches the next `n` characters. -/
def Matches : Regex → Place → Nat → Prop
  | empty, _, n => n = 0
  | chars s, i, n => n = 1 ∧ ∃ c ∈ i.ahead.head?, s.mem c
  | anchor a, i, n => n = 0 ∧ a.holds i.look
  | once _, _, n => n = 0
  | cat a b, i, n => ∃ m k, n = m + k ∧ a.Matches i m ∧ b.Matches (i.past m) k
  | alt a b, i, n => a.Matches i n ∨ b.Matches i n
  | again _ _ a, i, n => ∃ times, Times a.Matches times i n

def ThreadMatches : Thread → Place → Nat → Prop
  | [], _, n => n = 0
  | r :: rest, i, n => ∃ m k, n = m + k ∧ r.Matches i m ∧ ThreadMatches rest (i.past m) k

/-- The move begins a match of the next `n` characters. -/
def Move.Leads (i : Place) (n : Nat) : Move → Prop
  | .stop => n = 0
  | .read s rest =>
    ∃ c t k, i.ahead = c :: t ∧ s.mem c ∧ n = k + 1 ∧ ThreadMatches rest ⟨some c, t⟩ k

variable {r a b : Regex} {rest th : Thread} {i : Place} {n m k : Nat} {P : List Nat}
variable {next : List Nat → List Move} {S : List (Nat × Thread)} {x : Move}

/-- What matches no characters leaves all to the rest. -/
theorem threadMatches_skip (h : r.Matches i 0) (hrest : ThreadMatches rest i n) :
    ThreadMatches (r :: rest) i n :=
  ⟨0, n, (Nat.zero_add n).symm, h, hrest⟩

theorem threadMatches_cat :
    ThreadMatches (cat a b :: rest) i n ↔ ThreadMatches (a :: b :: rest) i n := by
  constructor
  · rintro ⟨_, k, rfl, ⟨m, l, rfl, ha, hb⟩, hrest⟩
    exact ⟨m, l + k, Nat.add_assoc .., ha, l, k, rfl, hb, (i.past_past m l).symm ▸ hrest⟩
  · rintro ⟨m, _, rfl, ha, l, k, rfl, hb, hrest⟩
    exact ⟨m + l, k, (Nat.add_assoc ..).symm, ⟨m, l, rfl, ha, hb⟩, i.past_past m l ▸ hrest⟩

/-- After a turn a loop goes on. -/
theorem threadMatches_again {label : Nat} {greedy : Bool}
    (h : ThreadMatches (a :: again label greedy a :: rest) i n) :
    ThreadMatches (again label greedy a :: rest) i n := by
  obtain ⟨m, _, rfl, ha, l, k, rfl, ⟨times, hb⟩, hrest⟩ := h
  exact ⟨m + l, k, (Nat.add_assoc ..).symm, ⟨times + 1, m, l, rfl, ha, hb⟩,
    i.past_past m l ▸ hrest⟩

/-! ## Ways end in matches -/

theorem threadMatches_of_mem_paths
    (hnext : ∀ P, ∀ x ∈ next P, x.Leads i n → ThreadMatches rest i n)
    (hx : x ∈ paths i.look r rest next P) (hlead : x.Leads i n) :
    ThreadMatches (r :: rest) i n := by
  induction r generalizing rest next P x with
  | empty => exact threadMatches_skip rfl (hnext P x hx hlead)
  | chars s =>
    cases List.mem_singleton.1 hx
    obtain ⟨c, t, k, hahead, hs, rfl, hk⟩ := hlead
    refine ⟨1, k, Nat.add_comm k 1, ⟨rfl, c, ?_, hs⟩, ?_⟩
    · rw [hahead]
      rfl
    · rwa [Place.past_one hahead]
  | anchor a =>
    rw [paths] at hx
    split at hx
    · rename_i ha
      exact threadMatches_skip ⟨rfl, ha⟩ (hnext P x hx hlead)
    · cases hx
  | once label =>
    rw [paths] at hx
    split at hx
    · cases hx
    · exact threadMatches_skip rfl (hnext _ x hx hlead)
  | cat a b iha ihb =>
    exact threadMatches_cat.2 (iha (fun P x hx hlead => ihb hnext hx hlead) hx hlead)
  | alt a b iha ihb =>
    rcases List.mem_append.1 hx with hx | hx
    · obtain ⟨m, k, hn, ha, hrest⟩ := iha hnext hx hlead
      exact ⟨m, k, hn, .inl ha, hrest⟩
    · obtain ⟨m, k, hn, hb, hrest⟩ := ihb hnext hx hlead
      exact ⟨m, k, hn, .inr hb, hrest⟩
  | again label greedy a ih =>
    rw [paths] at hx
    split at hx
    · cases hx
    · rcases mem_inOrder.1 hx with hx | hx
      · exact threadMatches_again (ih (fun _ x hx => absurd hx List.not_mem_nil) hx hlead)
      · exact threadMatches_skip ⟨0, rfl⟩ (hnext _ x hx hlead)

theorem threadMatches_of_mem_threadPaths (hx : x ∈ threadPaths i.look th P) (hlead : x.Leads i n) :
    ThreadMatches th i n := by
  induction th generalizing P x with
  | nil =>
    cases List.mem_singleton.1 hx
    exact hlead
  | cons r rest ih => exact threadMatches_of_mem_paths (fun P x hx hlead => ih hx hlead) hx hlead

/-! ## Matches are found by ways -/

/-- A way on from behind a label is a way from the label, without the detour if it comes by there
again. -/
theorem mem_threadPaths_past {label : Nat} {start : Thread} (hS : Unambiguous S)
    (hth : threadSites th ⊆ S) (hlabel : (label, start) ∈ S) (hx : x ∈ threadPaths i.look th []) :
    x ∈ threadPaths i.look th [label] ∨ x ∈ threadPaths i.look start [] :=
  threadPaths_split (fun th' h => hS label th' start (hth h) hlabel) hx

theorem exists_way (hS : Unambiguous S) (hr : sites r rest ⊆ S) (hrest : threadSites rest ⊆ S)
    (hmatch : r.Matches i m) (hmatches : ThreadMatches rest (i.past m) k)
    (hway : m = 0 → ∃ x ∈ threadPaths i.look rest [], x.Leads i k) :
    ∃ x ∈ threadPaths i.look (r :: rest) [], x.Leads i (m + k) := by
  induction r generalizing rest m k with
  | empty =>
    cases hmatch
    rw [Nat.zero_add]
    exact hway rfl
  | chars s =>
    obtain ⟨rfl, c, hc, hs⟩ := hmatch
    cases hahead : i.ahead with
    | nil =>
      rw [hahead] at hc
      cases hc
    | cons d t =>
      rw [hahead] at hc
      cases hc
      refine ⟨_, List.mem_singleton_self _, c, t, k, hahead, hs, Nat.add_comm 1 k, ?_⟩
      rwa [Place.past_one hahead] at hmatches
  | anchor a =>
    obtain ⟨rfl, ha⟩ := hmatch
    rw [Nat.zero_add, threadPaths, paths, if_pos ha]
    exact hway rfl
  | once label =>
    cases hmatch
    rw [Nat.zero_add]
    obtain ⟨x, hx, hlead⟩ := hway rfl
    refine ⟨x, ?_, hlead⟩
    exact (mem_threadPaths_past hS hrest (hr List.mem_cons_self) hx).elim id id
  | cat a b iha ihb =>
    obtain ⟨ha, hb⟩ := List.append_subset.1 hr
    obtain ⟨m, l, rfl, hma, hmb⟩ := hmatch
    rw [← Place.past_past] at hmatches
    rw [Nat.add_assoc]
    refine iha ha (List.append_subset.2 ⟨hb, hrest⟩) hma ⟨l, k, rfl, hmb, hmatches⟩ fun hm => ?_
    subst hm
    exact ihb hb hrest hmb hmatches fun hl => hway (by rw [hl])
  | alt a b iha ihb =>
    obtain ⟨ha, hb⟩ := List.append_subset.1 hr
    rcases hmatch with hmatch | hmatch
    · obtain ⟨x, hx, hlead⟩ := iha ha hrest hmatch hmatches hway
      exact ⟨x, List.mem_append_left _ hx, hlead⟩
    · obtain ⟨x, hx, hlead⟩ := ihb hb hrest hmatch hmatches hway
      exact ⟨x, List.mem_append_right _ hx, hlead⟩
  | again label greedy a ih =>
    obtain ⟨hlabel, ha⟩ := List.cons_subset.1 hr
    have hloop : threadSites (again label greedy a :: rest) ⊆ S := List.append_subset.2 ⟨hr, hrest⟩
    obtain ⟨times, htimes⟩ := hmatch
    -- a turn without characters may come by the label again; then the rest of the way is enough
    induction times generalizing m k with
    | zero =>
      cases htimes
      rw [Nat.zero_add]
      obtain ⟨x, hx, hlead⟩ := hway rfl
      refine ⟨x, ?_, hlead⟩
      rcases mem_threadPaths_past hS hrest hlabel hx with hx | hx
      · exact mem_inOrder.2 (.inr hx)
      · exact hx
    | succ times ihtimes =>
      obtain ⟨m, l, rfl, hturn, htimes⟩ := htimes
      rw [← Place.past_past] at hmatches
      rw [Nat.add_assoc]
      have hagain : ThreadMatches (again label greedy a :: rest) (i.past m) (l + k) :=
        ⟨l, k, rfl, ⟨times, htimes⟩, hmatches⟩
      obtain ⟨x, hx, hlead⟩ := ih ha hloop hturn hagain fun hm => by
        subst hm
        exact ihtimes hmatches (fun hl => hway (by rw [hl])) htimes
      refine ⟨x, ?_, hlead⟩
      have hsites : threadSites (a :: again label greedy a :: rest) ⊆ S :=
        List.append_subset.2 ⟨ha, hloop⟩
      rcases mem_threadPaths_past hS hsites hlabel hx with hx | hx
      · have hends : threadPaths i.look (a :: again label greedy a :: rest) [label] =
            paths i.look a (again label greedy a :: rest) (fun _ => []) [label] :=
          paths_congr fun P hP => threadPaths_again_of_mem (hP List.mem_cons_self)
        rw [hends] at hx
        exact mem_inOrder.2 (.inl hx)
      · exact hx

theorem exists_way_of_threadMatches (hS : Unambiguous S) (hth : threadSites th ⊆ S)
    (h : ThreadMatches th i n) : ∃ x ∈ threadPaths i.look th [], x.Leads i n := by
  induction th generalizing n with
  | nil => exact ⟨.stop, List.mem_singleton_self _, h⟩
  | cons r rest ih =>
    obtain ⟨hr, hrest⟩ := List.append_subset.1 hth
    obtain ⟨m, k, rfl, hmatch, hmatches⟩ := h
    exact exists_way hS hr hrest hmatch hmatches fun hm => ih hrest (by rwa [hm] at hmatches)

theorem exists_way_iff (hS : Unambiguous S) (hth : threadSites th ⊆ S) :
    (∃ x ∈ threadPaths i.look th [], x.Leads i n) ↔ ThreadMatches th i n :=
  ⟨fun ⟨_, hx, hlead⟩ => threadMatches_of_mem_threadPaths hx hlead,
    exists_way_of_threadMatches hS hth⟩

/-- The lengths that ways come to are those of the matches. -/
theorem mem_lengths_iff (hS : Unambiguous S) (hth : threadSites th ⊆ S) {b : Option Char}
    {t : Text} : n ∈ lengths th b t ↔ ThreadMatches th ⟨b, t⟩ n := by
  induction t generalizing th b n with
  | nil =>
    rw [← exists_way_iff hS hth, lengths, List.mem_flatMap]
    refine exists_congr fun x => and_congr_right fun _ => ?_
    cases x with
    | stop => exact List.mem_singleton
    | read s rest => simp [Move.Leads]
  | cons c t ih =>
    rw [← exists_way_iff hS hth, lengths, List.mem_flatMap]
    refine exists_congr fun x => and_congr_right fun hx => ?_
    cases x with
    | stop => exact List.mem_singleton
    | read s rest =>
      have hrest := sites_of_mem_threadPaths hth hx
      cases hs : s.mem c with
      | false => simp [Move.Leads, hs]
      | true =>
        simp only [hs, if_true, List.mem_map, ih hrest, Move.Leads]
        constructor
        · rintro ⟨k, hk, rfl⟩
          exact ⟨c, t, k, rfl, hs, rfl, hk⟩
        · rintro ⟨_, _, k, ⟨⟩, -, rfl, hk⟩
          exact ⟨k, hk, rfl⟩

theorem mem_lengths_single_iff (hr : Unambiguous (threadSites [r])) {b : Option Char} {t : Text} :
    n ∈ lengths [r] b t ↔ r.Matches ⟨b, t⟩ n := by
  rw [mem_lengths_iff hr (List.Subset.refl _)]
  constructor
  · rintro ⟨m, k, rfl, hr, rfl⟩
    exact hr
  · exact fun h => ⟨n, 0, rfl, h, rfl⟩

end Regex
end Descent
