import Descent.Regex.Search

/-! # What a search finds

A match lies within the text, and one that begins where the text does is found before all others. -/
namespace Descent.Regex

variable {r : Regex} {t : Text} {i n : Nat}

/-- A match takes no more characters than there are. -/
theorem scan_le_length {alive : List Thread} {b : Option Char} (h : scan alive b t = some n) :
    n ≤ t.length := by
  induction t generalizing alive b n with
  | nil =>
    cases alive with
    | nil => simp [scan] at h
    | cons r rs =>
      rw [scan] at h
      · split at h
        · cases h
          exact Nat.le_refl 0
        · cases h
      · simp
  | cons c t ih =>
    cases alive with
    | nil => simp [scan] at h
    | cons r rs =>
      rw [scan] at h
      · split at h
        · rename_i m hm
          cases h
          exact Nat.succ_le_succ (ih hm)
        · split at h
          · cases h
            exact Nat.zero_le _
          · cases h
      · simp

/-- A greedy loop over a set takes all characters up to the first that the set does not hold. -/
theorem scan_again_chars (s : CharSet) (label : Nat) (b : Option Char) (t : Text) :
    scan [[again label true (chars s)]] b t = some (t.takeWhile s.mem).length := by
  have hmoves : ∀ l, moves l [[again label true (chars s)]] =
      [.read s [again label true (chars s)], .stop] := by
    intro l
    simp [moves, exploreThread, explore, Frontier.pass, Frontier.add]
  induction t generalizing b with
  | nil =>
    rw [scan, hmoves]
    · rfl
    · simp
  | cons c t ih =>
    rw [scan, hmoves]
    · cases hc : s.mem c with
      | true => simp [survivors, hc, ih]
      | false => simp [survivors, hc, scan]
    · simp

theorem mem_survivors {ms : List Move} {rest : Thread} {x : Char} (h : rest ∈ survivors x ms) :
    ∃ s, .read s rest ∈ ms ∧ s.mem x = true := by
  fun_induction survivors x ms with
  | case1 => cases h
  | case2 => cases h
  | case3 s th ms hs ih =>
    rcases List.mem_cons.1 h with rfl | h
    · exact ⟨s, List.mem_cons_self, hs⟩
    · obtain ⟨s', hm, hs'⟩ := ih h
      exact ⟨s', List.mem_cons_of_mem _ hm, hs'⟩
  | case4 s th ms hs ih =>
    obtain ⟨s', hm, hs'⟩ := ih h
    exact ⟨s', List.mem_cons_of_mem _ hm, hs'⟩

theorem findFrom_of_scan {b : Option Char} (h : scan [[r]] b t = some n) :
    findFrom r b t = some (0, n) := by
  rw [findFrom.eq_def, h]

theorem find_of_atStart (h : r.atStart t = some n) : r.find t = some (0, n) := findFrom_of_scan h

/-- What is found begins at the front of the text exactly if there is a match there. -/
theorem found_at_front_iff (h : r.find t = some (i, n)) : i = 0 ↔ (r.atStart t).isSome := by
  cases hs : r.atStart t with
  | some m =>
    rw [find_of_atStart hs] at h
    cases h
    exact iff_of_true rfl rfl
  | none =>
    refine iff_of_false ?_ Bool.false_ne_true
    rintro rfl
    rw [find, findFrom.eq_def, show scan [[r]] none t = none from hs] at h
    cases t with
    | nil => cases h
    | cons c t =>
      obtain ⟨⟨j, m⟩, -, hj⟩ := Option.map_eq_some_iff.1 h
      cases hj

end Descent.Regex
