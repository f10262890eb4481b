/-! # Sets of code points

A property of characters is a list of inclusive ranges, or of ranges visited with a stride. -/
namespace Descent.Unicode

abbrev Ranges := List (Nat × Nat)

/-- Ranges that ascend let a search stop at the first one that starts beyond the character. -/
def Ranges.holds (n : Nat) : Ranges → Bool
  | [] => false
  | (first, last) :: rest => first ≤ n && (n ≤ last || Ranges.holds n rest)

/-- First, last and stride: the members are `first`, `first + stride`, … up to `last`. -/
abbrev Strides := List (Nat × Nat × Nat)

def Strides.holds (n : Nat) : Strides → Bool
  | [] => false
  | (first, last, stride) :: rest =>
    (first ≤ n && n ≤ last && (n - first) % stride == 0) || Strides.holds n rest

/-- The same members, one by one where the stride leaves some out. -/
def Strides.toRanges (ss : Strides) : Ranges :=
  ss.flatMap fun (first, last, stride) =>
    if stride = 1 then [(first, last)]
    else (List.range ((last - first) / stride + 1)).map fun k =>
      (first + stride * k, first + stride * k)

theorem Ranges.exists_mem {n : Nat} {rs : Ranges} (h : rs.holds n = true) :
    ∃ r ∈ rs, r.1 ≤ n ∧ n ≤ r.2 := by
  induction rs with
  | nil => cases h
  | cons r rs ih =>
    rw [Ranges.holds, Bool.and_eq_true_iff, Bool.or_eq_true_iff] at h
    obtain ⟨hfirst, hlast | hrest⟩ := h
    · exact ⟨r, List.mem_cons_self, of_decide_eq_true hfirst, of_decide_eq_true hlast⟩
    · obtain ⟨r', hr', hn⟩ := ih hrest
      exact ⟨r', List.mem_cons_of_mem _ hr', hn⟩

/-- Where ranges ascend, the search finds every member. -/
theorem Ranges.holds_iff {n : Nat} {rs : Ranges} (hrs : rs.Pairwise (·.1 ≤ ·.1)) :
    rs.holds n = true ↔ ∃ r ∈ rs, r.1 ≤ n ∧ n ≤ r.2 := by
  refine ⟨exists_mem, ?_⟩
  rintro ⟨r, hr, hfirst, hlast⟩
  induction rs with
  | nil => cases hr
  | cons r' rs ih =>
    obtain ⟨hle, hrs⟩ := List.pairwise_cons.1 hrs
    rw [Ranges.holds, Bool.and_eq_true_iff, Bool.or_eq_true_iff]
    rcases List.mem_cons.1 hr with rfl | hr
    · exact ⟨decide_eq_true hfirst, .inl (decide_eq_true hlast)⟩
    · exact ⟨decide_eq_true (Nat.le_trans (hle r hr) hfirst), .inr (ih hrs hr)⟩

end Descent.Unicode
