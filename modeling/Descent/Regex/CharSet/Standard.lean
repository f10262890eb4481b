import Descent.Regex.CharSet
import Descent.Unicode.CaseFold
import Descent.Unicode.Category
import Descent.Unicode.Lowercase
import Descent.Unicode.Script.Extension
import Descent.Unicode.Trait
import Descent.Unicode.Uppercase
import Descent.Unicode.WhiteSpace
import Descent.Unicode.Word

/-! # Sets that the standard defines -/
namespace Descent.CharSet

def ofRanges (rs : Unicode.Ranges) : CharSet :=
  rs.foldr (fun r s => union (between r.1 (r.2 + 1)) s) none

variable {s : CharSet} {c : Char}

theorem mem_ofRanges {rs : Unicode.Ranges} :
    (ofRanges rs).mem c = true ↔ ∃ r ∈ rs, r.1 ≤ c.toNat ∧ c.toNat ≤ r.2 := by
  induction rs with
  | nil => simp [ofRanges]
  | cons r rs ih =>
    change (union (between r.1 (r.2 + 1)) (ofRanges rs)).mem c = true ↔ _
    simp only [mem_union, Bool.or_eq_true_iff, mem_between, Nat.lt_succ_iff, ih, List.mem_cons,
      exists_eq_or_imp]

def whiteSpace : CharSet := ofRanges Unicode.whiteSpace

theorem mem_whiteSpace : whiteSpace.mem c = Unicode.isWhiteSpace c := by
  rw [Bool.eq_iff_iff, whiteSpace, mem_ofRanges, Unicode.isWhiteSpace,
    Unicode.Ranges.holds_iff (by decide)]

def alphabetic : CharSet := ofRanges Unicode.alphabetic

def word : CharSet :=
  union alphabetic (union (ofRanges Unicode.decimalDigit) (union (ofRanges Unicode.connector)
    (union (ofRanges Unicode.joinControl) (ofRanges Unicode.otherMark))))

def uppercase : CharSet := ofRanges Unicode.uppercase.toRanges

def lowercase : CharSet := ofRanges Unicode.lowercase.toRanges

def category (k : Unicode.Category) : CharSet := ofRanges k.ranges

def categories (ks : List Unicode.Category) : CharSet :=
  ks.foldr (fun k s => union (category k) s) none

def trait (t : Unicode.Trait) : CharSet := ofRanges t.ranges

def script (s : Unicode.Script) : CharSet := ofRanges s.ranges

/-- The characters that are used in a script. -/
def usedIn (s : Unicode.Script) : CharSet :=
  let listed := ofRanges (Unicode.scriptExtensions.map fun (first, last, _) => (first, last))
  union (diff (script s) listed) (ofRanges s.listed)

/-! ## Case -/

/-- The characters that can have other variants, with all of theirs. -/
def cased : List (Char × List Char) :=
  Unicode.casedCodes.map fun n => (Char.ofNat n, Unicode.caseVariants (Char.ofNat n))

/-- The characters of which a variant is in the set. -/
def fold (s : CharSet) : CharSet :=
  union s (ranges ((cased.filter fun p => p.2.any s.mem).map fun p => (p.1, p.1)))

theorem mem_fold : (fold s).mem c = (Unicode.caseVariants c).any s.mem := by
  rw [Bool.eq_iff_iff, fold, mem_union, Bool.or_eq_true_iff, mem_ranges, List.any_eq_true]
  constructor
  · rintro (hc | ⟨r, hr, hfirst, hlast⟩)
    · exact ⟨c, Unicode.mem_caseVariants c, hc⟩
    · obtain ⟨p, hp, rfl⟩ := List.mem_map.1 hr
      obtain ⟨hp, hany⟩ := List.mem_filter.1 hp
      obtain ⟨n, -, rfl⟩ := List.mem_map.1 hp
      rw [Char.le_antisymm hlast hfirst]
      exact List.any_eq_true.1 hany
  · rintro ⟨d, hd, hmem⟩
    by_cases hc : c.toNat ∈ Unicode.casedCodes
    · refine .inr ⟨(c, c), List.mem_map.2 ⟨(c, Unicode.caseVariants c), ?_, rfl⟩,
        Char.le_refl c, Char.le_refl c⟩
      refine List.mem_filter.2 ⟨List.mem_map.2 ⟨c.toNat, hc, ?_⟩,
        List.any_eq_true.2 ⟨d, hd, hmem⟩⟩
      rw [Char.ofNat_toNat]
    · -- without other variants the character is the one in the set
      rw [Unicode.caseVariants_of_not_mem hc, List.mem_singleton] at hd
      exact .inl (hd ▸ hmem)

end Descent.CharSet
