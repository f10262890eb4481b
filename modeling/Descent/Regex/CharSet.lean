/-! # Sets of characters

A set is kept as the places at which its members begin and end, in ascending order. This form is the
set's only one, so two sets are equal exactly if they have the same members. -/
namespace Descent

namespace CharSet

/-- How many characters there are. -/
def count : Nat := 0x10F800

/-- How many characters have a code point below the given one. Surrogates are no characters. -/
def below (code : Nat) : Nat :=
  if code < 0xD800 then code else if code < 0xE000 then 0xD800 else min code 0x110000 - 0x800

/-- The code point of the character that comes behind so many others. -/
def codeAt (n : Nat) : Nat := if n < 0xD800 then n else n + 0x800

/-! ## Places where values change -/

/-- Whether a number lies behind the beginning of members and not behind their end. -/
def holds : List Nat → Nat → Bool
  | [], _ => false
  | e :: es, n => e ≤ n && !holds es n

/-- Adds the first place of all, unless the values on both of its sides are the same. -/
def change (e : Nat) (before after : Bool) (es : List Nat) : List Nat :=
  if before = after then es else e :: es

/-- Goes through the places of a second list that come before a place of the first, and then through
that place; `rest` goes on behind it. -/
def changesUpTo (op : Bool → Bool → Bool) (a : Bool) (e : Nat) (rest : Bool → List Nat → List Nat) :
    Bool → List Nat → List Nat
  | b, [] => change e (op a b) (op (!a) b) (rest b [])
  | b, f :: fs =>
    if f < e then change f (op a b) (op a (!b)) (changesUpTo op a e rest (!b) fs)
    else if e < f then change e (op a b) (op (!a) b) (rest b (f :: fs))
    else change e (op a b) (op (!a) (!b)) (rest (!b) fs)

/-- The places at which the values of an operation change, for those at which the values `a` and `b`
of its arguments do. -/
def changes (op : Bool → Bool → Bool) : Bool → Bool → List Nat → List Nat → List Nat
  | a, b, [], fs => if op a b = op a (!b) then [] else fs
  | a, b, e :: es, fs => changesUpTo op a e (fun b => changes op (!a) b es) b fs

variable {op : Bool → Bool → Bool} {a b u v : Bool} {e n : Nat} {es fs : List Nat}

theorem holds_of_lt (h : ∀ x ∈ es, n < x) : holds es n = false := by
  cases es with
  | nil => rfl
  | cons e es =>
    have he : ¬ e ≤ n := Nat.not_le.2 (h e List.mem_cons_self)
    simp [holds, he]

theorem mem_change (h : n ∈ change e u v es) : n = e ∨ n ∈ es := by
  rw [change] at h
  split at h
  · exact .inr h
  · exact List.mem_cons.1 h

theorem change_ascending (hlt : ∀ x ∈ es, e < x) (hes : es.Pairwise (· < ·)) :
    (change e u v es).Pairwise (· < ·) := by
  rw [change]
  split
  · exact hes
  · exact List.pairwise_cons.2 ⟨hlt, hes⟩

/-- A value that changes at a place is the first before it and the second from there on. -/
theorem holds_change {w : Bool} (hlt : ∀ x ∈ es, e < x) (hbefore : n < e → u = w)
    (hbehind : e ≤ n → (v ^^ holds es n) = w) : (u ^^ holds (change e u v es) n) = w := by
  rcases Nat.lt_or_ge n e with hn | hn
  · have hnone : holds es n = false := holds_of_lt fun x hx => Nat.lt_trans hn (hlt x hx)
    rw [← hbefore hn]
    cases u <;> cases v <;> simp [change, holds, Nat.not_le.2 hn, hnone]
  · rw [← hbehind hn]
    cases u <;> cases v <;> simp [change, holds, hn]

theorem changes_cons_nil :
    changes op a b (e :: es) [] = change e (op a b) (op (!a) b) (changes op (!a) b es []) := rfl

theorem changes_cons_cons {f : Nat} :
    changes op a b (e :: es) (f :: fs) =
      if f < e then change f (op a b) (op a (!b)) (changes op a (!b) (e :: es) fs)
      else if e < f then change e (op a b) (op (!a) b) (changes op (!a) b es (f :: fs))
      else change e (op a b) (op (!a) (!b)) (changes op (!a) (!b) es fs) := rfl

theorem mem_changes (h : n ∈ changes op a b es fs) : n ∈ es ∨ n ∈ fs := by
  induction es generalizing a b fs with
  | nil => grind [changes]
  | cons e es ih =>
    induction fs generalizing a b with
    | nil => grind [changes_cons_nil, mem_change]
    | cons f fs ihf => grind [changes_cons_cons, mem_change]

/-- Places that come behind the first of both are all behind it. -/
theorem lt_of_mem_changes (hes : ∀ x ∈ es, e < x) (hfs : ∀ x ∈ fs, e < x) :
    ∀ x ∈ changes op a b es fs, e < x := fun x hx => (mem_changes hx).elim (hes x) (hfs x)

theorem lt_of_ascending (hlt : n < e) (hes : (e :: es).Pairwise (· < ·)) : ∀ x ∈ e :: es, n < x :=
  List.forall_mem_cons.2 ⟨hlt, fun x hx => Nat.lt_trans hlt ((List.pairwise_cons.1 hes).1 x hx)⟩

theorem changes_ascending (hes : es.Pairwise (· < ·)) (hfs : fs.Pairwise (· < ·)) :
    (changes op a b es fs).Pairwise (· < ·) := by
  induction es generalizing a b fs with
  | nil =>
    rw [changes]
    split
    · exact .nil
    · exact hfs
  | cons e es ih =>
    obtain ⟨he, hes'⟩ := List.pairwise_cons.1 hes
    induction fs generalizing a b with
    | nil =>
      rw [changes_cons_nil]
      exact change_ascending (lt_of_mem_changes he (by simp)) (ih hes' hfs)
    | cons f fs ihf =>
      obtain ⟨hf, hfs'⟩ := List.pairwise_cons.1 hfs
      rw [changes_cons_cons]
      split
      · rename_i hlt
        exact change_ascending (lt_of_mem_changes (lt_of_ascending hlt hes) hf) (ihf hfs')
      split
      · rename_i hlt
        exact change_ascending (lt_of_mem_changes he (lt_of_ascending hlt hfs)) (ih hes' hfs)
      · obtain rfl : e = f := by omega
        exact change_ascending (lt_of_mem_changes he hf) (ih hes' hfs')

theorem holds_cons_of_le (h : e ≤ n) : (a ^^ holds (e :: es) n) = (!a ^^ holds es n) := by
  cases a <;> simp [holds, h]

/-- What holds at a number is the operation of what the arguments hold there. -/
theorem holds_changes (hes : es.Pairwise (· < ·)) (hfs : fs.Pairwise (· < ·)) (n : Nat) :
    (op a b ^^ holds (changes op a b es fs) n) = op (a ^^ holds es n) (b ^^ holds fs n) := by
  induction es generalizing a b fs with
  | nil =>
    rw [changes]
    split <;> cases hn : holds fs n <;> cases b <;> simp_all [holds, Bool.eq_not]
  | cons e es ih =>
    obtain ⟨he, hes'⟩ := List.pairwise_cons.1 hes
    induction fs generalizing a b with
    | nil =>
      refine holds_change (lt_of_mem_changes he (by simp)) (fun hn => ?_) fun hn => ?_
      · simp [holds_of_lt (lt_of_ascending hn hes), holds_of_lt]
      · rw [holds_cons_of_le hn]
        exact ih hes' hfs
    | cons f fs ihf =>
      obtain ⟨hf, hfs'⟩ := List.pairwise_cons.1 hfs
      have hbefore : n < e → n < f → op a b =
          op (a ^^ holds (e :: es) n) (b ^^ holds (f :: fs) n) := fun hne hnf => by
        simp [holds_of_lt (lt_of_ascending hne hes), holds_of_lt (lt_of_ascending hnf hfs)]
      rw [changes_cons_cons]
      split
      · rename_i hlt
        refine holds_change (lt_of_mem_changes (lt_of_ascending hlt hes) hf)
          (fun hn => hbefore (Nat.lt_trans hn hlt) hn) fun hn => ?_
        rw [holds_cons_of_le hn]
        exact ihf hfs'
      split
      · rename_i hlt
        refine holds_change (lt_of_mem_changes he (lt_of_ascending hlt hfs))
          (fun hn => hbefore hn (Nat.lt_trans hn hlt)) fun hn => ?_
        rw [holds_cons_of_le hn]
        exact ih hes' hfs
      · obtain rfl : e = f := by omega
        refine holds_change (lt_of_mem_changes he hf) (fun hn => hbefore hn hn) fun hn => ?_
        rw [holds_cons_of_le hn, holds_cons_of_le hn]
        exact ih hes' hfs'

theorem holds_head (hes : (e :: es).Pairwise (· < ·)) : holds (e :: es) e = true := by
  rw [holds, holds_of_lt (List.pairwise_cons.1 hes).1]
  simp

/-- Values that agree wherever one of them changes are the same, and change at the same places. -/
theorem eq_of_holds_eq (hes : es.Pairwise (· < ·)) (hfs : fs.Pairwise (· < ·))
    (h : ∀ n, n ∈ es ∨ n ∈ fs → holds es n = holds fs n) : es = fs := by
  induction es generalizing fs with
  | nil =>
    cases fs with
    | nil => rfl
    | cons f fs =>
      have hf := h f (.inr List.mem_cons_self)
      rw [holds_head hfs] at hf
      cases hf
  | cons e es ih =>
    cases fs with
    | nil =>
      have he := h e (.inl List.mem_cons_self)
      rw [holds_head hes] at he
      cases he
    | cons f fs =>
      rcases Nat.lt_trichotomy e f with hlt | rfl | hlt
      · have he := h e (.inl List.mem_cons_self)
        rw [holds_head hes, holds_of_lt (lt_of_ascending hlt hfs)] at he
        cases he
      · obtain ⟨he, hes⟩ := List.pairwise_cons.1 hes
        obtain ⟨hf, hfs⟩ := List.pairwise_cons.1 hfs
        refine congrArg (e :: ·) (ih hes hfs fun n hn => ?_)
        have hle : e ≤ n := Nat.le_of_lt (hn.elim (he n) (hf n))
        have hboth := h n (hn.imp (List.mem_cons_of_mem e) (List.mem_cons_of_mem e))
        simpa [holds, hle] using hboth
      · have hf := h f (.inr List.mem_cons_self)
        rw [holds_head hfs, holds_of_lt (lt_of_ascending hlt hes)] at hf
        cases hf

end CharSet

/-! ## Sets -/

structure CharSet where
  places : List Nat
  ascending : places.Pairwise (· < ·)
  bounded : ∀ n ∈ places, n < CharSet.count
deriving DecidableEq

namespace CharSet

def mem (s : CharSet) (c : Char) : Bool := holds s.places (below c.toNat)

theorem below_le_below_iff {n : Nat} {c : Char} : below n ≤ below c.toNat ↔ n ≤ c.toNat := by
  have hc : c.toNat < 0xD800 ∨ 0xDFFF < c.toNat ∧ c.toNat < 0x110000 := c.valid
  unfold below
  grind

theorem below_lt_count (c : Char) : below c.toNat < count := by
  have hc : c.toNat < 0xD800 ∨ 0xDFFF < c.toNat ∧ c.toNat < 0x110000 := c.valid
  unfold below count
  grind

theorem below_ofNat_codeAt {n : Nat} (hn : n < count) :
    below (Char.ofNat (codeAt n)).toNat = n := by
  unfold count at hn
  have hvalid : (codeAt n).isValidChar := by
    unfold codeAt Nat.isValidChar
    grind
  have hcode : (Char.ofNat (codeAt n)).toNat = codeAt n := by
    rw [Char.ofNat, dif_pos hvalid]
    rfl
  rw [hcode]
  unfold below codeAt
  grind

theorem codeAt_below (c : Char) : codeAt (below c.toNat) = c.toNat := by
  have hc : c.toNat < 0xD800 ∨ 0xDFFF < c.toNat ∧ c.toNat < 0x110000 := c.valid
  unfold below codeAt
  grind

/-- Sets with the same members are equal. -/
@[ext] theorem ext {s t : CharSet} (h : ∀ c, s.mem c = t.mem c) : s = t := by
  cases s with
  | mk es hes hbound =>
    cases t with
    | mk fs hfs hbound' =>
      obtain rfl : es = fs := eq_of_holds_eq hes hfs fun n hn => by
        rw [← below_ofNat_codeAt (hn.elim (hbound n) (hbound' n))]
        exact h _
      rfl

def none : CharSet := ⟨[], .nil, by simp⟩

/-- The characters from one code point up to another, without the last. -/
def between (first stop : Nat) : CharSet where
  places :=
    if below first < below stop then
      below first :: if below stop < count then [below stop] else []
    else []
  ascending := by
    split
    · split <;> simp_all
    · exact .nil
  bounded := by
    have hstop : below stop ≤ count := by
      unfold below count
      grind
    grind

def combine (op : Bool → Bool → Bool) (s t : CharSet) : CharSet where
  places := changes op false false s.places t.places
  ascending := changes_ascending s.ascending t.ascending
  bounded n hn := (mem_changes hn).elim (s.bounded n) (t.bounded n)

def union : CharSet → CharSet → CharSet := combine (· || ·)

def inter : CharSet → CharSet → CharSet := combine (· && ·)

def diff : CharSet → CharSet → CharSet := combine fun a b => a && !b

def symmDiff : CharSet → CharSet → CharSet := combine (· ^^ ·)

def all : CharSet := between 0 0x110000

def compl (s : CharSet) : CharSet := diff all s

def range (first last : Char) : CharSet := between first.toNat (last.toNat + 1)

def single (c : Char) : CharSet := range c c

def ranges (rs : List (Char × Char)) : CharSet :=
  rs.foldr (fun r s => union (range r.1 r.2) s) none

variable {s t : CharSet} {c d first last : Char}

@[simp] theorem mem_none (c : Char) : none.mem c = false := rfl

theorem mem_between {first stop : Nat} :
    (between first stop).mem c = true ↔ first ≤ c.toNat ∧ c.toNat < stop := by
  have hc := below_lt_count c
  rw [← below_le_below_iff, ← Nat.not_le, ← below_le_below_iff, mem, between]
  grind [holds]

theorem mem_combine {op : Bool → Bool → Bool} (hop : op false false = false) :
    (combine op s t).mem c = op (s.mem c) (t.mem c) := by
  have hvalue : (op false false ^^ (combine op s t).mem c) =
      op (false ^^ s.mem c) (false ^^ t.mem c) :=
    holds_changes s.ascending t.ascending (below c.toNat)
  rw [hop, Bool.false_xor, Bool.false_xor, Bool.false_xor] at hvalue
  exact hvalue

@[simp] theorem mem_union : (union s t).mem c = (s.mem c || t.mem c) := mem_combine rfl

@[simp] theorem mem_inter : (inter s t).mem c = (s.mem c && t.mem c) := mem_combine rfl

@[simp] theorem mem_diff : (diff s t).mem c = (s.mem c && !t.mem c) := mem_combine rfl

@[simp] theorem mem_symmDiff : (symmDiff s t).mem c = (s.mem c ^^ t.mem c) := mem_combine rfl

@[simp] theorem mem_all : all.mem c = true := by
  have hvalid : c.toNat < 0xD800 ∨ 0xDFFF < c.toNat ∧ c.toNat < 0x110000 := c.valid
  exact mem_between.2 (by omega)

@[simp] theorem mem_compl : (compl s).mem c = !s.mem c := by simp [compl]

theorem mem_range : (range first last).mem c = true ↔ first ≤ c ∧ c ≤ last := by
  rw [range, mem_between, Nat.lt_succ_iff, Char.le_def, Char.le_def]
  rfl

theorem mem_single : (single c).mem d = true ↔ d = c := by
  rw [single, mem_range]
  exact ⟨fun ⟨h, h'⟩ => (Char.le_antisymm h h').symm,
    fun h => h ▸ ⟨Char.le_refl _, Char.le_refl _⟩⟩

theorem mem_ranges {rs : List (Char × Char)} :
    (ranges rs).mem c = true ↔ ∃ r ∈ rs, r.1 ≤ c ∧ c ≤ r.2 := by
  induction rs with
  | nil => simp [ranges]
  | cons r rs ih =>
    change (union (range r.1 r.2) (ranges rs)).mem c = true ↔ _
    simp only [mem_union, Bool.or_eq_true_iff, mem_range, ih, List.mem_cons, exists_eq_or_imp]

theorem places_single (c : Char) : (single c).places.head? = some (below c.toNat) := by
  have hlt : below c.toNat < below (c.toNat + 1) :=
    Nat.not_le.1 fun h => Nat.not_succ_le_self _ (below_le_below_iff.1 h)
  simp [single, range, between, hlt]

/-- The only member of a set that has no others. -/
def only? (s : CharSet) : Option Char :=
  (s.places.head?.map fun n => Char.ofNat (codeAt n)).filter (s = single ·)

theorem only?_eq_some : s.only? = some c ↔ s = single c := by
  rw [only?, Option.filter_eq_some_iff, decide_eq_true_iff]
  refine and_iff_right_of_imp ?_
  rintro rfl
  rw [places_single, Option.map_some, codeAt_below, Char.ofNat_toNat]

end CharSet
end Descent
