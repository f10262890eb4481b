import Descent.Text.Location
import Mathlib.Algebra.GroupWithZero.Nat

/-! # Positions among the lines of a source

A cut through a text goes through one of its lines. The position of the cut counts the lines up to
this one, and the bytes of it that are in front of the cut. So an offset can be computed back from
its position, and positions are in the order of their offsets. -/
namespace Descent

namespace Text

variable {t a b l left right : Text} {ls above below : List Text} {x : Char}

theorem lines_eq_splitOn (t : Text) : lines t = t.splitOn '\n' := by
  induction t with
  | nil => simp [lines]
  | cons x t ih =>
    have hne : t.splitOn '\n' ≠ [] := List.splitOn_ne_nil '\n' t
    rw [List.splitOn_eq_splitOnP] at ih hne ⊢
    rw [List.splitOnP_cons_eq_if_modifyHead, lines, ih]
    by_cases hx : x = '\n'
    · simp [hx]
    · cases hls : t.splitOnP (· == '\n') with
      | nil => exact absurd hls hne
      | cons l ls => simp [hx]

theorem lines_feed (t : Text) : lines ('\n' :: t) = [] :: lines t := by
  simp [lines]

theorem lines_cons (hx : x ≠ '\n') (h : lines t = l :: ls) : lines (x :: t) = (x :: l) :: ls := by
  simp [lines, hx, h]

theorem exists_lines_eq_cons (t : Text) : ∃ l ls, lines t = l :: ls := by
  have hne : lines t ≠ [] := by
    rw [lines_eq_splitOn]
    exact List.splitOn_ne_nil '\n' t
  exact List.exists_cons_of_ne_nil hne

theorem length_lines (t : Text) : (lines t).length = t.count '\n' + 1 := by
  induction t with
  | nil => simp [lines]
  | cons x t ih =>
    by_cases hx : x = '\n'
    · subst hx
      simp [lines_feed, ih]
    · obtain ⟨l, ls, hls⟩ := exists_lines_eq_cons t
      rw [hls] at ih
      rw [lines_cons hx hls, List.count_cons_of_ne hx]
      simpa using ih

theorem length_le_size (t : Text) : t.length ≤ size t := by
  induction t with
  | nil => exact Nat.le_refl 0
  | cons x t ih =>
    have := x.utf8Size_pos
    simp
    omega

/-- There are more bytes than characters as soon as one character has several. -/
theorem size_eq_length_iff : size t = t.length ↔ ∀ x ∈ t, x.utf8Size = 1 := by
  induction t with
  | nil => simp
  | cons x t ih =>
    have := x.utf8Size_pos
    have := length_le_size t
    rw [List.forall_mem_cons, ← ih, size_cons, List.length_cons]
    omega

/-- The bytes of whole lines, each with its line feed. -/
def linesSize (ls : List Text) : Nat := (ls.map fun l => size l + 1).sum

theorem linesSize_append (ls ls' : List Text) :
    linesSize (ls ++ ls') = linesSize ls + linesSize ls' := by
  simp [linesSize]

theorem linesSize_singleton (l : Text) : linesSize [l] = size l + 1 := by
  simp [linesSize]

/-- A line feed more than there are would end the last line. -/
theorem linesSize_lines (t : Text) : linesSize (lines t) = size t + 1 := by
  induction t with
  | nil => simp [lines, linesSize]
  | cons x t ih =>
    by_cases hx : x = '\n'
    · subst hx
      have hfeed : Char.utf8Size '\n' = 1 := by decide
      rw [lines_feed, size_cons, hfeed, ← List.singleton_append, linesSize_append, ih,
        linesSize_singleton, size_nil]
      omega
    · obtain ⟨l, ls, hls⟩ := exists_lines_eq_cons t
      rw [hls, ← List.singleton_append, linesSize_append, linesSize_singleton] at ih
      rw [lines_cons hx hls, ← List.singleton_append, linesSize_append, linesSize_singleton,
        size_cons, size_cons]
      omega

theorem linesSize_take_le (ls : List Text) {m n : Nat} (h : m ≤ n) :
    linesSize (ls.take m) ≤ linesSize (ls.take n) := by
  have hadd : ls.take n = ls.take m ++ (ls.drop m).take (n - m) := by
    rw [← List.take_add]
    congr 1
    omega
  rw [hadd, linesSize_append]
  omega

/-- A cut between `a` and `b` goes through a line, with others above and below it. -/
structure CutLine (a b : Text) (above : List Text) (left right : Text) (below : List Text) :
    Prop where
  read : lines a = above ++ [left]
  whole : lines (a ++ b) = above ++ (left ++ right) :: below

theorem CutLine.cons (h : CutLine a b above left right below) (x : Char) :
    ∃ above left, CutLine (x :: a) b above left right below := by
  have hread := h.read
  have hwhole := h.whole
  by_cases hx : x = '\n'
  · subst hx
    refine ⟨[] :: above, left, ?_, ?_⟩
    · rw [lines_feed, hread]
      rfl
    · rw [List.cons_append, lines_feed, hwhole]
      rfl
  · cases above with
    | nil => exact ⟨[], x :: left, lines_cons hx hread, lines_cons hx hwhole⟩
    | cons l ls => exact ⟨(x :: l) :: ls, left, lines_cons hx hread, lines_cons hx hwhole⟩

theorem exists_cutLine (a b : Text) : ∃ above left right below, CutLine a b above left right below := by
  induction a with
  | nil =>
    obtain ⟨l, ls, hls⟩ := exists_lines_eq_cons b
    exact ⟨[], [], l, ls, rfl, hls⟩
  | cons x a ih =>
    obtain ⟨above, left, right, below, h⟩ := ih
    obtain ⟨above, left, h⟩ := h.cons x
    exact ⟨above, left, right, below, h⟩

namespace CutLine

variable (h : CutLine a b above left right below)
include h

theorem position_eq_after : Position.after a = ⟨above.length + 1, size left⟩ := by
  have hlength := length_lines a
  rw [h.read] at hlength
  have hcount : a.count '\n' = above.length := by simpa using hlength.symm
  simp [Position.after, h.read, hcount]

theorem size_eq : size a = linesSize above + size left := by
  have hsize := linesSize_lines a
  rw [h.read, linesSize_append, linesSize_singleton] at hsize
  omega

end CutLine

/-- The offset falls between two characters of the text, or at one of its ends. -/
def Boundary (t : Text) (n : Nat) : Prop := ∃ a b, cut n t = some (a, b)

end Text

namespace Position

variable {source : Text} {p q : Position} {m n : Nat}

/-- The position is one in the source, and `n` bytes are in front of it: the earlier lines, each
with its line feed, and some of its own line. -/
structure Locates (p : Position) (source : Text) (n : Nat) : Prop where
  line_pos : 1 ≤ p.line
  line_le : p.line ≤ (source.splitOn '\n').length
  byteOffset_le : ∀ l ∈ (source.splitOn '\n')[p.line - 1]?, p.byteOffset ≤ Text.size l
  offset_eq : n = (((source.splitOn '\n').take (p.line - 1)).map fun l => Text.size l + 1).sum +
    p.byteOffset

/-- On an earlier line, or further to the left on the same one. -/
def Before (p q : Position) : Prop :=
  p.line < q.line ∨ p.line = q.line ∧ p.byteOffset < q.byteOffset

theorem eq_or_before (p q : Position) : p = q ∨ p.Before q ∨ q.Before p := by
  cases p with | mk line byteOffset =>
  cases q with | mk line' byteOffset' =>
  simp only [Before, Position.mk.injEq]
  omega

/-- The line of an earlier position ends before a later one begins. -/
theorem Locates.lt_of_before (hp : p.Locates source m) (hq : q.Locates source n)
    (h : p.Before q) : m < n := by
  have hm := hp.offset_eq
  have hn := hq.offset_eq
  have hpos := hp.line_pos
  rw [← Text.linesSize] at hm hn
  rcases h with hline | ⟨hline, hbyte⟩
  · have hlt : p.line - 1 < (source.splitOn '\n').length := by
      have := hp.line_le
      omega
    have hbyte := hp.byteOffset_le _ (List.getElem?_eq_getElem hlt)
    have hle := Text.linesSize_take_le (source.splitOn '\n') (m := p.line - 1 + 1)
      (n := q.line - 1) (by omega)
    rw [List.take_succ_eq_append_getElem hlt, Text.linesSize_append,
      Text.linesSize_singleton] at hle
    omega
  · rw [← hline] at hn
    omega

theorem Locates.before_iff (hp : p.Locates source m) (hq : q.Locates source n) :
    p.Before q ↔ m < n := by
  constructor
  · exact hp.lt_of_before hq
  · intro hlt
    rcases eq_or_before p q with rfl | h | h
    · have hm := hp.offset_eq
      have hn := hq.offset_eq
      omega
    · exact h
    · have := hq.lt_of_before hp h
      omega

theorem Locates.unique (hp : p.Locates source n) (hq : q.Locates source n) : p = q := by
  rcases eq_or_before p q with h | h | h
  · exact h
  · exact absurd (hp.lt_of_before hq h) (Nat.lt_irrefl n)
  · exact absurd (hq.lt_of_before hp h) (Nat.lt_irrefl n)

end Position

namespace Location

open Text

variable {source a b : Text} {p : Position} {m n : Nat}

theorem position_of_cut (h : cut n source = some (a, b)) :
    (⟨source, n⟩ : Location).position = .ok (.after a) := by
  obtain ⟨hsource, hsize⟩ := cut_eq_some h
  have hle : n ≤ size source := by
    rw [hsource, size_append]
    omega
  simp [position, Nat.min_eq_left hle, h]

theorem locates_after (h : cut n source = some (a, b)) :
    (Position.after a).Locates source n := by
  obtain ⟨rfl, rfl⟩ := cut_eq_some h
  obtain ⟨above, left, right, below, hline⟩ := exists_cutLine a b
  have hwhole := hline.whole
  rw [lines_eq_splitOn] at hwhole
  rw [hline.position_eq_after]
  constructor
  · simp
  · simp [hwhole]
  · intro l hl
    have hl : left ++ right = l := by simpa [hwhole] using hl
    simp [← hl]
  · have hsize := hline.size_eq
    simpa [hwhole, linesSize] using hsize

theorem position_iff (h : Boundary source n) :
    (⟨source, n⟩ : Location).position = .ok p ↔ p.Locates source n := by
  obtain ⟨a, b, hcut⟩ := h
  rw [position_of_cut hcut]
  constructor
  · intro hp
    cases hp
    exact locates_after hcut
  · intro hp
    rw [(locates_after hcut).unique hp]

/-- Offsets and positions of a source stand for each other and have the same order. What is behind
the end has the position of the end. -/
structure RoundTrip (source : Text) : Prop where
  exists_position : ∀ n, Boundary source n → ∃ p, (⟨source, n⟩ : Location).position = .ok p
  locates : ∀ n, Boundary source n → ∀ p,
    (⟨source, n⟩ : Location).position = .ok p ↔ p.Locates source n
  unique : ∀ m n p, Boundary source m → Boundary source n →
    (⟨source, m⟩ : Location).position = .ok p → (⟨source, n⟩ : Location).position = .ok p → m = n
  ordered : ∀ m n p q, Boundary source m → Boundary source n →
    (⟨source, m⟩ : Location).position = .ok p → (⟨source, n⟩ : Location).position = .ok q →
      (p.Before q ↔ m < n)
  beyond : ∀ n, size source ≤ n →
    (⟨source, n⟩ : Location).position = (⟨source, size source⟩ : Location).position

theorem position_roundTrip (source : Text) : RoundTrip source where
  exists_position n hn := by
    obtain ⟨a, b, hcut⟩ := hn
    exact ⟨_, position_of_cut hcut⟩
  locates n hn p := position_iff hn
  unique m n p hm hn hp hq := by
    have hm := ((position_iff hm).1 hp).offset_eq
    have hn := ((position_iff hn).1 hq).offset_eq
    omega
  ordered m n p q hm hn hp hq := ((position_iff hm).1 hp).before_iff ((position_iff hn).1 hq)
  beyond n hn := by simp [position, hn]

/-- Behind a letter of two bytes, behind a line feed at the end, past the end, and inside the letter,
where there is no position. -/
example : [5, 6, 9, 4].map (fun n => (⟨"a\nbé\n".toList, n⟩ : Location).position.toOption) =
    [some ⟨2, 3⟩, some ⟨3, 0⟩, some ⟨3, 0⟩, none] := by
  decide +kernel

end Location
end Descent
