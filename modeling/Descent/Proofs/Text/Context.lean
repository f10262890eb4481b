import Descent.Proofs.Text.Positions
import Mathlib.Data.List.Intervals

/-! # The lines around a place

A context shows the line of a place with up to two lines on either side of it, each under its
number. Right below the line of the place stands a pointer, as many bytes to the right as the place
itself is in the entry above. -/
namespace Descent.Location

open Text

/-- A line of a context. -/
def entry (marker : String) (number : Nat) (line : Text) : Text :=
  marker.toList ++ (toString number).toList ++ " | ".toList ++ line

/-- The entries of the lines from `first` up to, but without `stop`, none of which is marked. -/
def entries (text : Nat → Text) (first stop : Nat) : List Text :=
  (List.Ico first stop).map fun number => entry "    " number (text number)

/-- What is shown for a position of a source, where `text` gives the lines by their numbers and the
position is between `left` and `right`. -/
structure Layout (source : Text) (p : Position) (text : Nat → Text) (left right : Text)
    (shown : List Text) : Prop where
  line_pos : 1 ≤ p.line
  line_le : p.line ≤ (source.splitOn '\n').length
  text_eq : ∀ number, 1 ≤ number → number ≤ (source.splitOn '\n').length →
    (source.splitOn '\n')[number - 1]? = some (text number)
  cut : text p.line = left ++ right
  byteOffset_eq : p.byteOffset = size left
  shown_eq : shown = entries text (max 1 (p.line - 2)) p.line ++
    [entry "  > " p.line (left ++ right),
      List.replicate (size (entry "  > " p.line left)) ' ' ++ "^--- here".toList] ++
    entries text (p.line + 1) (min (source.splitOn '\n').length (p.line + 2) + 1)

variable {p : Position} {text : Nat → Text} {ls : List Text} {source left right : Text} {n : Nat}

theorem showLine_of_ne {number : Nat} (h : number ≠ p.line) (line : Text) :
    showLine p number line = [entry "    " number line] := by
  simp [showLine, margin, entry, h]

/-- The pointer is shifted by what stands in the entry in front of the place. -/
theorem showLine_self (h : p.byteOffset = size left) :
    showLine p p.line (left ++ right) = [entry "  > " p.line (left ++ right),
      List.replicate (size (entry "  > " p.line left)) ' ' ++ "^--- here".toList] := by
  simp [showLine, margin, entry, pointer, spaces, h, Nat.add_assoc]

theorem zipIdx_eq_map_Ico (h : ∀ number, 1 ≤ number → number ≤ ls.length →
    ls[number - 1]? = some (text number)) :
    ls.zipIdx = (List.Ico 1 (ls.length + 1)).map fun number => (text number, number - 1) := by
  apply List.ext_getElem
  · simp
  · intro i hi _
    have hi : i < ls.length := by simpa using hi
    have htext := h (i + 1) (by omega) (by omega)
    have hget : ls[i] = text (1 + i) := by
      simpa [hi, Nat.add_comm] using htext
    simp [List.Ico, hget]

theorem flatMap_window (shown : Nat → List Text) (first last n : Nat) :
    ((List.Ico 1 (n + 1)).flatMap fun number =>
        if first ≤ number ∧ number ≤ last then shown number else []) =
      (List.Ico (max 1 first) (min n last + 1)).flatMap shown := by
  have hfilter : ∀ l : List Nat, (l.flatMap fun number =>
      if first ≤ number ∧ number ≤ last then shown number else []) =
        ((l.filter (first ≤ ·)).filter (· < last + 1)).flatMap shown := by
    intro l
    induction l with
    | nil => rfl
    | cons number l ih =>
      by_cases hfirst : first ≤ number
      · by_cases hlast : number ≤ last
        · have hlt : decide (number < last + 1) = true := decide_eq_true (by omega)
          simp only [hfirst, hlast, and_self, if_true, List.flatMap_cons, List.filter_cons,
            decide_true, hlt, ih]
        · have hlt : decide (number < last + 1) = false := decide_eq_false (by omega)
          simp only [hfirst, hlast, and_false, if_false, List.flatMap_cons, List.filter_cons,
            decide_true, if_true, hlt, Bool.false_eq_true, List.nil_append, ih]
      · simp [ih, hfirst]
  rw [hfilter, List.Ico.filter_le, List.Ico.filter_lt]
  congr 2
  omega

theorem contextAt_eq (h : ∀ number, 1 ≤ number → number ≤ (source.splitOn '\n').length →
    (source.splitOn '\n')[number - 1]? = some (text number)) :
    contextAt source p = (List.Ico (max 1 (p.line - 2))
      (min (source.splitOn '\n').length (p.line + 2) + 1)).flatMap fun number =>
        showLine p number (text number) := by
  rw [contextAt, lines_eq_splitOn, zipIdx_eq_map_Ico h, List.flatMap_map, ← flatMap_window]
  apply List.flatMap_congr
  intro number hnumber
  have hpos : number - 1 + 1 = number := by
    have := (List.Ico.mem.1 hnumber).1
    omega
  simp only [hpos]

theorem flatMap_showLine {first stop : Nat} (h : ∀ number ∈ List.Ico first stop, number ≠ p.line) :
    ((List.Ico first stop).flatMap fun number => showLine p number (text number)) =
      entries text first stop := by
  rw [entries, List.map_eq_flatMap]
  apply List.flatMap_congr
  intro number hnumber
  exact showLine_of_ne (h number hnumber) _

/-- The line of the position comes between the lines above it and those below. -/
theorem flatMap_showLine_split {first last : Nat} (hfirst : first ≤ p.line) (hlast : p.line ≤ last)
    (htext : text p.line = left ++ right) (hleft : p.byteOffset = size left) :
    ((List.Ico first (last + 1)).flatMap fun number => showLine p number (text number)) =
      entries text first p.line ++
        [entry "  > " p.line (left ++ right),
          List.replicate (size (entry "  > " p.line left)) ' ' ++ "^--- here".toList] ++
        entries text (p.line + 1) (last + 1) := by
  have habove : ∀ number ∈ List.Ico first p.line, number ≠ p.line := by
    intro number hnumber
    have := (List.Ico.mem.1 hnumber).2
    omega
  have hbelow : ∀ number ∈ List.Ico (p.line + 1) (last + 1), number ≠ p.line := by
    intro number hnumber
    have := (List.Ico.mem.1 hnumber).1
    omega
  have hself : (List.Ico p.line (p.line + 1)).flatMap (fun number => showLine p number
      (text number)) = showLine p p.line (left ++ right) := by
    simp [List.Ico.succ_singleton, htext]
  rw [← List.Ico.append_consecutive hfirst (Nat.le_succ_of_le hlast),
    ← List.Ico.append_consecutive (Nat.le_succ p.line) (Nat.succ_le_succ hlast),
    List.flatMap_append, List.flatMap_append, flatMap_showLine habove, flatMap_showLine hbelow,
    hself, showLine_self hleft, List.append_assoc]

/-- Every place between two characters has a context, and it is laid out around its position. -/
theorem contextLines_layout (h : Boundary source n) :
    ∃ p shown text left right, (⟨source, n⟩ : Location).position = .ok p ∧
      (⟨source, n⟩ : Location).contextLines = .ok shown ∧
        Layout source p text left right shown := by
  obtain ⟨a, b, hcut⟩ := h
  obtain ⟨above, left, right, below, hline⟩ := exists_cutLine a b
  have hposition := position_of_cut hcut
  have hlocates := locates_after hcut
  have hafter := hline.position_eq_after
  rw [hafter] at hposition hlocates
  obtain ⟨rfl, -⟩ := cut_eq_some hcut
  have hwhole := hline.whole
  rw [lines_eq_splitOn] at hwhole
  let text : Nat → Text := fun number => ((a ++ b).splitOn '\n').getD (number - 1) []
  have htext : ∀ number, 1 ≤ number → number ≤ ((a ++ b).splitOn '\n').length →
      ((a ++ b).splitOn '\n')[number - 1]? = some (text number) := by
    intro number hpos hle
    have hlt : number - 1 < ((a ++ b).splitOn '\n').length := by omega
    simp [text, hlt]
  have hself : text (above.length + 1) = left ++ right := by
    simp [text, hwhole]
  refine ⟨_, _, text, left, right, hposition, ?_, hlocates.line_pos, hlocates.line_le, htext,
    hself, rfl, rfl⟩
  rw [contextLines, hposition]
  refine congrArg Except.ok ((contextAt_eq htext).trans ?_)
  have hline_le := hlocates.line_le
  exact flatMap_showLine_split (by simp; omega) (by simp at hline_le ⊢; omega) hself rfl

/-- Behind a letter of two bytes, on the line in front of the last, which is empty. -/
theorem contextLines_layout_letter : Boundary "a\nb\nc\ndé\n".toList 9 ∧
    ∃ p shown text left right,
      (⟨"a\nb\nc\ndé\n".toList, 9⟩ : Location).position = .ok p ∧
        (⟨"a\nb\nc\ndé\n".toList, 9⟩ : Location).contextLines = .ok shown ∧
          Layout "a\nb\nc\ndé\n".toList p text left right shown := by
  have hcut : cut 9 "a\nb\nc\ndé\n".toList = some ("a\nb\nc\ndé".toList, ['\n']) := by
    decide +kernel
  exact ⟨⟨_, _, hcut⟩, contextLines_layout ⟨_, _, hcut⟩⟩

/-- There are no lines above the first, so the window starts with it. -/
example : (⟨"é?\nb\n\nd".toList, 2⟩ : Location).contextLines.toOption =
    some ["  > 1 | é?".toList, "          ^--- here".toList, "    2 | b".toList,
      "    3 | ".toList] := by
  decide +kernel

/-! ## The column of the caret

The spaces in front of the caret are as many as there are bytes in front of the place. So they are as
many as there are characters only where each of these has one byte. -/

/-- The marked line of a context, with what stands below it. -/
def fromMarked (shown : List Text) : List Text := shown.dropWhile (!"  > ".toList.isPrefixOf ·)

/-- As many characters are to the left of the caret as to the left of the place in the line above,
where the place is between `left` and `right`. -/
def CaretBelow (shown : List Text) (number : Nat) (left right : Text) : Prop :=
  ∃ pointer rest, fromMarked shown = entry "  > " number (left ++ right) :: pointer :: rest ∧
    pointer.idxOf '^' = (entry "  > " number left).length

/-- What a context has of a line, which is given with its index. -/
def shownOf (p : Position) : Text × Nat → List Text
  | (line, i) => if p.line - 2 ≤ i + 1 ∧ i + 1 ≤ p.line + 2 then showLine p (i + 1) line else []

variable {a b line : Text} {above below : List Text} {i : Nat}

theorem idxOf_caret (k : Nat) : (List.replicate k ' ' ++ "^--- here".toList).idxOf '^' = k := by
  have hnone : '^' ∉ List.replicate k ' ' := fun h => absurd (List.eq_of_mem_replicate h) (by decide)
  rw [List.idxOf_append_of_notMem hnone, List.length_replicate]
  rfl

theorem utf8Size_digit {x : Char} (hx : x.isDigit = true) : x.utf8Size = 1 := by
  simp only [Char.isDigit, Bool.and_eq_true, decide_eq_true_eq] at hx
  exact Char.utf8Size_eq_one_iff.2 (UInt32.le_trans hx.2 (by decide))

/-- What an entry has in front of its line are characters of one byte. -/
theorem size_entry (number : Nat) (line : Text) :
    size (entry "  > " number line) + line.length =
      (entry "  > " number line).length + size line := by
  have hnumber : size (toString number).toList = (toString number).toList.length := by
    rw [size_eq_length_iff, show (toString number).toList = Nat.toDigits 10 number from
      Nat.toList_repr]
    intro x hx
    exact utf8Size_digit (Nat.isDigit_of_mem_toDigits (by decide) (by decide) hx)
  have hmark : size "  > ".toList = "  > ".toList.length := by decide
  have hbar : size " | ".toList = " | ".toList.length := by decide
  simp only [entry, size_append, List.length_append, hnumber, hmark, hbar]
  omega

theorem unmarked_of_mem_shownOf (hi : i + 1 ≠ p.line) {l : Text} (hl : l ∈ shownOf p (line, i)) :
    "  > ".toList.isPrefixOf l = false := by
  rw [shownOf] at hl
  split at hl
  · rw [showLine_of_ne hi, List.mem_singleton] at hl
    rw [hl]
    rfl
  · cases hl

theorem shownOf_self (hi : p.line = i + 1) (hleft : p.byteOffset = size left) :
    shownOf p (left ++ right, i) = [entry "  > " p.line (left ++ right),
      List.replicate (size (entry "  > " p.line left)) ' ' ++ "^--- here".toList] := by
  rw [shownOf, if_pos (by omega), ← hi, showLine_self hleft]

theorem caretBelow_iff {shown rest : List Text} {number : Nat} {pointer : Text}
    (h : fromMarked shown = entry "  > " number (left ++ right) :: pointer :: rest) :
    CaretBelow shown number left right ↔
      pointer.idxOf '^' = (entry "  > " number left).length := by
  constructor
  · rintro ⟨pointer', rest', hmarked, hcaret⟩
    obtain ⟨-, hbelow⟩ := List.cons.inj (h.symm.trans hmarked)
    rwa [(List.cons.inj hbelow).1]
  · exact fun hcaret => ⟨pointer, rest, h, hcaret⟩

/-- No line above that of the place is marked. -/
theorem fromMarked_contextAt (hline : CutLine a b above left right below) :
    ∃ rest, fromMarked (contextAt (a ++ b) (.after a)) =
      entry "  > " (above.length + 1) (left ++ right) ::
        (List.replicate (size (entry "  > " (above.length + 1) left)) ' ' ++ "^--- here".toList) ::
          rest := by
  let p : Position := ⟨above.length + 1, size left⟩
  have hshown : contextAt (a ++ b) (.after a) = above.zipIdx.flatMap (shownOf p) ++
      (shownOf p (left ++ right, above.length) ++
        (below.zipIdx (above.length + 1)).flatMap (shownOf p)) := by
    rw [hline.position_eq_after, show contextAt (a ++ b) p =
      (lines (a ++ b)).zipIdx.flatMap (shownOf p) from rfl, hline.whole, List.zipIdx_append,
      List.flatMap_append, List.zipIdx_cons, List.flatMap_cons, Nat.zero_add]
  have habove : ∀ l ∈ above.zipIdx.flatMap (shownOf p), (!"  > ".toList.isPrefixOf l) = true := by
    intro l hl
    obtain ⟨⟨line, i⟩, hi, hl⟩ := List.mem_flatMap.1 hl
    have hlt : i < above.length := by simpa using (List.mem_zipIdx hi).2.1
    have hne : i + 1 ≠ p.line := by
      simp only [p]
      omega
    rw [unmarked_of_mem_shownOf hne hl, Bool.not_false]
  have hself : shownOf p (left ++ right, above.length) = _ := shownOf_self rfl rfl
  refine ⟨(below.zipIdx (above.length + 1)).flatMap (shownOf p), ?_⟩
  rw [hshown, fromMarked, List.dropWhile_append_of_pos habove, hself]
  exact List.dropWhile_cons_of_neg Bool.false_ne_true

/-- The caret is to the right of the place by as many characters as there are more bytes than
characters in front of the place on its line. So it is below the character there only where each of
those in front of it has one byte. -/
theorem caret_column (h : cut n source = some (a, b)) :
    ∃ above left right below, CutLine a b above left right below ∧
      ∃ shown pointer rest, (⟨source, n⟩ : Location).contextLines = .ok shown ∧
        fromMarked shown = entry "  > " (above.length + 1) (left ++ right) :: pointer :: rest ∧
        pointer.idxOf '^' =
          (entry "  > " (above.length + 1) left).length + (size left - left.length) ∧
        (CaretBelow shown (above.length + 1) left right ↔ ∀ x ∈ left, x.utf8Size = 1) := by
  obtain ⟨above, left, right, below, hline⟩ := exists_cutLine a b
  obtain ⟨rest, hmarked⟩ := fromMarked_contextAt hline
  obtain ⟨hsource, -⟩ := cut_eq_some h
  rw [← hsource] at hmarked
  have hle := length_le_size left
  have hsize := size_entry (above.length + 1) left
  refine ⟨above, left, right, below, hline, contextAt source (.after a), _, rest, ?_, hmarked,
    ?_, ?_⟩
  · rw [contextLines, position_of_cut h]
    rfl
  · rw [idxOf_caret]
    omega
  · rw [caretBelow_iff hmarked, idxOf_caret, ← size_eq_length_iff]
    omega

/-- On the second line, behind a letter of two bytes and one of four. -/
theorem caret_column_letters :
    let source : Text := ['a', '\n', 'é', '𝄞', '?']
    let a : Text := ['a', '\n', 'é', '𝄞']
    cut 8 source = some (a, ['?']) ∧
      ∃ above left right below, CutLine a ['?'] above left right below ∧
        ∃ shown pointer rest, (⟨source, 8⟩ : Location).contextLines = .ok shown ∧
          fromMarked shown = entry "  > " (above.length + 1) (left ++ right) :: pointer :: rest ∧
          pointer.idxOf '^' =
            (entry "  > " (above.length + 1) left).length + (size left - left.length) ∧
          (CaretBelow shown (above.length + 1) left right ↔ ∀ x ∈ left, x.utf8Size = 1) := by
  intro source a
  have hcut : cut 8 source = some (a, ['?']) := by decide
  exact ⟨hcut, caret_column hcut⟩

/-- Behind a letter of two bytes, the caret is one character too far to the right. -/
theorem caret_beside :
    cut 2 ['é', '?'] = some (['é'], ['?']) ∧ CutLine ['é'] ['?'] [] ['é'] ['?'] [] ∧
      ∃ shown pointer, (⟨['é', '?'], 2⟩ : Location).contextLines = .ok shown ∧
        fromMarked shown = [entry "  > " 1 (['é'] ++ ['?']), pointer] ∧
        pointer.idxOf '^' = (entry "  > " 1 ['é']).length + 1 ∧
        ¬ CaretBelow shown 1 ['é'] ['?'] := by
  let shown : List Text := ["  > 1 | é?".toList, "          ^--- here".toList]
  have hshown : (⟨['é', '?'], 2⟩ : Location).contextLines = .ok shown := by decide +kernel
  have hmarked : fromMarked shown =
      [entry "  > " 1 (['é'] ++ ['?']), "          ^--- here".toList] := by decide +kernel
  refine ⟨by decide, ⟨by decide, by decide⟩, shown, _, hshown, hmarked, by decide +kernel, ?_⟩
  rw [caretBelow_iff hmarked]
  decide +kernel

end Descent.Location
