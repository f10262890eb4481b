import Descent.Proofs.Cursor
import Descent.Proofs.Pattern.Anchored
import Descent.Proofs.Regex.Search
import Mathlib.Order.Bounds.Defs

/-! # What is skipped

A pattern that is held to the start of the text is skipped where it matches. White space is skipped
as far as it goes, so another attempt at the same place finds nothing more. -/
namespace Descent

open Unicode (isWhiteSpace)

namespace Text

variable {t a b a' b' : Text} {m n : Nat}

/-- No white space is at the offset: another character begins there, or the text ends. -/
def ClearAt (t : Text) (n : Nat) : Prop :=
  ∃ a b, cut n t = some (a, b) ∧ ∀ x ∈ b.head?, isWhiteSpace x = false

theorem clearAt_of_dropWhile (h : cut n t = some (a, b.dropWhile isWhiteSpace)) : ClearAt t n := by
  refine ⟨_, _, h, fun x hx => ?_⟩
  have hhead := b.head?_dropWhile_not isWhiteSpace
  rwa [Option.mem_def.1 hx] at hhead

/-- A later cut leaves the text between the two on its other side. -/
theorem cut_eq_append (hn : cut n t = some (a, b)) (hm : cut m t = some (a', b')) (h : n ≤ m) :
    ∃ s, a' = a ++ s ∧ b = s ++ b' := by
  obtain ⟨rfl, rfl⟩ := cut_eq_some hn
  have hadd := cut_size_add a b (m - size a)
  rw [Nat.add_sub_cancel' h, hm] at hadd
  obtain ⟨⟨s, _⟩, hs, hpair⟩ := Option.map_eq_some_iff.1 hadd.symm
  cases hpair
  exact ⟨s, rfl, (cut_eq_some hs).1⟩

/-- What is white in front of a clear place lies before it. -/
theorem size_takeWhile_le (s : Text) (hb : ∀ x ∈ b.head?, isWhiteSpace x = false) :
    size ((s ++ b).takeWhile isWhiteSpace) ≤ size s := by
  have hnone : b.takeWhile isWhiteSpace = [] := by
    cases b with
    | nil => rfl
    | cons x b => exact List.takeWhile_cons_of_neg (by simp [hb x rfl])
  have hprefix : (s ++ b).takeWhile isWhiteSpace <+: s := by
    rw [List.takeWhile_append, hnone, List.append_nil]
    split
    · exact List.prefix_rfl
    · exact s.takeWhile_prefix isWhiteSpace
  obtain ⟨u, hu⟩ := hprefix
  have hsize := congrArg size hu
  rw [size_append] at hsize
  omega

end Text

namespace SkipPattern

variable (b : Option Char) (t : Text)

/-- The second part of the regular expression for white space. -/
def moreWhiteSpace : Regex := .again 0 true (.chars .whiteSpace)

theorem scan_moreWhiteSpace :
    Regex.scan [[moreWhiteSpace]] b t = some (t.takeWhile isWhiteSpace).length := by
  have hmem : CharSet.whiteSpace.mem = isWhiteSpace := funext fun _ => CharSet.mem_whiteSpace
  rw [← hmem]
  exact Regex.scan_again_chars .whiteSpace 0 b t

/-- White space is matched as far as it goes, if there is any. -/
theorem atStart_whiteSpaceRegex :
    (whiteSpaceRegex.atStart t).getD 0 = (t.takeWhile isWhiteSpace).length := by
  have hmoves : ∀ c, Regex.moves ⟨none, c⟩ [[whiteSpaceRegex]] =
      [.read .whiteSpace [moreWhiteSpace]] := fun _ => rfl
  rw [Regex.atStart]
  cases t with
  | nil =>
    rw [Regex.scan, hmoves]
    · rfl
    · simp
  | cons c t =>
    rw [Regex.scan, hmoves]
    · cases hc : isWhiteSpace c with
      | true => simp [Regex.survivors, CharSet.mem_whiteSpace, hc, scan_moreWhiteSpace]
      | false => simp [Regex.survivors, CharSet.mem_whiteSpace, hc, Regex.scan]
    · simp

end SkipPattern

namespace Cursor

variable {c : Cursor} {k : SkipPattern}

theorem skipped_skip (c : Cursor) : c.skipped.skip = c.skip := rfl

/-- A pattern that is held to the start is skipped where a parser would match it. -/
theorem skipCount_of_held (hc : c.skip = some k) (hk : k.regex.Held) :
    c.skipCount = (k.regex.atStart c.ahead).getD 0 := by
  rw [skipCount, hc, Option.bind_some, hk.find_eq]
  cases k.regex.atStart c.ahead with
  | none => rfl
  | some n => exact Nat.zero_add n

theorem skipCount_whiteSpace (hc : c.skip = some .whiteSpace) :
    c.skipCount = (c.ahead.takeWhile isWhiteSpace).length := by
  rw [skipCount_of_held hc (.before _)]
  exact SkipPattern.atStart_whiteSpaceRegex c.ahead

/-- White space is skipped up to the next other character. -/
theorem skipped_ahead_whiteSpace (hc : c.skip = some .whiteSpace) :
    c.skipped.ahead = c.ahead.dropWhile isWhiteSpace := by
  rw [skipped, past_ahead, skipCount_whiteSpace hc]
  exact Pattern.drop_length_takeWhile _ _

theorem prefix_skipped_iff (hc : c.skip = some .whiteSpace) {x : Char} :
    [x] <+: c.skipped.ahead ↔ (c.ahead.dropWhile isWhiteSpace).head? = some x := by
  rw [← skipped_ahead_whiteSpace hc, List.head?_eq_some_iff]
  exact exists_congr fun t => eq_comm

theorem skipped_behind_whiteSpace (hc : c.skip = some .whiteSpace) :
    c.skipped.behind = c.behind ++ c.ahead.takeWhile isWhiteSpace := by
  have htake := List.prefix_iff_eq_take.1 (c.ahead.takeWhile_prefix isWhiteSpace)
  rw [← skipCount_whiteSpace hc] at htake
  rw [htake]
  rfl

/-! ## Cursors at which skipping settles -/

/-- Nowhere in the source does skipping go on where it has just ended. -/
def Steady (c : Cursor) : Prop :=
  ∀ d : Cursor, d.source = c.source → d.skip = c.skip → d.skipped.skipped = d.skipped

theorem Steady.skipped_skipped (h : c.Steady) : c.skipped.skipped = c.skipped := h c rfl rfl

theorem Steady.past (h : c.Steady) (n : Nat) : (c.past n).Steady :=
  fun d hs hk => h d (hs.trans (c.past_source n)) hk

theorem Steady.skipped (h : c.Steady) : c.skipped.Steady := h.past c.skipCount

theorem Steady.advance {d : Cursor} {offset : Nat} (h : c.Steady) (hd : c.advance offset = .ok d) :
    d.Steady :=
  fun e hs hk => h e (hs.trans (source_of_advance hd)) (hk.trans (skip_of_advance hd))

theorem steady_of_skip_none (h : c.skip = none) : c.Steady := by
  intro d _ hk
  have hd := skipped_of_skip_none (hk.trans h)
  rw [hd, hd]

theorem steady_whiteSpace (h : c.skip = some .whiteSpace) : c.Steady := by
  intro d _ hk
  have hd := hk.trans h
  have hcount : d.skipped.skipCount = 0 := by
    rw [skipCount_whiteSpace (d.skipped_skip.trans hd), skipped_ahead_whiteSpace hd]
    have hhead := d.ahead.head?_dropWhile_not isWhiteSpace
    cases hrest : d.ahead.dropWhile isWhiteSpace with
    | nil => rfl
    | cons x t =>
      rw [hrest] at hhead
      have hx : isWhiteSpace x = false := by simpa using hhead
      rw [List.takeWhile_cons_of_neg (by simp [hx])]
      rfl
  rw [skipped.eq_1 d.skipped, hcount, past_zero]

/-! ## The end of the white space -/

/-- Skipping ends at the first offset, from that of the cursor on, where no white space is. -/
theorem skipped_isLeast (hc : c.skip = some .whiteSpace) :
    IsLeast {m | c.offset ≤ m ∧ Text.ClearAt c.source m} c.skipped.offset := by
  constructor
  · refine ⟨c.offset_le_past _, ?_⟩
    have hcut := c.skipped.cut_offset
    rw [skipped_ahead_whiteSpace hc, skipped, past_source] at hcut
    exact Text.clearAt_of_dropWhile hcut
  · rintro m ⟨hle, a, b, hcut, hb⟩
    obtain ⟨s, rfl, hahead⟩ := Text.cut_eq_append c.cut_offset hcut hle
    obtain ⟨-, hsize⟩ := Text.cut_eq_some hcut
    have hwhite := Text.size_takeWhile_le s hb
    rw [← hahead] at hwhite
    rw [offset, skipped_behind_whiteSpace hc, ← hsize, Text.size_append, Text.size_append]
    exact Nat.add_le_add_left hwhite _

/-- From any place between two characters, white space is skipped up to the first place where there
is none, which is one between two characters too. Skipping again does not go on from there. -/
theorem skipAhead_whiteSpace {source a b : Text} {n : Nat}
    (h : Text.cut n source = some (a, b)) :
    ∃ c d, (start source).advance n = .ok c ∧ c.skipAhead = .ok d ∧
      d.source = source ∧ d.skip = some .whiteSpace ∧
      IsLeast {m | n ≤ m ∧ Text.ClearAt source m} d.offset ∧ d.skipAhead = .ok d := by
  let c : Cursor := ⟨a, b, some .whiteSpace⟩
  obtain ⟨hsource, hsize⟩ := Text.cut_eq_some h
  have hc : c.source = source ∧ c.offset = n := ⟨hsource.symm, hsize⟩
  have hadvance : (start source).advance n = .ok c := by
    rw [advance, show (start source).source = source from rfl, h]
    rfl
  have hleast := skipped_isLeast (c := c) rfl
  rw [hc.1, hc.2] at hleast
  refine ⟨c, c.skipped, hadvance, c.skipAhead_eq, (c.past_source _).trans hc.1, rfl, hleast, ?_⟩
  rw [c.skipped.skipAhead_eq, (steady_whiteSpace rfl : c.Steady).skipped_skipped]

/-- Behind a letter, before white space of two, three and one bytes. -/
theorem skipAhead_whiteSpace_wide :
    let source : Text := ['a', '\u00a0', '\u3000', '\n', 'b']
    Text.cut 1 source = some (['a'], ['\u00a0', '\u3000', '\n', 'b']) ∧
      ∃ c d, (start source).advance 1 = .ok c ∧ c.skipAhead = .ok d ∧
        d.source = source ∧ d.skip = some .whiteSpace ∧
        IsLeast {m | 1 ≤ m ∧ Text.ClearAt source m} d.offset ∧ d.skipAhead = .ok d := by
  intro source
  have hcut : Text.cut 1 source = some (['a'], ['\u00a0', '\u3000', '\n', 'b']) := by decide
  exact ⟨hcut, skipAhead_whiteSpace hcut⟩

end Cursor
end Descent
