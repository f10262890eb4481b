import Descent.Cursor

/-! # Moves of a cursor

Whatever reads text moves its cursor over a number of characters. Sizes in bytes are only a way to
say how many, so no move ends inside a character or past the source. -/
namespace Descent

namespace Text

/-- A cut behind a text is a cut of what follows it. -/
theorem cut_size_add (a b : Text) (n : Nat) :
    cut (size a + n) (a ++ b) = (cut n b).map fun (x, y) => (a ++ x, y) := by
  cases h : cut n b with
  | some p =>
    obtain ⟨x, y⟩ := p
    obtain ⟨rfl, rfl⟩ := cut_eq_some h
    have he := cut_size_append (a ++ x) y
    rwa [size_append, List.append_assoc] at he
  | none =>
    cases he : cut (size a + n) (a ++ b) with
    | none => rfl
    | some p =>
      obtain ⟨u, v⟩ := p
      obtain ⟨hu, hs⟩ := cut_eq_some he
      obtain ⟨x, rfl, rfl⟩ | ⟨x, rfl, rfl⟩ := List.append_eq_append_iff.1 hu
      · have hn : size x = n := by rw [size_append] at hs; omega
        rw [cut_eq_some_iff.2 ⟨rfl, hn⟩] at h
        cases h
      · have hn : n = 0 ∧ size x = 0 := by rw [size_append] at hs; omega
        rw [hn.1, cut.eq_1 b] at h
        cases h

end Text

namespace Cursor

/-- The cursor after the next `n` characters, or at the end if there are fewer. -/
def past (c : Cursor) (n : Nat) : Cursor where
  behind := c.behind ++ c.ahead.take n
  ahead := c.ahead.drop n
  skip := c.skip

variable (c : Cursor) (n : Nat)

@[simp] theorem past_source : (c.past n).source = c.source := by
  simp [past, source]

@[simp] theorem past_skip : (c.past n).skip = c.skip := rfl

@[simp] theorem past_ahead : (c.past n).ahead = c.ahead.drop n := rfl

@[simp] theorem past_zero : c.past 0 = c := by
  simp [past]

theorem past_past (m : Nat) : (c.past n).past m = c.past (n + m) := by
  simp [past, List.take_add]

theorem past_offset : (c.past n).offset = c.offset + Text.size (c.ahead.take n) := by
  simp [past, offset]

theorem offset_le_past : c.offset ≤ (c.past n).offset := by
  rw [past_offset]
  exact Nat.le_add_right _ _

theorem offset_le_size : c.offset ≤ Text.size c.source := by
  rw [source, Text.size_append]
  exact Nat.le_add_right _ _

/-- The offset of a cursor falls between two characters of its source. -/
theorem cut_offset : Text.cut c.offset c.source = some (c.behind, c.ahead) :=
  Text.cut_size_append _ _

variable {c n}

/-- Cursors are told apart by source, offset and skip pattern. -/
theorem eq_of_offset_eq {d : Cursor} (hs : c.source = d.source) (ho : c.offset = d.offset)
    (hk : c.skip = d.skip) : c = d := by
  have h := c.cut_offset
  rw [hs, ho, d.cut_offset] at h
  obtain ⟨hb, ha⟩ := Prod.mk.inj (Option.some.inj h)
  cases c
  cases d
  cases hb
  cases ha
  cases hk
  rfl

/-- A move by `n` bytes needs a cut of the text ahead after `n` bytes. -/
theorem forward_eq (c : Cursor) (n : Nat) : c.forward n = match Text.cut n c.ahead with
    | some (read, rest) => .ok ⟨c.behind ++ read, rest, c.skip⟩
    | none => .error (.badOffset (c.offset + n) (Text.size c.source)) := by
  rw [forward, advance, offset, source, Text.cut_size_add]
  cases Text.cut n c.ahead <;> rfl

@[simp] theorem forward_zero : c.forward 0 = .ok c := by
  simp [forward_eq, Text.cut]

theorem forward_eq_ok {d : Cursor} : c.forward n = .ok d ↔
    ∃ read rest, Text.cut n c.ahead = some (read, rest) ∧ d = ⟨c.behind ++ read, rest, c.skip⟩ := by
  rw [forward_eq]
  constructor
  · intro h
    split at h
    · rename_i read rest hcut
      cases h
      exact ⟨read, rest, hcut, rfl⟩
    · cases h
  · rintro ⟨read, rest, hcut, rfl⟩
    rw [hcut]

section Forward

variable {d : Cursor}

/-- Two moves after each other are one. -/
theorem forward_forward {m : Nat} (h : c.forward m = .ok d) : d.forward n = c.forward (m + n) := by
  obtain ⟨read, rest, hcut, rfl⟩ := forward_eq_ok.1 h
  obtain ⟨hahead, rfl⟩ := Text.cut_eq_some hcut
  rw [forward, forward, advance, advance, source, source, offset, offset, hahead,
    List.append_assoc, Text.size_append, Nat.add_assoc]

theorem cut_of_forward (h : c.forward n = .ok d) :
    ∃ read, Text.cut n c.ahead = some (read, d.ahead) := by
  obtain ⟨read, rest, hcut, rfl⟩ := forward_eq_ok.1 h
  exact ⟨read, hcut⟩

theorem source_of_advance (h : c.advance n = .ok d) : d.source = c.source := by
  rw [advance] at h
  cases hcut : Text.cut n c.source with
  | none =>
    rw [hcut] at h
    cases h
  | some p =>
    rw [hcut] at h
    cases h
    exact (Text.cut_eq_some hcut).1.symm

theorem skip_of_advance (h : c.advance n = .ok d) : d.skip = c.skip := by
  rw [advance] at h
  cases hcut : Text.cut n c.source with
  | none =>
    rw [hcut] at h
    cases h
  | some p =>
    rw [hcut] at h
    cases h
    rfl

theorem offset_of_forward (h : c.forward n = .ok d) : d.offset = c.offset + n := by
  obtain ⟨read, rest, hcut, rfl⟩ := forward_eq_ok.1 h
  obtain ⟨hahead, rfl⟩ := Text.cut_eq_some hcut
  exact Text.size_append _ _

theorem skip_of_forward (h : c.forward n = .ok d) : d.skip = c.skip := skip_of_advance h

end Forward

@[simp] theorem forward_size_take :
    c.forward (Text.size (c.ahead.take n)) = .ok (c.past n) := by
  have h := Text.cut_size_append (c.ahead.take n) (c.ahead.drop n)
  rw [List.take_append_drop] at h
  rw [forward_eq, h]
  rfl

theorem forward_size_of_prefix {w : Text} (h : w <+: c.ahead) :
    c.forward (Text.size w) = .ok (c.past w.length) := by
  have hforward : c.forward (Text.size (c.ahead.take w.length)) = .ok (c.past w.length) :=
    forward_size_take
  rwa [← List.prefix_iff_eq_take.1 h] at hforward

/-! ## Skipping -/

/-- The number of characters that are skipped. -/
def skipCount (c : Cursor) : Nat :=
  match c.skip.bind (·.regex.find c.ahead) with
  | some (i, n) => i + n
  | none => 0

/-- Where a parser starts to read. -/
def skipped (c : Cursor) : Cursor := c.past c.skipCount

theorem skipAhead_eq (c : Cursor) : c.skipAhead = .ok c.skipped := by
  unfold skipAhead skipped skipCount
  cases hk : c.skip with
  | none => simp
  | some k =>
    simp only [Option.bind_some, SkipPattern.matchLength]
    cases k.regex.find c.ahead with
    | none => simp
    | some p => exact forward_size_take

theorem skipped_of_skip_none (h : c.skip = none) : c.skipped = c := by
  simp [skipped, skipCount, h]

end Cursor
end Descent
