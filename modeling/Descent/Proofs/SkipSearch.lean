import Descent.Proofs.Regex.Search
import Descent.Proofs.Skipping

/-! # Where a skip pattern is found

A skip pattern is to match where the text begins or not at all. One that is well formed by itself
keeps to that. One whose parentheses do not pair up can be found further ahead, and what stands
before it is skipped as well. -/
namespace Descent.SkipPattern

/-- What is skipped at the front of the text is what was matched there. -/
def Adheres (k : SkipPattern) (t : Text) : Prop :=
  ∀ n, k.matchLength t = some n → ∃ matched rest, t = matched ++ rest ∧ Text.size matched = n ∧
    k.regex.find t = some (0, matched.length)

variable {k : SkipPattern} {t : Text}

theorem matchLength_eq_some {n : Nat} : k.matchLength t = some n ↔
    ∃ i m, k.regex.find t = some (i, m) ∧ Text.size (t.take (i + m)) = n := by
  rw [matchLength, Option.map_eq_some_iff]
  constructor
  · rintro ⟨⟨i, m⟩, hf, hsize⟩
    exact ⟨i, m, hf, hsize⟩
  · rintro ⟨i, m, hf, hsize⟩
    exact ⟨(i, m), hf, hsize⟩

theorem adheres_iff :
    k.Adheres t ↔ ((k.regex.find t).isSome → (k.regex.atStart t).isSome) := by
  constructor
  · intro h hfound
    obtain ⟨⟨i, m⟩, hf⟩ := Option.isSome_iff_exists.1 hfound
    obtain ⟨matched, rest, -, -, hfront⟩ := h _ (matchLength_eq_some.2 ⟨i, m, hf, rfl⟩)
    exact (Regex.found_at_front_iff hfront).1 rfl
  · intro h n hn
    obtain ⟨i, m, hf, hsize⟩ := matchLength_eq_some.1 hn
    have hstart := h (Option.isSome_of_eq_some hf)
    obtain rfl := (Regex.found_at_front_iff hf).2 hstart
    obtain ⟨m', hm⟩ := Option.isSome_iff_exists.1 hstart
    cases (Regex.find_of_atStart hm).symm.trans hf
    rw [Nat.zero_add] at hsize
    refine ⟨t.take m, t.drop m, (List.take_append_drop m t).symm, hsize, ?_⟩
    rw [hf, List.length_take, Nat.min_eq_left (Regex.scan_le_length hm)]

theorem adheres_of_read {p : Pattern} (hp : Pattern.read k.pattern = .ok p) (t : Text) :
    k.Adheres t := by
  rw [adheres_iff, (Pattern.held_of_read hp k.compiled).find_eq, Option.isSome_map]
  exact id

/-- A cursor moves over what was matched where it stood. -/
theorem Adheres.skipAhead {c : Cursor} (h : k.Adheres c.ahead) (hc : c.skip = some k) :
    ∃ matched rest, c.ahead = matched ++ rest ∧
      c.skipAhead = .ok ⟨c.behind ++ matched, rest, c.skip⟩ ∧
      (matched = [] ∨ k.regex.find c.ahead = some (0, matched.length)) := by
  cases hn : k.matchLength c.ahead with
  | none =>
    refine ⟨[], c.ahead, rfl, ?_, .inl rfl⟩
    rw [Cursor.skipAhead, hc, Option.bind_some, hn, List.append_nil, ← hc]
  | some n =>
    obtain ⟨matched, rest, hahead, hsize, hfound⟩ := h n hn
    refine ⟨matched, rest, hahead, ?_, .inr hfound⟩
    have hcut : Text.cut n c.ahead = some (matched, rest) := Text.cut_eq_some_iff.2 ⟨hahead, hsize⟩
    rw [Cursor.skipAhead, hc, Option.bind_some, hn, ← hc]
    exact Cursor.forward_eq_ok.2 ⟨matched, rest, hcut, rfl⟩

/-- At a text, a pattern adheres to the front exactly if it matches there or is found nowhere. So it
does at every text if it is well formed by itself, and cursors then move over nothing but what was
matched where they stood. -/
theorem adheres_at_front (k : SkipPattern) :
    (∀ t, k.Adheres t ↔ ((k.regex.find t).isSome → (k.regex.atStart t).isSome)) ∧
    ∀ p, Pattern.read k.pattern = .ok p → (∀ t, k.Adheres t) ∧
      ∀ c : Cursor, c.skip = some k → ∃ matched rest, c.ahead = matched ++ rest ∧
        c.skipAhead = .ok ⟨c.behind ++ matched, rest, c.skip⟩ ∧
        (matched = [] ∨ k.regex.find c.ahead = some (0, matched.length)) :=
  ⟨fun _ => adheres_iff, fun _ hp => ⟨adheres_of_read hp, fun c hc =>
    (adheres_of_read hp c.ahead).skipAhead hc⟩⟩

/-- The added group is closed within the pattern, and the branch behind it is held to no place. -/
theorem not_adheres_outside : ∃ k : SkipPattern, k.pattern = "a)|(?:b".toList ∧
    k.regex.find ['x', 'b'] = some (1, 1) ∧ ¬k.Adheres ['x', 'b'] ∧
    (Cursor.start ['x', 'b'] (some k)).skipAhead = .ok ⟨['x', 'b'], [], some k⟩ := by
  obtain ⟨r, hr, hf⟩ : ∃ r, Pattern.compileAnchored "a)|(?:b".toList = .ok r ∧
      r.find ['x', 'b'] = some (1, 1) := by
    have h : (Pattern.compileAnchored "a)|(?:b".toList).toOption.bind (·.find ['x', 'b']) =
        some (1, 1) := by decide +kernel
    cases hr : Pattern.compileAnchored "a)|(?:b".toList with
    | error e =>
      rw [hr] at h
      cases h
    | ok r =>
      rw [hr] at h
      exact ⟨r, rfl, h⟩
  refine ⟨⟨_, r, hr⟩, rfl, hf, fun h => ?_, ?_⟩
  · obtain ⟨matched, rest, -, -, hfront⟩ := h 2 (matchLength_eq_some.2 ⟨1, 1, hf, rfl⟩)
    cases hf.symm.trans hfront
  · have hcut : Text.cut 2 ['x', 'b'] = some (['x', 'b'], []) := by decide
    rw [Cursor.skipAhead, Cursor.start, Option.bind_some, matchLength, hf]
    exact Cursor.forward_eq_ok.2 ⟨_, _, hcut, rfl⟩

end Descent.SkipPattern
