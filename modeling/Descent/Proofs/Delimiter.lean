import Descent.Proofs.Matching
import Descent.Vocabulary.Mapping
import Mathlib.Order.Bounds.Defs

/-! # Text up to a delimiter

A repetition that takes any character where the delimiter does not begin stops at the first place
where it does, or at the end. -/
namespace Descent

namespace Text

/-- The delimiter begins at this offset. -/
def OccursAt (d t : Text) (k : Nat) : Prop := ∃ a b, cut k t = some (a, b) ∧ d <+: b

/-- The offset of the first occurrence, or the end of a text without any. -/
def UpTo (d t : Text) (k : Nat) : Prop :=
  IsLeast {k | OccursAt d t k} k ∨ (∀ j, ¬ OccursAt d t j) ∧ k = size t

/-- The text consists of `a`, in which the delimiter begins nowhere, and of `b`, where it begins
unless nothing is left. -/
structure Delimited (d t a b : Text) : Prop where
  split : t = a ++ b
  stop : d <+: b ∨ b = []
  first : ∀ a' b', t = a' ++ b' → d <+: b' → a <+: a'

variable {d t a b : Text} {x : Char}

theorem exists_delimited (d t : Text) : ∃ a b, Delimited d t a b := by
  induction t with
  | nil => exact ⟨[], [], rfl, .inr rfl, fun _ _ _ _ => List.nil_prefix⟩
  | cons x t ih =>
    by_cases hd : d <+: x :: t
    · exact ⟨[], x :: t, rfl, .inl hd, fun _ _ _ _ => List.nil_prefix⟩
    · obtain ⟨a, b, rfl, hstop, hfirst⟩ := ih
      refine ⟨x :: a, b, rfl, hstop, fun a' b' ht hb' => ?_⟩
      cases a' with
      | nil =>
        rw [ht] at hd
        exact absurd hb' hd
      | cons y a' =>
        obtain ⟨rfl, htail⟩ := List.cons.inj ht
        exact (List.prefix_cons_inj x).2 (hfirst a' b' htail hb')

theorem Delimited.not_here (h : Delimited d t (x :: a) b) : ¬ d <+: t := by
  intro hd
  exact absurd (h.first [] t rfl hd) (by simp)

theorem Delimited.tail (h : Delimited d (x :: t) (x :: a) b) : Delimited d t a b where
  split := (List.cons.inj h.split).2
  stop := h.stop
  first a' b' ht hb' :=
    (List.prefix_cons_inj x).1 (h.first (x :: a') b' (congrArg (x :: ·) ht) hb')

theorem Delimited.upTo (h : Delimited d t a b) : UpTo d t (size a) := by
  have hcut : cut (size a) t = some (a, b) := h.split ▸ cut_size_append a b
  by_cases hd : d <+: b
  · refine .inl ⟨⟨a, b, hcut, hd⟩, ?_⟩
    rintro k ⟨a', b', hk, hb'⟩
    obtain ⟨ht, rfl⟩ := cut_eq_some hk
    obtain ⟨a'', rfl⟩ := h.first a' b' ht hb'
    rw [size_append]
    exact Nat.le_add_right _ _
  · obtain rfl : b = [] := h.stop.resolve_left hd
    refine .inr ⟨?_, by rw [h.split, List.append_nil]⟩
    rintro k ⟨a', b', hk, hb'⟩
    obtain ⟨ht, rfl⟩ := cut_eq_some hk
    obtain ⟨a'', rfl⟩ := h.first a' b' ht hb'
    have hempty : a'' ++ b' = [] := by
      rw [h.split, List.append_assoc] at ht
      exact (List.append_cancel_left ht).symm
    rw [(List.append_eq_nil_iff.1 hempty).2] at hb'
    exact hd hb'

end Text

namespace Mapping

theorem concat_singles (t : Text) : concat (.list (t.map fun x => .text [x])) = .text t := by
  have htexts : texts? (t.map fun x => .text [x]) = some t := by
    induction t with
    | nil => rfl
    | cons x t ih =>
      rw [List.map_cons, texts?, ih]
      rfl
  rw [concat, htexts]

end Mapping

namespace Grammar

open Text

/-- Any character, line feeds included. -/
def anyPattern : Text := "(?s).".toList

/-- A character where the delimiter does not begin. -/
def outside (r : Regex) (d : Text) : Grammar :=
  keepRight (absent (literal d)) (matching (.ofPattern anyPattern r))

/-- The characters up to the delimiter, as one text. -/
def upTo (r : Regex) (d : Text) : Grammar := map Mapping.concat (many (outside r d))

theorem read_anyPattern : Pattern.read anyPattern = .ok (.chars true .all) :=
  ok_of_toOption (by decide +kernel)

theorem compileAnchored_anyPattern :
    Pattern.compileAnchored anyPattern = .ok (.cat (.anchor .textStart) (.chars .all)) :=
  ok_of_toOption (by decide +kernel)

theorem prefixes_all (t : Text) :
    ((Pattern.chars true .all).prefixes t).head? = t.head?.map ([·]) := by
  rw [Pattern.prefixes, Pattern.matchLengths_eq_tries (p := .chars true .all) trivial]
  cases t <;> rfl

section Settled

variable {r : Regex} {d : Text} {x : Char} {c : Cursor} (rules : Rules)
variable (hr : Pattern.compileAnchored anyPattern = .ok r) (hc : c.skipped = c)

include hc in
theorem absent_literal_returns (hd : ¬ d <+: c.ahead) :
    (absent (literal d)).Returns rules .parse c (.success .unit c) := by
  obtain ⟨e, he⟩ := returns_literal_failure rules hd
  rw [returns_parse_settled hc]
  exact .absent ((returns_parse_settled hc).2 he)

include hr hc

theorem outside_more (hd : ¬ d <+: c.ahead) (hx : [x] <+: c.ahead) :
    (outside r d).Returns rules .parse c (.success (.text [x]) (c.past 1)) := by
  obtain ⟨t, ht⟩ := hx
  have hpreferred : ((Pattern.chars true .all).prefixes c.ahead).head? = some [x] := by
    rw [prefixes_all, ← ht]
    rfl
  obtain ⟨c', hc', hany⟩ := returns_preferred rules c read_anyPattern hr hpreferred
  cases hc'.symm.trans (Cursor.forward_size_of_prefix ⟨t, ht⟩)
  rw [returns_parse_settled hc]
  exact .keepRight (absent_literal_returns rules hc hd) ((returns_parse_settled hc).2 hany)

theorem outside_stops (h : d <+: c.ahead ∨ c.ahead = []) :
    ∃ e, (outside r d).Returns rules .parse c (.failure e) := by
  simp only [returns_parse_settled hc]
  by_cases hd : d <+: c.ahead
  · have hliteral := (returns_parse_settled hc).2 (returns_literal rules hd)
    exact ⟨_, .keepRight_fails ((returns_parse_settled hc).2 (.absent_fails hliteral))⟩
  · have hnone : ((Pattern.chars true .all).prefixes c.ahead).head? = none := by
      rw [prefixes_all, h.resolve_left hd]
      rfl
    have hany := returns_unmatched rules c read_anyPattern hr hnone
    exact ⟨_, .keepRight (absent_literal_returns rules hc hd) ((returns_parse_settled hc).2 hany)⟩

end Settled

/-- The repetition goes through the text in front of the delimiter, character by character. -/
theorem many_outside (rules : Rules) {r : Regex} {d a b : Text} {c : Cursor}
    (hr : Pattern.compileAnchored anyPattern = .ok r) (hc : c.skip = none)
    (h : Delimited d c.ahead a b) : (many (outside r d)).Returns rules .apply c
      (.success (.list (a.map fun x => .text [x])) (c.past a.length)) := by
  induction a generalizing c with
  | nil =>
    obtain rfl : c.ahead = b := h.split
    obtain ⟨e, he⟩ := outside_stops rules hr (Cursor.skipped_of_skip_none hc) h.stop
    rw [List.length_nil, Cursor.past_zero]
    exact .many_stop he
  | cons x a ih =>
    have hahead : c.ahead = x :: (c.past 1).ahead := by
      rw [Cursor.past_ahead, h.split]
      rfl
    have htail : Delimited d (c.past 1).ahead a b := by
      rw [hahead] at h
      exact h.tail
    have hrest := ih (c := c.past 1) hc htail
    rw [Cursor.past_past, Nat.add_comm] at hrest
    have hmore := outside_more rules hr (Cursor.skipped_of_skip_none hc) h.not_here
      ⟨_, hahead.symm⟩
    exact .many_more hmore hrest

theorem upTo_reads (rules : Rules) (d source : Text) :
    ∃ r, Pattern.compileAnchored anyPattern = .ok r ∧
      ∃ k a b, UpTo d source k ∧ Text.cut k source = some (a, b) ∧ ∀ mode,
        (upTo r d).Returns rules mode (.start source none) (.success (.text a) ⟨a, b, none⟩) := by
  obtain ⟨a, b, h⟩ := exists_delimited d source
  refine ⟨_, compileAnchored_anyPattern, size a, a, b, h.upTo, h.split ▸ cut_size_append a b, ?_⟩
  have hsettled : (Cursor.start source none).skipped = .start source none :=
    Cursor.skipped_of_skip_none rfl
  have hmany := many_outside rules compileAnchored_anyPattern (c := .start source none) rfl h
  have hmap := Returns.map Mapping.concat ((returns_parse_settled hsettled).2 hmany)
  have hrest : (Cursor.start source none).past a.length = ⟨a, b, none⟩ := by
    simp [Cursor.past, Cursor.start, h.split]
  rw [Outcome.map, Mapping.concat_singles, hrest] at hmap
  rintro (_ | _)
  · exact (returns_parse_settled hsettled).2 hmap
  · exact hmap

end Grammar
end Descent
