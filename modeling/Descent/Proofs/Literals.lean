import Descent.Proofs.Blanks
import Descent.Proofs.Text.Words
import Mathlib.Order.Bounds.Defs

/-! # Literals

A literal reads its text where that is what comes next. Behind white space that is skipped, no text
is found that begins with some. A literal that fails says that the text ahead is cut short, or it
shows as much of it as is needed to see where it differs. -/
namespace Descent

open Unicode (isWhiteSpace)

namespace Text

variable {s t : Text}

/-- Texts of which neither begins the other differ at some character that both have. -/
theorem exists_first_difference (hst : ¬ s <+: t) (hts : ¬ t <+: s) :
    ∃ i, IsLeast {i | s[i]? ≠ t[i]?} i ∧ i < s.length ∧ i < t.length := by
  induction s generalizing t with
  | nil => exact absurd List.nil_prefix hst
  | cons x s ih =>
    cases t with
    | nil => exact absurd List.nil_prefix hts
    | cons y t =>
      by_cases hxy : x = y
      · subst hxy
        obtain ⟨i, hleast, hs, ht⟩ := ih (mt (List.prefix_cons_inj x).2 hst)
          (mt (List.prefix_cons_inj x).2 hts)
        refine ⟨i + 1, ⟨by simpa using hleast.1, fun j hj => ?_⟩, by simpa using hs,
          by simpa using ht⟩
        cases j with
        | zero => exact absurd rfl hj
        | succ j => exact Nat.succ_le_succ (hleast.2 (by simpa using hj))
      · exact ⟨0, ⟨by simpa using hxy, fun j _ => Nat.zero_le j⟩, by simp, by simp⟩

end Text

namespace Grammar

variable {rules : Rules} {s t : Text} {c r : Cursor} {v : Value}

theorem literal_succeeds_iff : (literal t).Returns rules .apply c (.success v r) ↔
    t <+: c.ahead ∧ v = .text t ∧ r = c.past t.length := by
  constructor
  · intro h
    by_cases ht : t <+: c.ahead
    · cases h.unique (returns_literal rules ht)
      exact ⟨ht, rfl, rfl⟩
    · obtain ⟨e, he⟩ := returns_literal_failure rules ht
      cases h.unique he
  · rintro ⟨ht, rfl, rfl⟩
    exact returns_literal rules ht

theorem literal_fails_iff :
    (∃ e, (literal t).Returns rules .apply c (.failure e)) ↔ ¬ t <+: c.ahead := by
  constructor
  · rintro ⟨e, he⟩ ht
    cases he.unique (returns_literal rules ht)
  · exact returns_literal_failure rules

/-! ## One literal after another -/

theorem both_literals_succeeds_iff (hc : c.skip = none) :
    (both (literal s) (literal t)).Returns rules .apply c (.success v r) ↔
      s ++ t <+: c.ahead ∧ v = .pair (.text s) (.text t) ∧ r = c.past (s ++ t).length := by
  have hpast : (c.past s.length).skip = none := hc
  rw [returns_both_iff]
  constructor
  · rintro (⟨v', m, hs, o', ht, ho⟩ | ⟨e, -, ⟨⟩⟩)
    cases o' with
    | failure e => cases ho
    | success w r' =>
      cases ho
      obtain ⟨hsahead, rfl, rfl⟩ := literal_succeeds_iff.1 ((returns_of_skip_none hc).1 hs)
      obtain ⟨htahead, rfl, rfl⟩ := literal_succeeds_iff.1 ((returns_of_skip_none hpast).1 ht)
      rw [Cursor.past_past, List.length_append]
      exact ⟨Pattern.append_prefix_iff.2 ⟨hsahead, htahead⟩, rfl, rfl⟩
  · rintro ⟨h, rfl, rfl⟩
    obtain ⟨hs, ht⟩ := Pattern.append_prefix_iff.1 h
    refine .inl ⟨_, _, (returns_of_skip_none hc).2 (returns_literal rules hs), _,
      (returns_of_skip_none hpast).2 (returns_literal rules ht), ?_⟩
    rw [Cursor.past_past, List.length_append]
    rfl

theorem both_literals_fails_iff (hc : c.skip = none) :
    (∃ e, (both (literal s) (literal t)).Returns rules .apply c (.failure e)) ↔
      ¬ s ++ t <+: c.ahead := by
  constructor
  · rintro ⟨e, he⟩ h
    cases he.unique ((both_literals_succeeds_iff hc).2 ⟨h, rfl, rfl⟩)
  · intro h
    by_cases hs : s <+: c.ahead
    · have hpast : (c.past s.length).skip = none := hc
      have ht : ¬ t <+: (c.past s.length).ahead := fun ht => h (Pattern.append_prefix_iff.2 ⟨hs, ht⟩)
      obtain ⟨e, he⟩ := returns_literal_failure rules ht
      exact ⟨e, returns_both_iff.2 (.inl ⟨_, _, (returns_of_skip_none hc).2
        (returns_literal rules hs), _, (returns_of_skip_none hpast).2 he, rfl⟩)⟩
    · obtain ⟨e, he⟩ := returns_literal_failure rules hs
      exact ⟨e, .both_fails ((returns_of_skip_none hc).2 he)⟩

/-! ## Reading back -/

theorem skipped_settled (h : Text.Settled t) : (Cursor.start t).skipped = .start t := by
  rw [Cursor.skipped_blank rfl (List.nil_append t).symm (by simp) (Text.settled_iff.1 h)]
  exact Cursor.past_zero _

/-- A literal begins its source, with nothing skipped before it, unless white space does. -/
theorem literal_readBack_iff :
    (∃ r, (literal s).Yields rules (.start (s ++ t)) (.text s) r ∧ r.ahead = t) ↔
      Text.Settled (s ++ t) := by
  constructor
  · rintro ⟨r, hr, ht⟩
    obtain ⟨⟨k, hk⟩, -, rfl⟩ := literal_succeeds_iff.1 (returns_parse.1 hr)
    rw [Cursor.past_ahead, ← hk, List.drop_left] at ht
    rw [Cursor.skipped_ahead_whiteSpace rfl, ht] at hk
    exact hk.symm
  · intro h
    refine ⟨_, returns_parse.2 (returns_literal rules ?_), ?_⟩
    · rw [skipped_settled h]
      exact List.prefix_append s t
    · rw [skipped_settled h]
      exact List.drop_left

/-- No white space is left to read where skipping ends. -/
theorem literal_fails_of_blank {x : Char} (hx : isWhiteSpace x = true) (source : Text) :
    (literal (x :: t)).Fails rules (.start source) := by
  have hahead : (Cursor.start source).skipped.ahead = source.dropWhile isWhiteSpace :=
    Cursor.skipped_ahead_whiteSpace rfl
  have hne : ¬ x :: t <+: (Cursor.start source).skipped.ahead := by
    rintro ⟨k, hk⟩
    have hsettled := Text.settled_dropWhile source
    rw [← hahead, ← hk, List.cons_append] at hsettled
    exact Bool.false_ne_true (hsettled.not_blank.symm.trans hx)
  obtain ⟨e, he⟩ := returns_literal_failure rules hne
  exact ⟨e, returns_parse.2 he⟩

/-- When a literal reads the front of a source, with white space skipped before it and with nothing
skipped. In the latter case two literals are one. -/
structure LiteralRoundTrip (rules : Rules) (s : Text) : Prop where
  readBack_iff : ∀ t, (∃ r, (literal s).Yields rules (.start (s ++ t)) (.text s) r ∧ r.ahead = t) ↔
    ∀ x ∈ (s ++ t).head?, isWhiteSpace x = false
  fails_of_blank : (∃ x ∈ s.head?, isWhiteSpace x = true) →
    ∀ source, (literal s).Fails rules (.start source)
  readBack_of_skip_none : ∀ c mode t, c.skip = none → c.ahead = s ++ t →
    (literal s).Returns rules mode c (.success (.text s) ⟨c.behind ++ s, t, none⟩)
  both_succeeds_iff : ∀ c mode t r, c.skip = none →
    ((∃ v, (both (literal s) (literal t)).Returns rules mode c (.success v r)) ↔
      ∃ v, (literal (s ++ t)).Returns rules mode c (.success v r))
  both_fails_iff : ∀ c mode t, c.skip = none →
    ((∃ e, (both (literal s) (literal t)).Returns rules mode c (.failure e)) ↔
      ∃ e, (literal (s ++ t)).Returns rules mode c (.failure e))

theorem literal_roundTrip (rules : Rules) (s : Text) : LiteralRoundTrip rules s where
  readBack_iff t := literal_readBack_iff.trans Text.settled_iff
  fails_of_blank := by
    rintro ⟨x, hx, hblank⟩ source
    cases s with
    | nil => cases hx
    | cons y s =>
      cases hx
      exact literal_fails_of_blank hblank source
  readBack_of_skip_none c mode t hc h := by
    have hread := returns_literal rules (c := c) ⟨t, h.symm⟩
    rw [Cursor.past_eq h, hc] at hread
    exact (returns_of_skip_none hc).2 hread
  both_succeeds_iff c mode t r hc := by
    simp only [returns_of_skip_none hc, both_literals_succeeds_iff hc, literal_succeeds_iff,
      exists_and_left, exists_and_right, exists_eq, true_and]
  both_fails_iff c mode t hc := by
    simp only [returns_of_skip_none hc]
    rw [both_literals_fails_iff hc, literal_fails_iff]

/-! ## What a failure says -/

/-- What a literal says where `ahead` does not begin with the expected text. If `ahead` is just too
short, it says so. Else it shows a part of `ahead`, no longer than the expected text, which includes
the first character that differs. -/
structure Truthful (expected ahead : Text) (message : String) : Prop where
  atEnd_iff : message = s!"expected `{String.ofList expected}`, but reached end of input" ↔
    ahead <+: expected ∧ ahead ≠ expected
  found : ¬ (ahead <+: expected ∧ ahead ≠ expected) → ∃ found i,
    message = s!"expected `{String.ofList expected}`, found `{String.ofList found}`" ∧
    found ≠ [] ∧ found <+: ahead ∧ found.length ≤ expected.length ∧ found ≠ expected ∧
    IsLeast {i | ahead[i]? ≠ expected[i]?} i ∧ i < found.length

variable {expected ahead found : Text} {e : Failure}

theorem message_mismatch_ne :
    (Reason.mismatch expected found).message ≠ (Reason.cutShort expected).message := by
  intro h
  have h : s!"expected `{String.ofList expected}`, found `{String.ofList found}`" =
      s!"expected `{String.ofList expected}`, but reached end of input" := h
  have h := congrArg String.toList h
  simp only [String.toList_append, List.append_assoc] at h
  have hprefix : "`, found `".toList <+: "`, but reached end of input".toList :=
    ⟨_, List.append_cancel_left (List.append_cancel_left h)⟩
  exact absurd hprefix (by decide)

theorem truthful_cutShort (h : ahead <+: expected) (hne : ¬ expected <+: ahead) :
    Truthful expected ahead (Reason.cutShort expected).message := by
  have hproper : ahead <+: expected ∧ ahead ≠ expected := ⟨h, fun he => hne (he ▸ List.prefix_rfl)⟩
  exact ⟨iff_of_true rfl hproper, fun hn => absurd hproper hn⟩

theorem truthful_mismatch (h : ¬ ahead <+: expected) (hne : ¬ expected <+: ahead) :
    Truthful expected ahead
      (Reason.mismatch expected (ahead.take expected.length)).message := by
  refine ⟨iff_of_false message_mismatch_ne fun hproper => h hproper.1, fun _ => ?_⟩
  obtain ⟨i, hleast, hahead, hexpected⟩ := Text.exists_first_difference h hne
  have hi : i < (ahead.take expected.length).length := by
    rw [List.length_take]
    omega
  refine ⟨ahead.take expected.length, i, rfl, List.ne_nil_of_length_pos (by omega),
    List.take_prefix _ _, List.length_take_le _ _, fun he => ?_, hleast, hi⟩
  exact hne (List.prefix_iff_eq_take.2 he.symm)

/-- A literal that fails tells what is wrong with the text ahead. -/
theorem literal_truthful (h : (literal expected).Returns rules .apply c (.failure e)) :
    Truthful expected c.ahead e.message := by
  have hne : ¬ expected <+: c.ahead := literal_fails_iff.1 ⟨e, h⟩
  have hleaf : (literal expected).Returns rules .apply c _ := returns_leaf rfl
  have hexpected : ¬ expected.isPrefixOf c.ahead = true := mt List.isPrefixOf_iff_prefix.1 hne
  rw [Leaf.answerLiteral, if_neg hexpected] at hleaf
  by_cases hahead : c.ahead <+: expected
  · rw [if_pos (List.isPrefixOf_iff_prefix.2 hahead)] at hleaf
    cases h.unique hleaf
    exact truthful_cutShort hahead hne
  · rw [if_neg (mt List.isPrefixOf_iff_prefix.1 hahead)] at hleaf
    cases h.unique hleaf
    exact truthful_mismatch hahead hne

/-- Characters of one, two and three bytes, of which the third differs. -/
theorem literal_truthful_wide :
    let rules : Rules := fun _ => atEnd
    let expected : Text := ['h', 'é', '界']
    let c : Cursor := .start ['h', 'é', '世', '!'] none
    let e : Failure := ⟨c, .mismatch expected ['h', 'é', '世'], Leaf.literalName expected⟩
    (literal expected).Returns rules .apply c (.failure e) ∧
      Truthful expected c.ahead e.message := by
  intro rules expected c e
  have hanswer : Leaf.answerLiteral expected c.ahead = .refuses e.reason e.parser := by
    simp [Leaf.answerLiteral, expected, c, e, Cursor.start]
  have hfails : (literal expected).Returns rules .apply c _ := returns_leaf rfl
  rw [hanswer] at hfails
  exact ⟨hfails, literal_truthful hfails⟩

end Grammar
end Descent
