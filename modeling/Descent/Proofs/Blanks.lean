import Descent.Proofs.Evaluation.Inversion
import Descent.Proofs.Integers

/-! # Tokens behind white space

Where white space is skipped, a token may have any amount of it in front. What is read then ends
right behind the token, and what stands there is not touched. -/
namespace Descent

open Unicode (isWhiteSpace)

variable {c : Cursor} {s t k w : Text} {x : Char}

/-- White space keeps digits away from a number. -/
theorem Text.noDigit_blank_append (hs : ∀ x ∈ s, isWhiteSpace x = true) (hx : x.isDigit = false) :
    ∀ z ∈ (s ++ x :: t).head?, z.isDigit = false := by
  cases s with
  | nil => simpa using hx
  | cons z s => simpa using Text.isDigit_of_isWhiteSpace (hs z List.mem_cons_self)

/-- The first character that is not white. -/
theorem Text.head?_dropWhile_append (hs : ∀ x ∈ s, isWhiteSpace x = true)
    (hx : isWhiteSpace x = false) : ((s ++ x :: t).dropWhile isWhiteSpace).head? = some x := by
  rw [Text.dropWhile_append hs (by simpa using hx)]
  rfl

namespace Cursor

theorem ahead_past (h : c.ahead = s ++ k) : (c.past s.length).ahead = k := by
  rw [past_ahead, h, List.drop_left]

theorem ahead_past_cons (h : c.ahead = s ++ x :: k) : (c.past (s.length + 1)).ahead = k := by
  rw [past_ahead, h]
  simp

/-- What has been read stands behind the cursor. -/
theorem past_eq (h : c.ahead = s ++ k) : c.past s.length = ⟨c.behind ++ s, k, c.skip⟩ := by
  have htake : c.ahead.take s.length = s := by simp [h]
  rw [past, htake, h, List.drop_left]

/-- Skipping ends at the first character that is not white. -/
theorem skipped_blank (hc : c.skip = some .whiteSpace) (h : c.ahead = s ++ t)
    (hs : ∀ x ∈ s, isWhiteSpace x = true) (ht : ∀ x ∈ t.head?, isWhiteSpace x = false) :
    c.skipped = c.past s.length := by
  have htake : (s ++ t).takeWhile isWhiteSpace = s := Text.takeWhile_append hs ht
  rw [skipped, skipCount_whiteSpace hc, h, htake]

end Cursor

namespace Grammar

open Text

variable (rules : Rules)

theorem literal_yields_of_next (hc : c.skip = some .whiteSpace)
    (h : (c.ahead.dropWhile isWhiteSpace).head? = some x) :
    (literal [x]).Yields rules c (.text [x]) (c.skipped.past 1) :=
  returns_parse.2 (returns_literal rules ((Cursor.prefix_skipped_iff hc).2 h))

theorem literal_yields (hc : c.skip = some .whiteSpace) (h : c.ahead = s ++ x :: t)
    (hs : ∀ x ∈ s, isWhiteSpace x = true) (hx : isWhiteSpace x = false) :
    (literal [x]).Yields rules c (.text [x]) (c.past (s.length + 1)) := by
  have hskip := Cursor.skipped_blank hc h hs (by simpa using hx)
  have hnext : (c.ahead.dropWhile isWhiteSpace).head? = some x := by
    rw [h, head?_dropWhile_append hs hx]
  have hyields := literal_yields_of_next rules hc hnext
  rwa [hskip, Cursor.past_past] at hyields

theorem literal_fails (hc : c.skip = some .whiteSpace)
    (h : (c.ahead.dropWhile isWhiteSpace).head? ≠ some x) : (literal [x]).Fails rules c := by
  obtain ⟨e, he⟩ := returns_literal_failure rules (mt (Cursor.prefix_skipped_iff hc).1 h)
  exact ⟨e, returns_parse.2 he⟩

/-- Signed digits behind white space are all there is to read where skipping ends. -/
theorem skipped_signedDigits (hc : c.skip = some .whiteSpace) (h : c.ahead = s ++ (w ++ k))
    (hs : ∀ x ∈ s, isWhiteSpace x = true) (hw : SignedDigits w)
    (hk : ∀ x ∈ k.head?, x.isDigit = false) :
    c.skipped = c.past s.length ∧ LongestPrefix SignedDigits c.skipped.ahead w := by
  have hskip := Cursor.skipped_blank hc h hs hw.head_not_blank
  refine ⟨hskip, ?_⟩
  rw [hskip, Cursor.ahead_past h]
  exact hw.longestPrefix hk

theorem integer_yields {n : Int64} (hc : c.skip = some .whiteSpace) (h : c.ahead = s ++ (w ++ k))
    (hs : ∀ x ∈ s, isWhiteSpace x = true) (hw : SignedDigits w ∧ Integer.value w = n.toInt)
    (hk : ∀ x ∈ k.head?, x.isDigit = false) :
    integer.Yields rules c (.int n) (c.past (s ++ w).length) := by
  obtain ⟨hsigned, hvalue⟩ := hw
  obtain ⟨hskip, hlongest⟩ := skipped_signedDigits hc h hs hsigned hk
  refine returns_parse.2 ((returns_integer_iff hlongest).2 ?_)
  rw [(Integer.read64_eq_ok_iff hsigned).2 hvalue.symm, hskip, Cursor.past_past,
    List.length_append]

/-- Digits are not read in part where all of them are too many. -/
theorem integer_fails_tooLarge (hc : c.skip = some .whiteSpace) (h : c.ahead = s ++ (w ++ k))
    (hs : ∀ x ∈ s, isWhiteSpace x = true) (hw : SignedDigits w)
    (hlarge : 9223372036854775807 < Integer.value w) (hk : ∀ x ∈ k.head?, x.isDigit = false) :
    integer.Fails rules c := by
  obtain ⟨-, hlongest⟩ := skipped_signedDigits hc h hs hw hk
  have hread : Integer.read64 w = .error .tooLarge := (Integer.read64_eq_tooLarge_iff hw).2 hlarge
  obtain ⟨reason, hreason, -⟩ := (reports_error_iff hlongest .tooLarge).2 hread
  exact ⟨_, returns_parse.2 hreason⟩

end Grammar
end Descent
