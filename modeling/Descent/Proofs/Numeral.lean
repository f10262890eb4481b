import Descent.Proofs.Integers

/-! # Integers of 64 bits in decimal digits

Every spelling of an integer that fits is made of signed digits that stand for this integer. What
begins in another way is no integer at all. -/
namespace Descent

/-- Decimal spellings of an integer of 64 bits, leading zeros included. -/
inductive Numeral : Text → Int64 → Prop
  | plain {ds : Text} {n : Int64} : ds ≠ [] → (∀ d ∈ ds, d.isDigit) →
    n.toInt = Nat.ofDigitChars 10 ds 0 → Numeral ds n
  | plus {ds : Text} {n : Int64} : ds ≠ [] → (∀ d ∈ ds, d.isDigit) →
    n.toInt = Nat.ofDigitChars 10 ds 0 → Numeral ('+' :: ds) n
  | minus {ds : Text} {n : Int64} : ds ≠ [] → (∀ d ∈ ds, d.isDigit) →
    n.toInt = -Nat.ofDigitChars 10 ds 0 → Numeral ('-' :: ds) n

open Text

variable {w : Text} {n : Int64}

theorem Numeral.signedDigits (h : Numeral w n) :
    SignedDigits w ∧ Integer.value w = n.toInt := by
  cases h with
  | plain hne hds hv => exact ⟨⟨[], w, rfl, .inl rfl, hne, hds⟩, hv ▸ Integer.value_digits hds⟩
  | plus hne hds hv => exact ⟨⟨['+'], _, rfl, .inr (.inl rfl), hne, hds⟩, hv.symm⟩
  | minus hne hds hv => exact ⟨⟨['-'], _, rfl, .inr (.inr rfl), hne, hds⟩, hv.symm⟩

namespace Leaf

/-- What begins with neither a sign nor a digit is refused. -/
theorem answerInteger_refuses {x : Char} (hs : x ≠ '+' ∧ x ≠ '-') (hx : x.isDigit = false)
    (k : Text) : answerInteger (x :: k) = .refuses .noInteger "integer" := by
  refine answerInteger_none fun w hw hstart => ?_
  obtain ⟨y, t, rfl, hy⟩ := hw.exists_cons
  obtain rfl : y = x := (List.cons_prefix_cons.1 hstart).1
  rcases hy with hy | hy | hy
  · exact hs.1 hy
  · exact hs.2 hy
  · exact Bool.false_ne_true (hx.symm.trans hy)

end Leaf
end Descent
