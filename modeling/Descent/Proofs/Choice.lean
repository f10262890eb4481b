import Descent.Proofs.Settling

/-! # Choice

A choice gives the first success, or the failure of its second branch. So what both branches have in
front may be taken out of them: where it fails the choice fails as it does, and else as the second
branch does behind it. -/
namespace Descent.Grammar

open Result

variable {rules : Rules} {P : Grammar → Prop} {c : Cursor} {a b d : Grammar} {e : Failure}

theorem result_either_assoc (hc : c.skipped.skipped = c.skipped) :
    (either (either a b) d).result rules .parse c =
      (either a (either b d)).result rules .parse c := by
  simp only [result_either_settled hc, orElse_orElse]

theorem result_either_self (hc : c.skipped.skipped = c.skipped) :
    (either a a).result rules .parse c = a.result rules .parse c := by
  rw [result_either_settled hc, orElse_self]

/-- The second branch starts anew with the common front, and comes as far as the first. -/
theorem result_either_both (hc : SettledAmong rules P c) (ha : P a) :
    (either (both a b) (both a d)).result rules .parse c =
      (both a (either b d)).result rules .parse c := by
  have hskip := hc.skipped_skipped
  rw [result_either_settled hskip, result_both_settled hskip, result_both_settled hskip,
    result_both_settled hskip, orElse_onSuccess]
  refine onSuccess_congr fun v r hv => ?_
  have hr := hc.of_result ha hv
  rw [result_either_settled hr.skipped_skipped, map_orElse]

/-- What is in front fails, or both branches do behind it. -/
theorem returns_both_either_failure_iff (hc : SettledAmong rules P c) (ha : P a) :
    (both a (either b d)).Returns rules .parse c (.failure e) ↔
      a.Returns rules .parse c (.failure e) ∨
        ∃ v r, a.Yields rules c v r ∧ b.Fails rules r ∧ d.Returns rules .parse r (.failure e) := by
  simp only [Yields, Fails, ← result_eq_ok_iff]
  rw [result_both_settled hc.skipped_skipped]
  refine onSuccess_eq_failure_iff.trans (or_congr_right (exists₂_congr fun v r => ?_))
  refine and_congr_right fun hv => map_eq_failure_iff.trans ?_
  have hr := hc.of_result ha hv
  rw [result_either_settled hr.skipped_skipped]
  exact orElse_eq_failure_iff

/-- What choices have in common that differ in how they are nested, or in what is written once and
what for each branch. -/
structure Choice (rules : Rules) (P : Grammar → Prop) (c : Cursor) : Prop where
  either_assoc : ∀ a b d : Grammar, (either (either a b) d).result rules .parse c =
    (either a (either b d)).result rules .parse c
  either_self : ∀ a : Grammar, (either a a).result rules .parse c = a.result rules .parse c
  factor : ∀ {a b d : Grammar}, P a → (either (both a b) (both a d)).result rules .parse c =
    (both a (either b d)).result rules .parse c
  failure_iff : ∀ {a b d g : Grammar} {e : Failure}, P a →
    g = either (both a b) (both a d) ∨ g = both a (either b d) →
      (g.Returns rules .parse c (.failure e) ↔ a.Returns rules .parse c (.failure e) ∨
        ∃ v r, a.Yields rules c v r ∧ b.Fails rules r ∧ d.Returns rules .parse r (.failure e))

theorem choice_of_settled (hc : SettledAmong rules P c) : Choice rules P c where
  either_assoc _ _ _ := result_either_assoc hc.skipped_skipped
  either_self _ := result_either_self hc.skipped_skipped
  factor := result_either_both hc
  failure_iff := by
    rintro a b d g e ha (rfl | rfl)
    · rw [← result_eq_ok_iff, result_either_both hc ha, result_eq_ok_iff]
      exact returns_both_either_failure_iff hc ha
    · exact returns_both_either_failure_iff hc ha

/-- Behind the number, which both branches have in front, neither of the two signs stands. -/
theorem choice_of_settled_signs :
    let rules : Rules := fun _ => atEnd
    let c : Cursor := .start " 7 )".toList
    let r : Cursor := ⟨" 7 ".toList, [')'], some .whiteSpace⟩
    let e : Failure := ⟨r, .mismatch [','] [')'], "literal[,]"⟩
    integer.Stays rules ∧ SettledAmong rules (Stays rules) c ∧ Choice rules (Stays rules) c ∧
      (either (both integer (literal ['('])) (both integer (literal [',']))).Returns rules .parse c
        (.failure e) := by
  intro rules c r e
  have hinteger : integer.Stays rules :=
    stays_of_genuine (fun _ => .leaf rfl nofun) (.leaf rfl nofun)
  have hc : SettledAmong rules (Stays rules) c :=
    settledAmong_of_steady (Cursor.steady_whiteSpace rfl) fun _ hg => hg
  exact ⟨hinteger, hc, choice_of_settled hc, 6, _, rfl⟩

end Descent.Grammar
