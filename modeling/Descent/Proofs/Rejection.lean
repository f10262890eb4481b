import Descent.Proofs.Evaluation.Inversion
import Descent.Proofs.Matching
import Descent.Vocabulary.Check

/-! # Refused values

A check that refuses a value fails where the check itself was entered. The parser that read the
value was parsed from there, so it started behind what is skipped, and so does its span. The two
places are one if and only if nothing was left to skip. -/
namespace Descent

/-- Where a parser that is run in this mode is entered. -/
def Mode.entered : Mode → Cursor → Cursor
  | .parse, c => c.skipped
  | .apply, c => c

theorem Span.start_of_within {source : Text} {start stop : Nat} {s : Span}
    (h : Span.within source start stop = .ok s) : s.start = start := by
  rw [within] at h
  split at h
  · cases h
    rfl
  · cases h

namespace Grammar

variable {rules : Rules} {mode : Mode} {g : Grammar} {c r : Cursor} {o : Outcome} {v : Value}
variable {f : Value → Except String Value} {message : String}

theorem returns_entered :
    g.Returns rules mode c o ↔ g.Returns rules .apply (mode.entered c) o := by
  cases mode with
  | parse => exact returns_parse
  | apply => exact Iff.rfl

theorem returns_check_of_refused (hv : g.Yields rules c v r) (hf : f v = .error message) :
    (check f g).Returns rules .apply c o ↔ o = .fail c (.custom message) "try_map" := by
  have hfail := returns_check_iff.2 (.inr (.inl ⟨v, r, message, hv, hf, rfl⟩))
  refine ⟨fun ho => ho.unique hfail, ?_⟩
  rintro rfl
  exact hfail

theorem returns_spanned_of_yields (hv : g.Yields rules c v r) :
    (spanned g).Returns rules .apply c o ↔
      ∃ s, Span.within c.source c.skipped.offset r.offset = .ok s ∧
        o = .success (.spanned v s) r := by
  rw [returns_spanned_iff]
  constructor
  · rintro (⟨w, d, s, hw, hs, rfl⟩ | ⟨e, he, -⟩)
    · cases hw.unique hv
      exact ⟨s, hs, rfl⟩
    · cases he.unique hv
  · rintro ⟨s, hs, rfl⟩
    exact .inl ⟨v, r, s, hv, hs, rfl⟩

/-- A refused value that `g` has read, and the span of what it was read from. -/
structure Refusal (rules : Rules) (mode : Mode) (f : Value → Except String Value) (g : Grammar)
    (c : Cursor) (message : String) : Prop where
  fails : ∀ o, (check f g).Returns rules mode c o ↔
    o = .fail (mode.entered c) (.custom message) "try_map"
  span_start : ∀ v s r, (spanned g).Returns rules mode c (.success (.spanned v s) r) →
    s.start = (mode.entered c).skipped.offset
  /-- The failure is reported where the span starts. -/
  reports_start_iff : ∀ e v s r, (check f g).Returns rules mode c (.failure e) →
    (spanned g).Returns rules mode c (.success (.spanned v s) r) →
      (e.rest.offset = s.start ↔ (mode.entered c).skipped = mode.entered c)

theorem refusal_of_yields (hv : g.Yields rules (mode.entered c) v r) (hf : f v = .error message) :
    Refusal rules mode f g c message := by
  have hfails : ∀ o, (check f g).Returns rules mode c o ↔
      o = .fail (mode.entered c) (.custom message) "try_map" :=
    fun o => returns_entered.trans (returns_check_of_refused hv hf)
  have hstart : ∀ v s r, (spanned g).Returns rules mode c (.success (.spanned v s) r) →
      s.start = (mode.entered c).skipped.offset := by
    intro w s d hs
    obtain ⟨_, hwithin, ⟨⟩⟩ := (returns_spanned_of_yields hv).1 (returns_entered.1 hs)
    exact Span.start_of_within hwithin
  refine ⟨hfails, hstart, fun e w s d he hs => ?_⟩
  cases (hfails _).1 he
  rw [hstart w s d hs]
  constructor
  · intro hoffset
    exact Cursor.eq_of_offset_eq (Cursor.past_source _ _) hoffset.symm rfl
  · intro hskip
    exact congrArg Cursor.offset hskip.symm

/-- Parsed where skipping settles, the two places are one. -/
theorem refusal_of_yields_seven :
    let rules : Rules := fun _ => atEnd
    let c : Cursor := .start " 7".toList
    let r : Cursor := ⟨" 7".toList, [], some .whiteSpace⟩
    integer.Yields rules (Mode.parse.entered c) (.int 7) r ∧
      Check.even (.int 7) = .error "7 is not even" ∧
      Refusal rules .parse Check.even integer c "7 is not even" := by
  intro rules c r
  have hv : integer.Yields rules (Mode.parse.entered c) (.int 7) r := ⟨2, [], rfl⟩
  have hf : Check.even (.int 7) = .error "7 is not even" := rfl
  exact ⟨hv, hf, refusal_of_yields hv hf⟩

/-- Entered in front of a blank, the check fails there, and the span starts behind it. Where a skip
takes one letter at a time, the check fails behind the first, and the span starts behind both. -/
theorem fails_before_start :
    let rules : Rules := fun _ => atEnd
    let fails (c : Cursor) : Outcome := .fail c (.custom "7 is not even") "try_map"
    let reads (start : Nat) (r : Cursor) : Outcome :=
      .success (.spanned (.int 7) ⟨r.source, start, r.offset⟩) r
    (let c : Cursor := .start [' ', '7']
     (check Check.even integer).Returns rules .apply c (fails c) ∧
      (spanned integer).Returns rules .apply c (reads 1 ⟨[' ', '7'], [], some .whiteSpace⟩) ∧
      c.offset ≠ 1) ∧
    ∃ k : SkipPattern, k.pattern = ['x'] ∧
      let c : Cursor := .start ['x', 'x', '7'] (some k)
      let d : Cursor := ⟨['x'], ['x', '7'], some k⟩
      (check Check.even integer).Returns rules .parse c (fails d) ∧
        (spanned integer).Returns rules .parse c (reads 2 ⟨['x', 'x', '7'], [], some k⟩) ∧
        d.offset ≠ 2 := by
  intro rules fails reads
  have hk : Pattern.compileAnchored ['x'] = .ok (.cat (.anchor .textStart) (.spell ['x'])) :=
    ok_of_toOption (by decide +kernel)
  refine ⟨⟨⟨3, [], rfl⟩, ⟨3, [], rfl⟩, by decide⟩, ⟨['x'], _, hk⟩, rfl, ?_⟩
  exact ⟨⟨4, _, rfl⟩, ⟨4, _, rfl⟩, show 1 ≠ 2 by decide⟩

end Grammar
end Descent
