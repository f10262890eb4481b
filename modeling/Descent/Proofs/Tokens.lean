import Descent.Proofs.DerivedForms
import Mathlib.Data.List.Chain
import Mathlib.Data.List.DropRight

/-! # Tokens with their spans

A tokeniser repeats a choice of leaves, each with its span. The leaves read where skipping has
ended, however deep they stand in the choice, and the span starts there as well. So values are the
texts of their spans, and nothing is lost between them but white space. -/
namespace Descent

open Unicode (isWhiteSpace)

/-- A text that was read, with its span and the text in front of it. -/
structure Lexeme where
  gap : Text
  text : Text
  span : Span

def Lexeme.value (t : Lexeme) : Value := .spanned (.text t.text) t.span

/-- The pieces of a source in front of the spans, each from where the one before it ends. -/
def Span.gaps (source : Text) : Nat → List Span → List Span
  | _, [] => []
  | start, s :: ss => ⟨source, start, s.start⟩ :: gaps source s.stop ss

theorem Span.text_of_append (a b c : Text) :
    (⟨a ++ (b ++ c), Text.size a, Text.size (a ++ b)⟩ : Span).text = .ok b := by
  have hstop := Text.cut_size_append (a ++ b) c
  rw [List.append_assoc] at hstop
  rw [Span.text, hstop, Option.bind_some]
  dsimp only
  rw [Text.cut_size_append]

/-- Choices of literals and expressions, in any nesting. -/
inductive Grammar.Token : Grammar → Prop where
  | literal (expected : Text) : Token (.literal expected)
  | matching (m : Leaf.Matcher) : Token (.matching m)
  | either {a b : Grammar} : Token a → Token b → Token (.either a b)
  | shared {g : Grammar} : Token g → Token (.shared g)
  | named (name : String) {g : Grammar} : Token g → Token (.named name g)

/-- From `c` on, lexemes follow one another up to `d`, with white space between them. -/
inductive Cursor.Lexes : Cursor → List Lexeme → Cursor → Prop where
  | nil (c : Cursor) : Lexes c [] c
  | cons {c d : Cursor} {gap text rest : Text} {ts : List Lexeme} :
    (∀ x ∈ gap, isWhiteSpace x = true) → c.ahead = gap ++ (text ++ rest) →
      Lexes ⟨c.behind ++ gap ++ text, rest, c.skip⟩ ts d →
        Lexes c (⟨gap, text, c.source, Text.size (c.behind ++ gap),
          Text.size (c.behind ++ gap ++ text)⟩ :: ts) d

namespace Cursor.Lexes

variable {c d : Cursor} {ts : List Lexeme}

theorem source_next {gap text rest : Text} (h : c.ahead = gap ++ (text ++ rest)) :
    (⟨c.behind ++ gap ++ text, rest, c.skip⟩ : Cursor).source = c.source := by
  rw [source, source, h, List.append_assoc, List.append_assoc]

theorem source_eq (h : c.Lexes ts d) : d.source = c.source := by
  induction h with
  | nil c => rfl
  | cons _ hahead _ ih => exact ih.trans (source_next hahead)

theorem skip_eq (h : c.Lexes ts d) : d.skip = c.skip := by
  induction h with
  | nil c => rfl
  | cons _ _ _ ih => exact ih

/-- A text behind what is skipped, however long, is the next lexeme. -/
theorem past (hc : c.skip = some .whiteSpace) {n : Nat} (h : (c.skipped.past n).Lexes ts d) :
    c.Lexes (⟨c.ahead.takeWhile isWhiteSpace, c.skipped.ahead.take n,
      c.source, c.skipped.offset, (c.skipped.past n).offset⟩ :: ts) d := by
  have hbehind := skipped_behind_whiteSpace hc
  have hahead : c.ahead = c.ahead.takeWhile isWhiteSpace ++
      (c.skipped.ahead.take n ++ c.skipped.ahead.drop n) := by
    rw [List.take_append_drop, skipped_ahead_whiteSpace hc, List.takeWhile_append_dropWhile]
  rw [offset, offset, Cursor.past, hbehind]
  rw [Cursor.past, hbehind] at h
  exact .cons (fun x hx => List.mem_takeWhile_imp hx) hahead h

theorem span_text (h : c.Lexes ts d) {t : Lexeme} (ht : t ∈ ts) :
    t.span.source = c.source ∧ t.span.text = .ok t.text := by
  induction h with
  | nil c => cases ht
  | @cons c d gap text rest ts _ hahead _ ih =>
    rcases List.mem_cons.1 ht with rfl | ht
    · refine ⟨rfl, ?_⟩
      rw [source, hahead, ← List.append_assoc]
      exact Span.text_of_append _ _ _
    · rw [← source_next hahead]
      exact ih ht

theorem gap_blank (h : c.Lexes ts d) {t : Lexeme} (ht : t ∈ ts) :
    ∀ x ∈ t.gap, isWhiteSpace x = true := by
  induction h with
  | nil c => cases ht
  | cons hgap _ _ ih =>
    rcases List.mem_cons.1 ht with rfl | ht
    · exact hgap
    · exact ih ht

/-- The gaps are what stands in the source between the spans. -/
theorem gap_text (h : c.Lexes ts d) :
    (Span.gaps c.source c.offset (ts.map Lexeme.span)).map Span.text =
      ts.map fun t => .ok t.gap := by
  induction h with
  | nil c => rfl
  | @cons c d gap text rest ts _ hahead _ ih =>
    rw [source_next hahead] at ih
    rw [List.map_cons, Span.gaps, List.map_cons, List.map_cons]
    refine congrArg₂ List.cons ?_ ih
    rw [source, hahead]
    exact Span.text_of_append _ _ _

theorem offset_le (h : c.Lexes ts d) {s : Span} (hs : s ∈ (ts.map Lexeme.span).head?) :
    c.offset ≤ s.start := by
  cases h with
  | nil => cases hs
  | cons =>
    cases hs
    rw [Text.size_append]
    exact Nat.le_add_right _ _

theorem ordered (h : c.Lexes ts d) :
    (ts.map Lexeme.span).IsChain fun s s' => s.stop ≤ s'.start := by
  induction h with
  | nil c => exact .nil
  | cons _ _ hts ih => exact List.isChain_cons.2 ⟨fun s hs => hts.offset_le hs, ih⟩

theorem rest_eq (h : c.Lexes ts d) {t : Lexeme} (ht : t ∈ ts.getLast?) :
    d.offset = t.span.stop := by
  induction h with
  | nil c => cases ht
  | @cons c d gap text rest ts _ _ hts ih =>
    cases hts with
    | nil =>
      cases ht
      rfl
    | cons => exact ih ht

/-- Gaps and texts in order are all that has been read. -/
theorem behind_eq (h : c.Lexes ts d) :
    d.behind = c.behind ++ ts.flatMap fun t => t.gap ++ t.text := by
  induction h with
  | nil c => simp
  | cons _ _ _ ih => rw [ih, List.flatMap_cons]; simp

end Cursor.Lexes

namespace Grammar

variable {rules : Rules} {g t : Grammar} {c d r : Cursor} {v : Value} {vs : List Value}

/-- Where nothing is left to skip, a token is the text up to its end. -/
theorem Token.returns (ht : t.Token) (hc : c.skipped = c)
    (h : t.Returns rules .apply c (.success v r)) :
    ∃ n, v = .text (c.ahead.take n) ∧ r = c.past n := by
  induction ht with
  | literal expected =>
    have ho := h.unique (returns_leaf rfl)
    unfold Leaf.answerLiteral at ho
    split at ho
    · rename_i hprefix
      cases ho
      have htake := List.prefix_iff_eq_take.1 (List.isPrefixOf_iff_prefix.1 hprefix)
      exact ⟨expected.length, congrArg Value.text htake, rfl⟩
    · split at ho <;> cases ho
  | matching m =>
    have ho := h.unique (returns_leaf rfl)
    unfold Leaf.answerMatch at ho
    split at ho <;> cases ho
    exact ⟨_, rfl, rfl⟩
  | either _ _ iha ihb =>
    -- each branch is parsed, and skips nothing more before it reads
    rcases returns_either_iff.1 h with ⟨w, s, ha, ⟨⟩⟩ | ⟨-, hb⟩
    · rw [Yields, returns_parse, hc] at ha
      exact iha ha
    · rw [returns_parse, hc] at hb
      exact ihb hb
  | shared _ ih => exact ih (returns_shared_iff.1 h)
  | named _ _ ih => exact ih (returns_named_iff.1 h)

theorem Token.dependable (ht : t.Token) : t.Dependable rules .apply := by
  induction ht with
  | literal expected => exact dependable_leaf rfl
  | matching m => exact dependable_leaf rfl
  | either _ _ iha ihb => exact iha.parse.either ihb.parse
  | shared _ ih =>
    intro c
    obtain ⟨o, ho, hc⟩ := ih c
    exact ⟨o, returns_shared_iff.2 ho, hc⟩
  | named _ _ ih =>
    intro c
    obtain ⟨o, ho, hc⟩ := ih c
    exact ⟨o, returns_named_iff.2 ho, hc⟩

/-- The span starts behind what is skipped in front of the token. -/
theorem Token.lexes_spanned (ht : t.Token) (hc : c.skip = some .whiteSpace)
    (h : (spanned t).Yields rules c v r) :
    ∃ x : Lexeme, v = x.value ∧ ∀ ts d, r.Lexes ts d → c.Lexes (x :: ts) d := by
  have hskip := (Cursor.steady_whiteSpace hc).skipped_skipped
  rcases returns_spanned_iff.1 (returns_parse.1 h) with ⟨w, s, sp, hw, hsp, ⟨⟩⟩ | ⟨e, -, he⟩
  · rw [Yields, returns_parse, hskip] at hw
    obtain ⟨n, rfl, rfl⟩ := ht.returns hskip hw
    rw [hskip, Span.within] at hsp
    split at hsp
    · have hsource : c.skipped.source = c.source := c.past_source _
      cases hsp
      rw [hsource]
      exact ⟨⟨_, _, _⟩, rfl, fun ts d hd => hd.past hc⟩
    · cases hsp
  · cases he

theorem Token.lexes (ht : t.Token) (hc : c.skip = some .whiteSpace)
    (h : (spanned t).Gathers rules .parse c vs d) :
    ∃ ts : List Lexeme, vs = ts.map Lexeme.value ∧ c.Lexes ts d := by
  induction vs generalizing c with
  | nil =>
    obtain ⟨-, rfl⟩ := gathers_nil_iff.1 h
    exact ⟨[], rfl, .nil d⟩
  | cons v vs ih =>
    obtain ⟨r, hv, hvs⟩ := gathers_cons_iff.1 h
    obtain ⟨x, rfl, hx⟩ := ht.lexes_spanned hc hv
    obtain ⟨ts, rfl, hts⟩ := ih ((hx [] r (.nil r)).skip_eq.trans hc) hvs
    exact ⟨x :: ts, rfl, hx ts d hts⟩

/-- The tokens of a source up to `r`: nothing but white space is in front of them. -/
structure Lossless (source : Text) (ts : List Lexeme) (r : Cursor) : Prop where
  span_text : ∀ t ∈ ts, t.span.source = source ∧ t.span.text = .ok t.text
  ordered : (ts.map Lexeme.span).IsChain fun s s' => s.stop ≤ s'.start
  gap_text : (Span.gaps source 0 (ts.map Lexeme.span)).map Span.text = ts.map fun t => .ok t.gap
  gap_blank : ∀ t ∈ ts, ∀ x ∈ t.gap, isWhiteSpace x = true
  rest_source : r.source = source
  rest_last : ∀ t ∈ ts.getLast?, r.offset = t.span.stop
  rest_none : ts = [] → r.behind = source.takeWhile isWhiteSpace
  read : ts ≠ [] → r.behind = ts.flatMap fun t => t.gap ++ t.text

theorem lossless_of_lexes {source : Text} {ts : List Lexeme}
    (h : (Cursor.start source).Lexes ts d) :
    Lossless source ts (if ts = [] then d.skipped else d) where
  span_text _ ht := h.span_text ht
  ordered := h.ordered
  gap_text := h.gap_text
  gap_blank _ ht := h.gap_blank ht
  rest_source := by
    split
    · exact (d.past_source _).trans h.source_eq
    · exact h.source_eq
  rest_last t ht := by
    rw [if_neg (by rintro rfl; cases ht)]
    exact h.rest_eq ht
  rest_none hts := by
    subst hts
    cases h
    exact Cursor.skipped_behind_whiteSpace rfl
  read hts := by
    rw [if_neg hts, h.behind_eq]
    rfl

theorem Gathers.fails (h : g.Gathers rules .parse c vs d) : g.Fails rules d := by
  obtain ⟨ls, h⟩ := h
  induction h with
  | stop hg => exact ⟨_, returns_iff_runsTo.2 ⟨_, hg⟩⟩
  | more _ _ ih => exact ih

theorem fails_of_spanned (hc : c.skipped.skipped = c.skipped) (h : (spanned g).Fails rules c) :
    g.Fails rules c := by
  obtain ⟨e, he⟩ := h
  rcases returns_spanned_iff.1 (returns_parse.1 he) with ⟨v, r, s, -, -, hv⟩ | ⟨e, he, -⟩
  · cases hv
  · exact ⟨e, (returns_parse_congr hc).1 he⟩

/-- The tokeniser stops where the token fails, and up to there nothing is lost. -/
theorem runWithin_lossless (ht : t.Token) {source : Text} {stages : Nat} {x : Traced Outcome}
    (h : (many (spanned t)).runWithin rules stages .parse (.start source) = some x) :
    ∃ ts r, x.result = .ok (.success (.list (ts.map Lexeme.value)) r) ∧ t.Fails rules r ∧
      Lossless source ts r := by
  let c := Cursor.start source
  have hskip := (Cursor.steady_whiteSpace (c := c) rfl).skipped_skipped
  have hx : (many (spanned t)).result rules .apply c.skipped = some x.result := by
    rw [← result_parse, result, Evaluation.answer_of_stage h]
    rfl
  -- what a stage answers does not go on forever, so the turns come to an end
  have hreturns : ¬(many (spanned t)).Diverges rules .apply c.skipped := by
    rw [← result_eq_none_iff, hx]
    exact Option.some_ne_none _
  have htoken : (spanned t).Dependable rules .parse := ht.dependable.spanned.parse
  obtain ⟨ls, vs, r, hturns, -, hrun⟩ := (many_repeats htoken c.skipped).runsTo hreturns
  have hr := result_eq_ok_iff.2 (returns_iff_runsTo.2 ⟨_, hrun⟩)
  have hfails := Gathers.fails ⟨ls, hturns⟩
  obtain ⟨d, hd, rfl⟩ := (gathers_skipped_iff hskip).1 ⟨ls, hturns⟩
  obtain ⟨ts, rfl, hts⟩ := ht.lexes rfl hd
  simp only [List.map_eq_nil_iff] at hr hfails
  have hend := lossless_of_lexes hts
  refine ⟨ts, _, Option.some.inj (hx.symm.trans hr), fails_of_spanned ?_ hfails, hend⟩
  refine (Cursor.steady_whiteSpace ?_).skipped_skipped
  split
  · exact hts.skip_eq
  · exact hts.skip_eq

/-- A letter of two bytes and signs of which one begins another, with blanks anywhere. -/
theorem runWithin_lossless_signs :
    let number := matching (.ofPattern "[+-]?[0-9]+".toList Leaf.integerRegex)
    let t := either number (either (literal "==".toList)
      (either (literal "=".toList) (literal "é".toList)))
    t.Token ∧ ∃ x, (many (spanned t)).runWithin (fun _ => atEnd) 20 .parse
      (.start " 12==é = 7 !".toList) = some x ∧
        ∃ ts r, x.result = .ok (.success (.list (ts.map Lexeme.value)) r) ∧
          t.Fails (fun _ => atEnd) r ∧ Lossless " 12==é = 7 !".toList ts r := by
  intro number t
  have ht : t.Token :=
    .either (.matching _) (.either (.literal _) (.either (.literal _) (.literal _)))
  obtain ⟨x, hx⟩ := Option.isSome_iff_exists.1 (show Option.isSome ((many (spanned t)).runWithin
    (fun _ => atEnd) 20 .parse (.start " 12==é = 7 !".toList)) = true by decide +kernel)
  exact ⟨ht, x, hx, runWithin_lossless ht hx⟩

end Grammar
end Descent
