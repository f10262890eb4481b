import Descent.Proofs.Evaluation.Answer
import Descent.Proofs.Grammar
import Descent.Proofs.Regex.Reads
import Descent.Proofs.Skipping
import Descent.Proofs.Text.Words

/-! # White space between words

Where white space is skipped, parsers whose leaves read no white space see nothing but the words of
a source: sources with the same words are told apart only by the places where runs end. Cursors
correspond if the same words are left. Leaves are entered behind white space, and then they find the
same first word ahead. -/
namespace Descent

open Unicode (isWhiteSpace)

namespace Grammar

/-- No leaf reads white space, and there are no spans and no parsers written by hand, by the head of
the grammar. -/
def Blankless : Grammar → Prop
  | literal expected => ∀ x ∈ expected, isWhiteSpace x = false
  | matching m => m = Leaf.email
  | spanned _ => False
  | script _ _ => False
  | _ => True

end Grammar

namespace Leaf

/-- Answers of leaves that read the same part of a word, or refuse both. -/
inductive Answer.Similar (limit : Nat) : Answer → Answer → Prop where
  | accepts (v : Value) {n : Nat} : n ≤ limit → Similar limit (.accepts v n) (.accepts v n)
  | refuses (reason reason' : Reason) (parser : String) :
    Similar limit (.refuses reason parser) (.refuses reason' parser)

theorem Answer.Similar.join {limit : Nat} {a b d : Answer} (h : a.Similar limit d)
    (h' : b.Similar limit d) : a.Similar limit b := by
  cases h with
  | accepts v hn =>
    cases h' with
    | accepts => exact .accepts v hn
  | refuses reason _ parser =>
    cases h' with
    | refuses reason' => exact .refuses reason reason' parser

/-- A solid expression matches nothing, or the same part of the first word. -/
theorem atStart_word {r : Regex} (hr : r.Solid) (t : Text) :
    (r.atStart t = none ∧ r.atStart t.word = none) ∨ ∃ n ≤ t.word.length,
      r.atStart t = some n ∧ r.atStart t.word = some n ∧ t.word.take n = t.take n := by
  have hword : r.atStart t.word = r.atStart t := by
    have ht := t.word_append_afterWord
    rcases t.afterWord_cases with h | ⟨x, rest, h, hx⟩
    · rw [h, List.append_nil] at ht
      rw [ht]
    · rw [h] at ht
      rw [← hr.atStart_append_blank hx t.word rest, ht]
  cases h : r.atStart t with
  | none => exact .inl ⟨rfl, hword.trans h⟩
  | some n =>
    have hn := Regex.scan_le_length (hword.trans h)
    exact .inr ⟨n, hn, rfl, hword.trans h, Text.take_word hn⟩

/-- The first word decides what a leaf does. -/
theorem answer_word {g : Grammar} (hg : g.Blankless) {answer : Text → Answer}
    (ha : g.leaf? = some answer) {t : Text} (ht : t.Settled) :
    (answer t).Similar t.word.length (answer t.word) := by
  cases g <;> cases ha
  case literal expected =>
    have hsame := Text.isPrefixOf_word hg t
    unfold answerLiteral
    cases h : expected.isPrefixOf t with
    | true =>
      have hword := hsame.trans h
      rw [hword]
      exact .accepts _ (List.isPrefixOf_iff_prefix.1 hword).length_le
    | false =>
      rw [hsame.trans h]
      simp only [Bool.false_eq_true, if_false]
      split <;> split <;> exact .refuses _ _ _
  case matching m =>
    obtain rfl : m = email := hg
    unfold answerMatch
    obtain ⟨h, h'⟩ | ⟨n, hn, h, h', htake⟩ := atStart_word emailRegex_solid t
    · simp only [email, h, h']
      exact .refuses _ _ _
    · simp only [email, h, h', htake]
      exact .accepts _ hn
  case decimal =>
    unfold answerDecimal
    obtain ⟨h, h'⟩ | ⟨n, hn, h, h', htake⟩ := atStart_word decimalRegex_solid t
    · simp only [h, h']
      exact .refuses _ _ _
    · simp only [h, h', htake]
      cases Decimal.read? (t.take n) with
      | none => exact .refuses _ _ _
      | some d => exact .accepts _ hn
  case integer =>
    unfold answerInteger
    obtain ⟨h, h'⟩ | ⟨n, hn, h, h', htake⟩ := atStart_word integerRegex_solid t
    · simp only [h, h']
      exact .refuses _ _ _
    · simp only [h, h', htake]
      cases Integer.read64 (t.take n) with
      | error e => exact .refuses _ _ _
      | ok i => exact .accepts _ hn
  case atEnd =>
    unfold answerEnd
    by_cases h : t = []
    · rw [h]
      exact .accepts _ (Nat.zero_le _)
    · have hword := mt ht.word_eq_nil.1 h
      simp only [List.isEmpty_iff, h, hword, if_false]
      exact .refuses _ _ _
  case success v => exact .accepts v (Nat.zero_le _)
  case failure => exact .refuses _ _ _

end Leaf

/-! ## Cursors with the same words ahead -/

namespace Cursor

/-- White space is skipped at both cursors, and the same words are left. -/
structure SameWords (c c' : Cursor) : Prop where
  skip : c.skip = some .whiteSpace
  skip' : c'.skip = some .whiteSpace
  words : Text.words c.ahead = Text.words c'.ahead

namespace SameWords

variable {c c' : Cursor}

theorem symm (h : c.SameWords c') : c'.SameWords c := ⟨h.skip', h.skip, h.words.symm⟩

theorem skipped (h : c.SameWords c') : c.skipped.SameWords c'.skipped where
  skip := h.skip
  skip' := h.skip'
  words := by
    rw [skipped_ahead_whiteSpace h.skip, skipped_ahead_whiteSpace h.skip', Text.words_dropWhile,
      Text.words_dropWhile, h.words]

/-- Both cursors move over the same part of the first word. -/
theorem past (h : c.SameWords c') (hc : c.ahead.Settled) (hc' : c'.ahead.Settled) {n : Nat}
    (hn : n ≤ (Text.word c.ahead).length) : (c.past n).SameWords (c'.past n) where
  skip := h.skip
  skip' := h.skip'
  words := by
    obtain ⟨hword, hafter⟩ := hc.same_word hc' h.words
    have hn' : n ≤ (Text.word c'.ahead).length := hword ▸ hn
    rw [past_ahead, past_ahead, Text.words_drop hn, Text.words_drop hn', hword, hafter]

end SameWords

theorem settled_skipped {c : Cursor} (h : c.skip = some .whiteSpace) :
    Text.Settled c.skipped.ahead := by
  rw [skipped_ahead_whiteSpace h]
  exact Text.settled_dropWhile c.ahead

end Cursor

namespace Correspondence

/-- Cursors with the same words ahead, and equal values. Leaves are no forms here: they do the same
only where no white space is ahead. -/
def spacing : Correspondence := { identity with
  cursor := Cursor.SameWords
  failure := fun e e' => e.rest.SameWords e'.rest ∧ e.parser = e'.parser
  quoted := fun _ _ => True
  leaf := fun _ => False
  spans := False
  seen := .results fun _ => False
  leaf_answer := False.elim
  value_spanned := False.elim
  failure_custom := fun _ _ h => ⟨h, rfl⟩
  failure_unexpected := fun h _ => ⟨h, rfl⟩
  failure_missing := fun h _ => ⟨h, rfl⟩
  log_built := fun _ => trivial
  log_counted := fun _ => trivial }

/-- A grammar in the place of itself. -/
def SameBlankless (g g' : Grammar) : Prop := g.Everywhere Grammar.Blankless ∧ g' = g

theorem spacing_leaf {g : Grammar} (hg : g.Blankless) {answer : Text → Leaf.Answer}
    (ha : g.leaf? = some answer) {c c' : Cursor} (h : c.SameWords c') (hc : c.ahead.Settled)
    (hc' : c'.ahead.Settled) :
    spacing.outcome ((answer c.ahead).outcome c) ((answer c'.ahead).outcome c') := by
  have hword := (hc.same_word hc' h.words).1
  have hsimilar : (answer c.ahead).Similar (Text.word c.ahead).length (answer c'.ahead) := by
    have hleft := Leaf.answer_word hg ha hc
    have hright := Leaf.answer_word hg ha hc'
    rw [← hword] at hright
    exact hleft.join hright
  revert hsimilar
  generalize answer c.ahead = a, answer c'.ahead = a'
  rintro (⟨v, hn⟩ | ⟨reason, reason', parser⟩)
  · exact .success rfl (h.past hc hc' hn)
  · exact .failure ⟨h, rfl⟩

end Correspondence

namespace Evaluation

open Run Correspondence

variable {rules : Rules} (hrules : ∀ name, (rules name).Everywhere Grammar.Blankless)
include hrules

theorem called_blankless {p p' : String} (h : spacing.called p p') :
    SameBlankless (rules p) (rules p') :=
  ⟨hrules p, h ▸ rfl⟩

/-- Parsers do the same at cursors with the same words and no white space ahead. -/
theorem spaced_apply_led {g : Grammar} (hg : g.Everywhere Grammar.Blankless) {n : Nat}
    (hbefore : LedBefore spacing SameBlankless (fun _ _ => False) rules rules n) {c c' : Cursor}
    (h : c.SameWords c') (hc : c.ahead.Settled) (hc' : c'.ahead.Settled) :
    Leads spacing.seen spacing.outcome (stage rules n (.run .apply g c)) fun _ =>
      answer rules (.run .apply g c') := by
  induction hg generalizing n with
  | @intro g hhead hparts ih =>
    have hform (hbody : ∀ h, ¬(g = .shared h ∨ ∃ name, g = .named name h))
        (hallows : spacing.Allows SameBlankless (fun _ _ => False) g) :
        Leads spacing.seen spacing.outcome (stage rules n (.run .apply g c)) fun _ =>
          answer rules (.run .apply g c') := by
      have hsame := sameForm_mapParts (K := spacing) (p := id) (b := id) Iff.rfl hallows
        (fun p hp => ⟨hparts p hp, rfl⟩) (fun _ _ => trivial) fun h hh => hbody h hh
      rw [Grammar.mapParts_id] at hsame
      exact hbefore.form (called_blankless hrules) hsame h
    cases g with
    | literal | matching | decimal | integer | atEnd | success | failure =>
      cases n with
      | zero => exact .nothing
      | succ n =>
        rw [answer_apply, apply_leaf rfl, stage, step, apply_leaf rfl]
        exact .done (spacing_leaf hhead rfl h hc hc')
    | named name g =>
      cases n with
      | zero => exact .nothing
      | succ n =>
        rw [answer_apply]
        exact ih g (.named name g) (hbefore.mono (Nat.le_succ n))
    | shared g =>
      cases n with
      | zero => exact .nothing
      | succ n =>
        rw [answer_apply]
        exact ih g (.shared g) (hbefore.mono (Nat.le_succ n))
    | spanned => exact hhead.elim
    | script => exact hhead.elim
    | rule name => exact hform (by simp) rfl
    | _ => exact hform (by simp) nofun

theorem spaced_led (n : Nat) :
    LedBefore spacing SameBlankless (fun _ _ => False) rules rules n := by
  refine led_before (called_blankless hrules) (fun {n} hbefore g g' c c' hg hc => ?_)
    (fun _ _ _ _ _ h => False.elim h) n
  obtain ⟨hg, rfl⟩ := hg
  cases n with
  | zero => exact .nothing
  | succ n =>
    have hinside := spaced_apply_led hrules hg (hbefore.mono (Nat.le_succ n)) hc.skipped
      (Cursor.settled_skipped hc.skip) (Cursor.settled_skipped hc.skip')
    exact hinside.of_result? (stage_parse_result? rules n g' c).symm
      (answer_parse_result? rules g' c').symm

end Evaluation

namespace Grammar

/-- Two sources with the same words do not differ for a parser that skips white space and reads
none: on both it goes on forever, or succeeds with the same value and the same words left, or fails
in the name of the same parser with the same words left. -/
theorem respaced_agrees {rules : Rules} (hrules : ∀ name, (rules name).Everywhere Blankless)
    {g : Grammar} (hg : g.Everywhere Blankless) {s s' : Text} (h : s.words = s'.words) :
    (g.Diverges rules .parse (.start s) ∧ g.Diverges rules .parse (.start s')) ∨
      (∃ v r r', g.Returns rules .parse (.start s) (.success v r) ∧
        g.Returns rules .parse (.start s') (.success v r') ∧ r.ahead.words = r'.ahead.words) ∨
      ∃ f f', g.Returns rules .parse (.start s) (.failure f) ∧
        g.Returns rules .parse (.start s') (.failure f') ∧ f.parser = f'.parser ∧
        f.rest.ahead.words = f'.rest.ahead.words := by
  have hstart : (Cursor.start s).SameWords (.start s') := ⟨rfl, rfl, h⟩
  have hled := Evaluation.spaced_led hrules
  obtain hd | ⟨_, _, ho, ho', hsame⟩ | ⟨_, hfault, -, -⟩ :=
    agree_of_led hled hled (.parse ⟨hg, rfl⟩ hstart) (.parse ⟨hg, rfl⟩ hstart.symm)
  · exact .inl hd
  · cases hsame with
    | success hv hrest =>
      cases hv
      exact .inr (.inl ⟨_, _, _, ho, ho', hrest.words⟩)
    | failure hf =>
      obtain ⟨hrest, hparser⟩ := hf
      exact .inr (.inr ⟨_, _, ho, ho', hparser, hrest.words⟩)
  · exact hfault.elim

/-- Items and commas, with other white space between them on the second side, and more of it at the
ends. -/
theorem respaced_agrees_list :
    let rules : Rules := fun _ => either integer (both email (optional (literal ['!'])))
    let g := both (many1Sep (rule "item") (literal [','])) (absent atEnd)
    let s := "1 , x@y.de ! ;".toList
    let s' := "\n 1\t\t,  x@y.de\n! ; ".toList
    (g.Diverges rules .parse (.start s) ∧ g.Diverges rules .parse (.start s')) ∨
      (∃ v r r', g.Returns rules .parse (.start s) (.success v r) ∧
        g.Returns rules .parse (.start s') (.success v r') ∧ r.ahead.words = r'.ahead.words) ∨
      ∃ f f', g.Returns rules .parse (.start s) (.failure f) ∧
        g.Returns rules .parse (.start s') (.failure f') ∧ f.parser = f'.parser ∧
        f.rest.ahead.words = f'.rest.ahead.words := by
  intro rules g s s'
  have hliteral : ∀ x, isWhiteSpace x = false → (literal [x]).Everywhere Blankless :=
    fun x hx => .intro (by simpa [Blankless] using hx) nofun
  have hrules : ∀ name, (rules name).Everywhere Blankless := fun _ => .intro trivial fun
    | _, .eitherLeft _ _ => .intro trivial nofun
    | _, .eitherRight _ _ => .intro trivial fun
      | _, .bothLeft _ _ => .intro rfl nofun
      | _, .bothRight _ _ => .intro trivial fun | _, .optional _ => hliteral '!' (by decide +kernel)
  have hitems : (many1Sep (rule "item") (literal [','])).Everywhere Blankless :=
    .intro trivial fun
      | _, .item _ _ => .intro trivial nofun
      | _, .separator _ _ => hliteral ',' (by decide +kernel)
  have hmore : (absent atEnd).Everywhere Blankless :=
    .intro trivial fun | _, .absent _ => .intro trivial nofun
  have hg : (both (many1Sep (rule "item") (literal [','])) (absent atEnd)).Everywhere Blankless :=
    .intro trivial fun
      | _, .bothLeft _ _ => hitems
      | _, .bothRight _ _ => hmore
  have hwords : Text.words s = Text.words s' := by decide +kernel
  exact respaced_agrees hrules hg hwords

end Grammar
end Descent
