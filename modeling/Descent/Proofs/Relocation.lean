import Descent.Proofs.Evaluation.Answer
import Descent.Proofs.Safety
import Descent.Vocabulary.Continuation
import Descent.Vocabulary.Handwritten

/-! # More text before the source

A source can be put behind other text. Parsers see the text ahead and nothing of the text behind, so
they do the same at the same places of the source, and offsets grow by the size of what was put
before. -/
namespace Descent

/-! ## Places and values behind more text -/

def Span.shift (pre : Text) (s : Span) : Span where
  source := pre ++ s.source
  start := Text.size pre + s.start
  stop := Text.size pre + s.stop

/-- A span still covers the same text. -/
theorem Span.text_shift (pre : Text) (s : Span) : (s.shift pre).text = s.text := by
  simp only [text, shift, Text.cut_size_add]
  cases Text.cut s.stop s.source with
  | none => rfl
  | some p =>
    simp only [Option.map_some, Option.bind_some, Text.cut_size_add]
    cases Text.cut s.start p.1 <;> rfl

theorem Span.within_shift (pre source : Text) (start stop : Nat) :
    Span.within (pre ++ source) (Text.size pre + start) (Text.size pre + stop) =
      (Span.within source start stop).map (Span.shift pre) := by
  unfold Span.within
  simp only [Text.size_append, Nat.add_le_add_iff_left]
  split <;> rfl

namespace Value

mutual

/-- The value with all its spans behind more text. -/
def shift (pre : Text) : Value → Value
  | list vs => list (shiftAll pre vs)
  | pair a b => pair (a.shift pre) (b.shift pre)
  | some v => some (v.shift pre)
  | tagged tag v => tagged tag (v.shift pre)
  | spanned v s => spanned (v.shift pre) (s.shift pre)
  | v => v

def shiftAll (pre : Text) : List Value → List Value
  | [] => []
  | v :: vs => v.shift pre :: shiftAll pre vs

end

variable (pre : Text)

mutual

theorem spans_shift : ∀ v : Value, (v.shift pre).spans = v.spans.map (Span.shift pre)
  | list vs => spansAll_shiftAll vs
  | pair a b => by
    rw [shift, spans, spans, List.map_append, spans_shift a, spans_shift b]
  | some v => spans_shift v
  | tagged _ v => spans_shift v
  | spanned v s => congrArg (s.shift pre :: ·) (spans_shift v)
  | text _ | unit | int _ | float _ | none => rfl

theorem spansAll_shiftAll : ∀ vs : List Value,
    spansAll (shiftAll pre vs) = (spansAll vs).map (Span.shift pre)
  | [] => rfl
  | v :: vs => by
    rw [shiftAll, spansAll, spansAll, List.map_append, spans_shift v, spansAll_shiftAll vs]

end

mutual

/-- A value without spans is the same everywhere. -/
theorem shift_of_spans_eq_nil : ∀ {v : Value}, v.spans = [] → v.shift pre = v
  | list vs, h => congrArg list (shiftAll_of_spansAll_eq_nil h)
  | pair a b, h => by
    obtain ⟨ha, hb⟩ := List.append_eq_nil_iff.1 h
    rw [shift, shift_of_spans_eq_nil ha, shift_of_spans_eq_nil hb]
  | some v, h => congrArg some (shift_of_spans_eq_nil h)
  | tagged tag v, h => congrArg (tagged tag) (shift_of_spans_eq_nil h)
  | spanned _ _, h => nomatch h
  | text _, _ | unit, _ | int _, _ | float _, _ | none, _ => rfl

theorem shiftAll_of_spansAll_eq_nil : ∀ {vs : List Value}, spansAll vs = [] → shiftAll pre vs = vs
  | [], _ => rfl
  | v :: vs, h => by
    obtain ⟨hv, hvs⟩ := List.append_eq_nil_iff.1 h
    rw [shiftAll, shift_of_spans_eq_nil hv, shiftAll_of_spansAll_eq_nil hvs]

end

theorem cons_shift (v w : Value) :
    Evaluation.cons (v.shift pre) (w.shift pre) = (Evaluation.cons v w).shift pre := by
  cases w <;> rfl

theorem text_spans_shift (v : Value) :
    (v.shift pre).spans.map Span.text = v.spans.map Span.text := by
  rw [spans_shift, List.map_map]
  exact List.map_congr_left fun s _ => s.text_shift pre

end Value

namespace Cursor

def shift (pre : Text) (c : Cursor) : Cursor := { c with behind := pre ++ c.behind }

variable (pre : Text) (c : Cursor)

@[simp] theorem shift_ahead : (c.shift pre).ahead = c.ahead := rfl

@[simp] theorem shift_source : (c.shift pre).source = pre ++ c.source :=
  List.append_assoc pre c.behind c.ahead

@[simp] theorem shift_offset : (c.shift pre).offset = Text.size pre + c.offset :=
  Text.size_append pre c.behind

theorem shift_past (n : Nat) : (c.shift pre).past n = (c.past n).shift pre := by
  simp only [past, shift, List.append_assoc]

theorem shift_skipped : (c.shift pre).skipped = c.skipped.shift pre := c.shift_past pre c.skipCount

/-- Each place in a source is the start of the text ahead, with the text behind before it. -/
theorem shift_start : (start c.ahead c.skip).shift c.behind = c := by
  simp [start, shift]

/-- A cursor moves to wherever another one is in the same source. -/
theorem advance_offset {d : Cursor} (h : d.source = c.source) :
    c.advance d.offset = .ok { d with skip := c.skip } := by
  rw [advance, ← h, d.cut_offset]

end Cursor

def Failure.shift (pre : Text) (f : Failure) : Failure := { f with rest := f.rest.shift pre }

/-! ## Parsers that do not see what is behind -/

/-- The second side has `pre` before the source of the first. Spans move along, so constants must
hold none. -/
def Correspondence.shifted (pre source : Text) : Correspondence where
  cursor c c' := c.source = source ∧ c' = c.shift pre
  value v v' := v' = v.shift pre
  failure f f' := f.rest.source = source ∧ f' = f.shift pre
  quoted := Eq
  called := Eq
  leaf g := g.leaf?.isSome ∧ ∀ v, g = .success v → v.spans = []
  spans := True
  seen := .results fun _ => True
  leaf_answer := by
    rintro g ⟨hg, hconstant⟩
    obtain ⟨answer, ha⟩ := Option.isSome_iff_exists.1 hg
    refine ⟨answer, ha, ?_⟩
    rintro c _ ⟨hc, rfl⟩
    rw [c.shift_ahead]
    cases h : answer c.ahead with
    | accepts v n =>
      have hv : v.spans = [] := (Leaf.spans_of_accepts ha h).elim id (hconstant v)
      exact .success (Value.shift_of_spans_eq_nil pre hv).symm
        ⟨(c.past_source n).trans hc, c.shift_past pre n⟩
    | refuses reason parser => exact .failure ⟨hc, rfl⟩
  value_unit := rfl
  value_none := rfl
  value_nil := (Value.shift_of_spans_eq_nil pre rfl).symm
  value_some h := congrArg Value.some h
  value_pair h h' := congrArg₂ Value.pair h h'
  value_cons := by
    rintro v _ w _ rfl rfl
    exact Value.cons_shift pre v w
  value_spanned := by
    rintro - c _ d _ v _ ⟨-, rfl⟩ ⟨-, rfl⟩ rfl
    rw [c.shift_skipped, c.shift_source, Cursor.shift_offset, Cursor.shift_offset,
      Span.within_shift]
    cases Span.within c.source c.skipped.offset d.offset with
    | error e => exact .error trivial
    | ok s => exact .ok rfl
  failure_custom := by
    rintro c _ message parser ⟨hc, rfl⟩
    exact ⟨hc, rfl⟩
  failure_unexpected := by
    rintro c _ p _ ⟨hc, rfl⟩ rfl
    exact ⟨hc, rfl⟩
  failure_missing := by
    rintro c _ p _ ⟨hc, rfl⟩ rfl
    exact ⟨hc, rfl⟩
  log_built _ := trivial
  log_counted _ := trivial

namespace Grammar

/-- The second grammar does behind `pre` what the first does in the source alone. The two have the
same form: constants hold no spans, functions give the same where spans have moved, and parsers
written by hand do the same at cursors that have moved. A value that was read is put in as a
constant on both sides as it was found there. -/
inductive Shifted (pre source : Text) : Grammar → Grammar → Prop where
  | form {g g' : Grammar} :
    (Correspondence.shifted pre source).SameForm (Shifted pre source) (Shifted pre source) g g' →
      Shifted pre source g g'
  | value (v : Value) : Shifted pre source (success v) (success (v.shift pre))

variable {pre source : Text} {g g' : Grammar}

/-- One grammar on both sides, if this can be told of each head. -/
theorem Everywhere.shifted (h : g.Everywhere fun g =>
    (Correspondence.shifted pre source).Allows (Shifted pre source) (Shifted pre source) g ∧
      (Correspondence.shifted pre source).Keeps (Shifted pre source) id g) :
    g.Shifted pre source g := by
  induction h with
  | @intro g hhead hparts ih =>
    have hbody : ∀ h, (g = .shared h ∨ ∃ name, g = .named name h) → h.Shifted pre source h := by
      rintro h (rfl | ⟨name, rfl⟩)
      · exact ih h (.shared h)
      · exact ih h (.named name h)
    have hform := Correspondence.sameForm_parts (p := id) (b := id) hhead.1 hhead.2 ih
      (fun _ _ => rfl) hbody
    rw [mapParts_id] at hform
    exact .form hform

/-! Parsers written by hand do not see what is behind if all their moves start at their cursor. -/

namespace Shifted

open Correspondence

/-- A move over some characters ends at the same place on both sides. -/
theorem continueAt (pre : Text) {c : Cursor} (hc : c.source = source) (n : Nat)
    (next : Cursor → Outcome) (hnext : ∀ d d', (shifted pre source).cursor d d' →
      (shifted pre source).outcome (next d) (next d')) :
    (shifted pre source).SameScript (Shifted pre source) (Shifted pre source)
      (Handwritten.continueAt (c.forward (Text.size (c.ahead.take n))) next)
      (Handwritten.continueAt ((c.shift pre).forward (Text.size (c.ahead.take n))) next) := by
  have hmoved : (c.shift pre).forward (Text.size (c.ahead.take n)) = .ok ((c.shift pre).past n) :=
    (c.shift pre).forward_size_take
  rw [c.forward_size_take, hmoved]
  exact .give (hnext _ _ ⟨(c.past_source n).trans hc, c.shift_past pre n⟩)

theorem character (name : String) (accepts : Char → Bool) (expected : String) :
    (Handwritten.character name accepts expected).Shifted pre source
      (Handwritten.character name accepts expected) := by
  refine .form (.script name name ?_)
  rintro ⟨behind, ahead, skip⟩ _ ⟨hc, rfl⟩
  cases ahead with
  | nil => exact .give (.failure ⟨hc, rfl⟩)
  | cons x t =>
    have hone := continueAt pre hc 1 (.success (.text [x])) fun _ _ hd => .success rfl hd
    dsimp only [Cursor.shift] at hone ⊢
    split
    · exact hone
    · exact .give (.failure ⟨hc, rfl⟩)

theorem take (name : String) (n : Nat) :
    (Handwritten.take name n).Shifted pre source (Handwritten.take name n) := by
  refine .form (.script name name ?_)
  rintro c _ ⟨hc, rfl⟩
  dsimp only [Cursor.shift_ahead]
  split
  · have hall := continueAt pre hc c.ahead.length
      (fun c => Handwritten.fail name c s!"expected {n} characters")
      fun _ _ ⟨hd, he⟩ => he ▸ .failure ⟨hd, rfl⟩
    rwa [List.take_length] at hall
  · exact continueAt pre hc n _ fun _ _ hd => .success rfl hd

theorem remaining (name : String) :
    (Handwritten.remaining name).Shifted pre source (Handwritten.remaining name) := by
  refine .form (.script name name ?_)
  rintro c _ ⟨hc, rfl⟩
  have hall := continueAt pre hc c.ahead.length (.success (.text c.ahead))
    fun _ _ hd => .success rfl hd
  rwa [List.take_length] at hall

theorem raw (name : String) (h : g.Shifted pre source g') :
    (Handwritten.raw name g).Shifted pre source (Handwritten.raw name g') :=
  .form (.script name name fun _ _ hc => .apply h hc fun _ _ ho => .give ho)

theorem counted (key : String) (h : g.Shifted pre source g') :
    (Grammar.counted key g).Shifted pre source (Grammar.counted key g') :=
  .form (.script g.name g'.name fun _ _ hc => .note key (.apply h hc fun _ _ ho => .give ho))

theorem noSkip (name : String) (h : g.Shifted pre source g') :
    (Handwritten.noSkip name g).Shifted pre source (Handwritten.noSkip name g') := by
  refine .form (.script name name ?_)
  rintro c _ ⟨hc, rfl⟩
  refine .parse h ⟨hc, rfl⟩ fun o o' ho => ?_
  cases ho with
  | @success v _ r _ hv hr =>
    obtain ⟨hr, rfl⟩ := hr
    have hback := c.advance_offset (hr.trans hc.symm)
    have hback' := (c.shift pre).advance_offset (d := r.shift pre) (by simp [hr, hc])
    dsimp only
    rw [hback, hback']
    exact .give (.success hv ⟨hr, rfl⟩)
  | failure he => exact .give (.failure he)

end Shifted
end Grammar

/-! ## Simulation both ways -/

namespace Evaluation

open Run Correspondence

variable {pre source : Text} {rules rules' : Rules}
variable (hrules : ∀ name, (rules name).Shifted pre source (rules' name))
include hrules

theorem called_shifted {p p' : String} (h : p = p') :
    (rules p).Shifted pre source (rules' p') := h ▸ hrules p

theorem shifted_led (n : Nat) : LedBefore (shifted pre source) (Grammar.Shifted pre source)
    (Grammar.Shifted pre source) rules rules' n := by
  refine led_before_of_body (called_shifted hrules) ?_ (fun _ _ _ _ => trivial) ?_ n
  · rintro c _ ⟨hc, rfl⟩
    exact ⟨(c.past_source _).trans hc, c.shift_skipped pre⟩
  · intro n hbefore g g' c c' hg hc
    cases hg with
    | form hform => exact hbefore.form (called_shifted hrules) hform hc
    | value v =>
      cases n with
      | zero => exact .nothing
      | succ n =>
        rw [answer_apply]
        exact .done (.success rfl hc)

theorem unshifted_led (n : Nat) : LedBefore (shifted pre source).flip
    (fun g' g => g.Shifted pre source g') (fun g' g => g.Shifted pre source g') rules' rules n := by
  have hcalled : ∀ {p' p : String}, p = p' → (rules p).Shifted pre source (rules' p') :=
    called_shifted hrules
  refine led_before_of_body hcalled ?_ (fun _ _ _ _ => trivial) ?_ n
  · rintro _ c ⟨hc, rfl⟩
    exact ⟨(c.past_source _).trans hc, c.shift_skipped pre⟩
  · intro n hbefore g' g c' c hg hc
    cases hg with
    | form hform => exact hbefore.form hcalled hform.flip hc
    | value v =>
      cases n with
      | zero => exact .nothing
      | succ n =>
        rw [answer_apply]
        exact .done (.success rfl hc)

end Evaluation

namespace Grammar

variable {rules : Rules} {g : Grammar}

/-- Genuine grammars end with no fault. -/
theorem Genuine.not_halts {known : Span → Prop}
    (hrules : ∀ name, (rules name).Genuine rules fun _ => False) (hg : g.Genuine rules known)
    (mode : Mode) (c : Cursor) (e : Fault) : ¬g.Halts rules mode c e := by
  rintro ⟨stages, log, h⟩
  cases mode with
  | parse =>
    obtain ⟨_, hok, -⟩ := Evaluation.stage_sound hrules stages (.parse c hg) _ h
    cases hok
  | apply =>
    obtain ⟨_, hok, -⟩ := Evaluation.stage_sound hrules stages (.apply c hg) _ h
    cases hok

/-- A parser does not see where in a source it is entered. At a cursor it does as it does at the
start of the text ahead: it goes on forever on both sides, or succeeds with the same value but for
its spans, which start and end further on by the offset of the cursor and cover the same text, or
fails with the same message in the name of the same parser, and ends as much further on. Both sides
may also end with the same fault, but not if the grammar is genuine. -/
theorem relocated_agrees (mode : Mode) (c : Cursor)
    (hrules : ∀ name, (rules name).Shifted c.behind c.ahead (rules name))
    (hg : g.Shifted c.behind c.ahead g) :
    (g.Diverges rules mode (.start c.ahead c.skip) ∧ g.Diverges rules mode c) ∨
      (∃ v v' r r', g.Returns rules mode (.start c.ahead c.skip) (.success v r) ∧
        g.Returns rules mode c (.success v' r') ∧ v' = v.shift c.behind ∧
        v'.spans.map Span.text = v.spans.map Span.text ∧ r'.offset = c.offset + r.offset) ∨
      (∃ f f', g.Returns rules mode (.start c.ahead c.skip) (.failure f) ∧
        g.Returns rules mode c (.failure f') ∧ f'.message = f.message ∧ f'.parser = f.parser ∧
        f'.rest.offset = c.offset + f.rest.offset) ∨
      ((∃ e, g.Halts rules mode (.start c.ahead c.skip) e ∧ g.Halts rules mode c e) ∧
        ¬((∀ name, (rules name).Genuine rules fun _ => False) ∧
          g.Genuine rules fun _ => False)) := by
  have hcursor : (Correspondence.shifted c.behind c.ahead).cursor (.start c.ahead c.skip) c :=
    ⟨rfl, c.shift_start.symm⟩
  have hjob : (Correspondence.shifted c.behind c.ahead).SameJob (Shifted c.behind c.ahead)
      (Shifted c.behind c.ahead) (.run mode g (.start c.ahead c.skip)) (.run mode g c) := by
    cases mode with
    | parse => exact .parse hg hcursor
    | apply => exact .body hg hcursor
  obtain hd | ⟨_, _, ho, ho', hsame⟩ | ⟨e, -, he, he'⟩ := agree_of_led
    (Evaluation.shifted_led hrules) (Evaluation.unshifted_led hrules) hjob hjob.flip
  · exact .inl hd
  · cases hsame with
    | @success v _ r _ hv hr =>
      obtain ⟨-, rfl⟩ := hr
      cases hv
      exact .inr (.inl ⟨v, _, r, _, ho, ho', rfl, v.text_spans_shift c.behind,
        r.shift_offset c.behind⟩)
    | @failure f _ hf =>
      obtain ⟨-, rfl⟩ := hf
      exact .inr (.inr (.inl ⟨f, _, ho, ho', rfl, rfl, f.rest.shift_offset c.behind⟩))
  · exact .inr (.inr (.inr ⟨⟨e, he, he'⟩,
      fun ⟨hrules, hg⟩ => hg.not_halts hrules mode c e he'⟩))

/-- Behind a letter of two bytes and a line feed: numbers with two characters behind each, under
spans, and a value that is put in as it was read. -/
theorem relocated_agrees_items :
    let rules : Rules := fun _ =>
      map Mapping.swap (both (spanned integer) (spanned (Handwritten.take "two" 2)))
    let mark := Handwritten.noSkip "mark" (optional (literal ['!']))
    let g := both (many1Sep (rule "item") (literal [',']))
      (andThen (spanned mark) Continuation.succeed)
    let c : Cursor := ⟨"é\n".toList, " 12ab , 3cd !".toList, some .whiteSpace⟩
    (g.Diverges rules .parse (.start c.ahead c.skip) ∧ g.Diverges rules .parse c) ∨
      (∃ v v' r r', g.Returns rules .parse (.start c.ahead c.skip) (.success v r) ∧
        g.Returns rules .parse c (.success v' r') ∧ v' = v.shift c.behind ∧
        v'.spans.map Span.text = v.spans.map Span.text ∧ r'.offset = c.offset + r.offset) ∨
      (∃ f f', g.Returns rules .parse (.start c.ahead c.skip) (.failure f) ∧
        g.Returns rules .parse c (.failure f') ∧ f'.message = f.message ∧ f'.parser = f.parser ∧
        f'.rest.offset = c.offset + f.rest.offset) ∨
      ((∃ e, g.Halts rules .parse (.start c.ahead c.skip) e ∧ g.Halts rules .parse c e) ∧
        ¬((∀ name, (rules name).Genuine rules fun _ => False) ∧
          g.Genuine rules fun _ => False)) := by
  intro rules mark g c
  have hswap : ∀ v : Value, Mapping.swap (v.shift c.behind) = (Mapping.swap v).shift c.behind := by
    intro v
    cases v <;> rfl
  have hinteger : integer.Shifted c.behind c.ahead integer :=
    Everywhere.shifted (.intro ⟨fun _ => ⟨rfl, nofun⟩, trivial⟩ nofun)
  have hrules : ∀ name, (rules name).Shifted c.behind c.ahead (rules name) := fun _ =>
    .form (.map (fun v w hw => hw ▸ hswap v) (.form (.both (.form (.spanned trivial hinteger))
      (.form (.spanned trivial (.take "two" 2))))))
  have hmark : mark.Shifted c.behind c.ahead mark :=
    .noSkip "mark" (Everywhere.shifted (.intro ⟨nofun, trivial⟩ fun
      | _, .optional _ => .intro ⟨fun _ => ⟨rfl, nofun⟩, trivial⟩ nofun))
  have hitems : (many1Sep (rule "item") (literal [','])).Shifted c.behind c.ahead
      (many1Sep (rule "item") (literal [','])) :=
    Everywhere.shifted (.intro ⟨nofun, trivial⟩ fun
      | _, .item _ _ => .intro ⟨rfl, trivial⟩ nofun
      | _, .separator _ _ => .intro ⟨fun _ => ⟨rfl, nofun⟩, trivial⟩ nofun)
  have hg : g.Shifted c.behind c.ahead g := .form (.both hitems
    (.form (.andThen (.form (.spanned trivial hmark)) fun v w hw => hw ▸ .value v)))
  exact relocated_agrees .parse c hrules hg

end Grammar
end Descent
