import Descent.Proofs.Evaluation.Answer
import Descent.Proofs.Skipping

/-! # What parsers return

Rules that tell the outcome of a parser from those of its operands. Where skipping settles, a parser
may as well be parsed after skipping as before, so only the place where skipping ends counts. -/
namespace Descent.Grammar

variable {rules : Rules} {mode : Mode} {g a b : Grammar} {c r s : Cursor} {o : Outcome}
variable {v w : Value} {e : Failure}

theorem returns_iff_result? :
    g.Returns rules mode c o ↔ (Evaluation.answer rules (.run mode g c)).result? = some (.ok o) :=
  returns_iff_answer.trans Run.result?_eq_some.symm

theorem returns_parse : g.Returns rules .parse c o ↔ g.Returns rules .apply c.skipped o := by
  rw [returns_iff_result?, returns_iff_result?, Evaluation.answer_parse_result?]

/-- Where nothing is left to skip, it makes no difference how a parser is entered. -/
theorem returns_parse_settled (hc : c.skipped = c) :
    g.Returns rules .parse c o ↔ g.Returns rules .apply c o := by
  rw [returns_parse, hc]

/-- Nor does it where nothing is ever skipped. -/
theorem returns_of_skip_none (hc : c.skip = none) :
    g.Returns rules mode c o ↔ g.Returns rules .apply c o := by
  cases mode with
  | parse => exact returns_parse_settled (Cursor.skipped_of_skip_none hc)
  | apply => exact Iff.rfl

/-- What is left to skip is of no account. -/
theorem returns_parse_congr (h : r.skipped = c.skipped) :
    g.Returns rules .parse r o ↔ g.Returns rules .parse c o := by
  rw [returns_parse, returns_parse, h]

theorem returns_parse_skipped (hc : c.Steady) :
    g.Returns rules .parse c.skipped o ↔ g.Returns rules .parse c o :=
  returns_parse_congr hc.skipped_skipped

theorem returns_leaf {answer : Text → Leaf.Answer} (h : g.leaf? = some answer) :
    g.Returns rules .apply c ((answer c.ahead).outcome c) := by
  rw [returns_iff_result?, Evaluation.answer_apply, Evaluation.apply_leaf h]
  rfl

theorem returns_literal (rules : Rules) {t : Text} (h : t <+: c.ahead) :
    (literal t).Returns rules .apply c (.success (.text t) (c.past t.length)) := by
  have hleaf : (literal t).Returns rules .apply c _ := returns_leaf rfl
  rwa [Leaf.answerLiteral, if_pos (List.isPrefixOf_iff_prefix.2 h)] at hleaf

theorem returns_literal_failure (rules : Rules) {t : Text} (h : ¬ t <+: c.ahead) :
    ∃ e, (literal t).Returns rules .apply c (.failure e) := by
  have hleaf : (literal t).Returns rules .apply c _ := returns_leaf rfl
  rw [Leaf.answerLiteral, if_neg fun hprefix => h (List.isPrefixOf_iff_prefix.1 hprefix)] at hleaf
  split at hleaf <;> exact ⟨_, hleaf⟩

namespace Returns

open Evaluation Run

/-- The result of a step that goes on with the outcome of a parser. -/
theorem result?_bind {f : Outcome → Run Outcome} (h : g.Returns rules mode c o) :
    (answer rules (.run mode g c) >>= f).result? = (f o).result? := by
  rw [Run.result?_bind, returns_iff_result?.1 h]

/-- A step ends with what a parser returns. -/
theorem of_apply {x : Run Outcome} (h : apply rules (answer rules) g c = x)
    (hx : x.result? = some (.ok o)) : g.Returns rules .apply c o := by
  rw [returns_iff_result?, answer_apply, h, hx]

theorem both (ha : a.Returns rules .parse c (.success v r))
    (hb : b.Returns rules .parse r (.success w s)) :
    (Grammar.both a b).Returns rules .apply c (.success (.pair v w) s) := by
  refine of_apply rfl (ha.result?_bind.trans ?_)
  exact hb.result?_bind

theorem both_fails (ha : a.Returns rules .parse c (.failure e)) :
    (Grammar.both a b).Returns rules .apply c (.failure e) :=
  of_apply rfl ha.result?_bind

theorem either_left (ha : a.Returns rules .parse c (.success v r)) :
    (Grammar.either a b).Returns rules .apply c (.success v r) :=
  of_apply rfl ha.result?_bind

theorem either_right (ha : a.Returns rules .parse c (.failure e))
    (hb : b.Returns rules .parse c o) : (Grammar.either a b).Returns rules .apply c o := by
  refine of_apply rfl (ha.result?_bind.trans ?_)
  exact returns_iff_result?.1 hb

theorem many_more {vs : List Value} (hg : g.Returns rules .parse c (.success v r))
    (hmany : (Grammar.many g).Returns rules .apply r (.success (.list vs) s)) :
    (Grammar.many g).Returns rules .apply c (.success (.list (v :: vs)) s) := by
  refine of_apply rfl (hg.result?_bind.trans ?_)
  exact hmany.result?_bind

theorem many_stop (hg : g.Returns rules .parse c (.failure e)) :
    (Grammar.many g).Returns rules .apply c (.success (.list []) c) :=
  of_apply rfl hg.result?_bind

theorem absent (hg : g.Returns rules .parse c (.failure e)) :
    (Grammar.absent g).Returns rules .apply c (.success .unit c) :=
  of_apply rfl hg.result?_bind

theorem absent_fails (hg : g.Returns rules .parse c (.success v r)) :
    (Grammar.absent g).Returns rules .apply c (.fail c (.unexpectedMatch g.name) "not") :=
  of_apply rfl hg.result?_bind

theorem keepLeft (ha : a.Returns rules .parse c (.success v r))
    (hb : b.Returns rules .parse r (.success w s)) :
    (Grammar.keepLeft a b).Returns rules .apply c (.success v s) := by
  refine of_apply rfl (ha.result?_bind.trans ?_)
  exact hb.result?_bind

theorem keepLeft_fails (ha : a.Returns rules .parse c (.failure e)) :
    (Grammar.keepLeft a b).Returns rules .apply c (.failure e) :=
  of_apply rfl ha.result?_bind

theorem keepLeft_fails_right (ha : a.Returns rules .parse c (.success v r))
    (hb : b.Returns rules .parse r (.failure e)) :
    (Grammar.keepLeft a b).Returns rules .apply c (.failure e) := by
  refine of_apply rfl (ha.result?_bind.trans ?_)
  exact hb.result?_bind

theorem keepRight (ha : a.Returns rules .parse c (.success v r)) (hb : b.Returns rules .parse r o) :
    (Grammar.keepRight a b).Returns rules .apply c o := by
  refine of_apply rfl (ha.result?_bind.trans ?_)
  exact returns_iff_result?.1 hb

theorem keepRight_fails (ha : a.Returns rules .parse c (.failure e)) :
    (Grammar.keepRight a b).Returns rules .apply c (.failure e) :=
  of_apply rfl ha.result?_bind

theorem named (name : String) (hg : g.Returns rules .apply c o) :
    (Grammar.named name g).Returns rules .apply c o :=
  of_apply rfl (returns_iff_result?.1 hg)

theorem shared (hg : g.Returns rules .apply c o) : (Grammar.shared g).Returns rules .apply c o :=
  of_apply rfl (returns_iff_result?.1 hg)

theorem map (f : Value → Value) (hg : g.Returns rules .parse c o) :
    (Grammar.map f g).Returns rules .apply c (o.map f) :=
  of_apply rfl hg.result?_bind

theorem rule {name : String} (hg : (rules name).Returns rules .parse c o) :
    (Grammar.rule name).Returns rules .apply c o := by
  rw [returns_iff_result?, answer_apply, apply_rule_result?]
  exact returns_iff_result?.1 hg

end Returns

/-! ## Up to what is skipped next -/

/-- The parser yields the value and ends where skipping comes to the same place as from `d`. -/
def Reads (rules : Rules) (g : Grammar) (c : Cursor) (v : Value) (d : Cursor) : Prop :=
  ∃ r, g.Returns rules .parse c (.success v r) ∧ r.skipped = d.skipped

/-- The loop goes on from `c` with the given values and ends at `d`, both up to skipping. -/
def Loops (rules : Rules) (g : Grammar) (c : Cursor) (vs : List Value) (d : Cursor) : Prop :=
  ∀ r, r.skipped = c.skipped →
    ∃ s, (Grammar.many g).Returns rules .apply r (.success (.list vs) s) ∧ s.skipped = d.skipped

variable {d m : Cursor} {vs : List Value}

namespace Reads

theorem congr {c' : Cursor} (h : g.Reads rules c v d) (hc : c'.skipped = c.skipped) :
    g.Reads rules c' v d := by
  obtain ⟨r, hr, hd⟩ := h
  exact ⟨r, (returns_parse_congr hc).2 hr, hd⟩

/-- A parser that is entered where skipping ends. -/
theorem of_apply (hr : g.Returns rules .apply c.skipped (.success v r))
    (hd : r.skipped = d.skipped) : g.Reads rules c v d :=
  ⟨r, returns_parse.2 hr, hd⟩

theorem both (hc : c.Steady) (ha : a.Reads rules c v m) (hb : b.Reads rules m w d) :
    (Grammar.both a b).Reads rules c (.pair v w) d := by
  obtain ⟨r, hr, hm⟩ := ha
  obtain ⟨s, hs, hd⟩ := hb.congr hm
  exact of_apply (((returns_parse_skipped hc).2 hr).both hs) hd

theorem keepLeft (hc : c.Steady) (ha : a.Reads rules c v m) (hb : b.Reads rules m w d) :
    (Grammar.keepLeft a b).Reads rules c v d := by
  obtain ⟨r, hr, hm⟩ := ha
  obtain ⟨s, hs, hd⟩ := hb.congr hm
  exact of_apply (((returns_parse_skipped hc).2 hr).keepLeft hs) hd

theorem keepRight (hc : c.Steady) (ha : a.Reads rules c v m) (hb : b.Reads rules m w d) :
    (Grammar.keepRight a b).Reads rules c w d := by
  obtain ⟨r, hr, hm⟩ := ha
  obtain ⟨s, hs, hd⟩ := hb.congr hm
  exact of_apply (((returns_parse_skipped hc).2 hr).keepRight hs) hd

theorem either_left (hc : c.Steady) (ha : a.Reads rules c v d) :
    (Grammar.either a b).Reads rules c v d := by
  obtain ⟨r, hr, hd⟩ := ha
  exact of_apply (((returns_parse_skipped hc).2 hr).either_left) hd

theorem either_right (hc : c.Steady) (ha : a.Returns rules .parse c (.failure e))
    (hb : b.Reads rules c v d) : (Grammar.either a b).Reads rules c v d := by
  obtain ⟨r, hr, hd⟩ := hb
  exact of_apply (((returns_parse_skipped hc).2 ha).either_right
    ((returns_parse_skipped hc).2 hr)) hd

theorem map (hc : c.Steady) (f : Value → Value) (hg : g.Reads rules c v d) :
    (Grammar.map f g).Reads rules c (f v) d := by
  obtain ⟨r, hr, hd⟩ := hg
  exact of_apply (((returns_parse_skipped hc).2 hr).map f) hd

theorem named (name : String) (hg : g.Reads rules c v d) :
    (Grammar.named name g).Reads rules c v d := by
  obtain ⟨r, hr, hd⟩ := hg
  exact of_apply ((returns_parse.1 hr).named name) hd

theorem shared (hg : g.Reads rules c v d) : (Grammar.shared g).Reads rules c v d := by
  obtain ⟨r, hr, hd⟩ := hg
  exact of_apply (returns_parse.1 hr).shared hd

theorem rule (hc : c.Steady) {name : String} (hg : (rules name).Reads rules c v d) :
    (Grammar.rule name).Reads rules c v d := by
  obtain ⟨r, hr, hd⟩ := hg
  exact of_apply ((returns_parse_skipped hc).2 hr).rule hd

theorem many (hc : c.Steady) (hg : g.Loops rules c vs d) :
    (Grammar.many g).Reads rules c (.list vs) d := by
  obtain ⟨s, hs, hd⟩ := hg c.skipped hc.skipped_skipped
  exact of_apply hs hd

end Reads

namespace Loops

theorem stop (hg : g.Returns rules .parse c (.failure e)) : g.Loops rules c [] c :=
  fun r hr => ⟨r, .many_stop ((returns_parse_congr hr).2 hg), hr⟩

theorem more (hg : g.Reads rules c v m) (hm : g.Loops rules m vs d) :
    g.Loops rules c (v :: vs) d := by
  intro r hr
  obtain ⟨r', hr', hm'⟩ := hg.congr hr
  obtain ⟨s, hs, hd⟩ := hm r' hm'
  exact ⟨s, hr'.many_more hs, hd⟩

end Loops
end Descent.Grammar
