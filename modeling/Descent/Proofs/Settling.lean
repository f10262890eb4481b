import Descent.Proofs.Evaluation.Result
import Descent.Proofs.Repetition

/-! # Where skipping settles

Parsers of a kind lead from place to place. Laws that move a skip from one side of a parser to the
other ask that skipping settles wherever these parsers lead to, which it does everywhere in a steady
source that they do not leave. -/
namespace Descent.Grammar

variable {rules : Rules} {P : Grammar → Prop} {g : Grammar} {c d r : Cursor}

/-- Skipping settles wherever parsers of the kind lead to from `c`, one after another. -/
def SettledAmong (rules : Rules) (P : Grammar → Prop) (c : Cursor) : Prop :=
  ∀ d, Relation.ReflTransGen (fun d r => ∃ g, P g ∧ g.Leads rules .parse d r) c d →
    d.skipped.skipped = d.skipped

/-- On success the parser ends in the source that it was entered in, with the same to skip. -/
def Stays (rules : Rules) (g : Grammar) : Prop :=
  ∀ d r, g.Leads rules .parse d r → r.source = d.source ∧ r.skip = d.skip

/-- Where skipping settles at every place of the source, it does so among all parsers that stay
there. -/
theorem settledAmong_of_steady (hc : c.Steady) (hP : ∀ g, P g → g.Stays rules) :
    SettledAmong rules P c := by
  intro d hd
  have hkept : d.source = c.source ∧ d.skip = c.skip := by
    induction hd with
    | refl => exact ⟨rfl, rfl⟩
    | tail _ hr ih =>
      obtain ⟨g, hg, hr⟩ := hr
      obtain ⟨hsource, hskip⟩ := hP g hg _ _ hr
      exact ⟨hsource.trans ih.1, hskip.trans ih.2⟩
  exact hc d hkept.1 hkept.2

theorem Leads.reaches_of_genuine (hrules : ∀ name, (rules name).Genuine rules fun _ => False)
    (hg : g.Genuine rules fun _ => False) (h : g.Leads rules .parse c r) : c.Reaches r := by
  obtain ⟨v, n, l, hn⟩ := h
  obtain ⟨o, ⟨⟩, ho⟩ := Evaluation.stage_sound hrules n (.parse c hg) _ hn
  exact (Cursor.Reaches.skipped c).trans ho.1

/-- What is made of leaves and combinators stays, and so do scripts that keep to the source. -/
theorem stays_of_genuine (hrules : ∀ name, (rules name).Genuine rules fun _ => False)
    (hg : g.Genuine rules fun _ => False) : g.Stays rules := by
  intro d r hr
  have hreaches := hr.reaches_of_genuine hrules hg
  exact ⟨hreaches.source, hreaches.skip⟩

namespace SettledAmong

variable (hc : SettledAmong rules P c)
include hc

theorem skipped_skipped : c.skipped.skipped = c.skipped := hc c .refl

theorem of_leads (hg : P g) (hr : g.Leads rules .parse c r) : SettledAmong rules P r :=
  fun d hd => hc d (.head ⟨g, hg, hr⟩ hd)

theorem of_result {v : Value} (hg : P g) (hv : g.result rules .parse c = .success v r) :
    SettledAmong rules P r :=
  hc.of_leads hg ⟨v, result_eq_ok_iff.1 hv⟩

end SettledAmong

end Descent.Grammar
