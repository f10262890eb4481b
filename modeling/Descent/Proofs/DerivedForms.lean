import Descent.Proofs.Settling
import Descent.Vocabulary.Mapping

/-! # Repetitions in terms of one another

Each repetition agrees with a form made of the others: on all outcomes, or on all but the place
where a list of one item ends. What is put together of an item and a repetition of its own skips
behind the item once more, and stays there if nothing comes of it. -/
namespace Descent

/-- The list that there may be, or an empty one. -/
def Mapping.orEmpty : Value → Value
  | .none => .list []
  | .some v => v
  | v => v

/-- With the end of a list of one item where skipping behind it ends. -/
def Outcome.skippedBehindOne : Outcome → Outcome
  | .success (.list [v]) rest => .success (.list [v]) rest.skipped
  | o => o

namespace Grammar

variable {rules : Rules} {mode mode' : Mode} {g g' p separator : Grammar} {c d r : Cursor}
variable {v : Value} {vs : List Value} {o : Outcome}

/-- Skipping settles wherever the two parsers lead to from `c`, one after the other. -/
def Settled (rules : Rules) (p separator : Grammar) (c : Cursor) : Prop :=
  ∀ d, Relation.ReflTransGen
    (fun d r => p.Leads rules .parse d r ∨ separator.Leads rules .parse d r) c d →
      d.skipped.skipped = d.skipped

/-- At steady cursors this holds of all parsers that stay in the source. -/
theorem settled_of_steady (hc : c.Steady) (hp : p.Stays rules) (hs : separator.Stays rules) :
    Settled rules p separator c := by
  have hamong : SettledAmong rules (fun g => g = p ∨ g = separator) c :=
    settledAmong_of_steady hc fun g hg => hg.elim (· ▸ hp) (· ▸ hs)
  refine fun d hd => hamong d (Relation.ReflTransGen.mono (fun _ _ hr => ?_) _ _ hd)
  exact hr.elim (⟨p, .inl rfl, ·⟩) (⟨separator, .inr rfl, ·⟩)

theorem settled_of_genuine (hc : c.Steady)
    (hrules : ∀ name, (rules name).Genuine rules fun _ => False)
    (hp : p.Genuine rules fun _ => False) (hs : separator.Genuine rules fun _ => False) :
    Settled rules p separator c :=
  settled_of_steady hc (stays_of_genuine hrules hp) (stays_of_genuine hrules hs)

section Settled

variable (hc : Settled rules p separator c)
include hc

theorem Settled.skipped_skipped : c.skipped.skipped = c.skipped := hc c .refl

theorem Settled.of_item (hr : p.Leads rules .parse c r) : Settled rules p separator r :=
  fun d hd => hc d (.head (.inl hr) hd)

theorem Settled.of_turn (hr : (keepRight separator p).Leads rules .apply c r) :
    Settled rules p separator r := by
  obtain ⟨v, hv⟩ := hr
  obtain ⟨w, m, hs, hp⟩ | ⟨e, -, he⟩ := returns_keepRight_iff.1 hv
  · exact fun d hd => hc d (.head (.inr ⟨w, hs⟩) (.head (.inl ⟨v, hp⟩) hd))
  · cases he

end Settled

/-! ## Turns that agree -/

theorem gathers_nil_iff :
    g.Gathers rules mode c [] d ↔ (∃ e, g.Returns rules mode c (.failure e)) ∧ d = c := by
  constructor
  · rintro ⟨_, h⟩
    cases h with
    | stop hg => exact ⟨⟨_, returns_iff_runsTo.2 ⟨_, hg⟩⟩, rfl⟩
  · rintro ⟨⟨e, he⟩, rfl⟩
    obtain ⟨l, hl⟩ := returns_iff_runsTo.1 he
    exact ⟨[l], .stop hl⟩

theorem gathers_cons_iff : g.Gathers rules mode c (v :: vs) d ↔
    ∃ r, g.Returns rules mode c (.success v r) ∧ g.Gathers rules mode r vs d := by
  constructor
  · rintro ⟨_, h⟩
    cases h with
    | more hg hm => exact ⟨_, returns_iff_runsTo.2 ⟨_, hg⟩, _, hm⟩
  · rintro ⟨r, hv, ls, hm⟩
    obtain ⟨l, hl⟩ := returns_iff_runsTo.1 hv
    exact ⟨l :: ls, .more hl hm⟩

/-- Turns may be taken with another parser that agrees wherever they lead to. -/
theorem gathers_congr {P : Cursor → Prop} (hP : ∀ {d r}, P d → g.Leads rules mode d r → P r)
    (hsame : ∀ {d o}, P d → (g.Returns rules mode d o ↔ g'.Returns rules mode' d o)) (hc : P c) :
    g.Gathers rules mode c vs d ↔ g'.Gathers rules mode' c vs d := by
  induction vs generalizing c with
  | nil =>
    rw [gathers_nil_iff, gathers_nil_iff]
    exact and_congr_left' (exists_congr fun e => hsame hc)
  | cons v vs ih =>
    rw [gathers_cons_iff, gathers_cons_iff]
    refine exists_congr fun r => ?_
    rw [← hsame hc]
    exact and_congr_right fun hv => ih (hP hc ⟨v, hv⟩)

/-- Skipped before the first turn, turns that fail at once end where skipping ends. -/
theorem gathers_skipped_iff (hc : c.skipped.skipped = c.skipped) :
    g.Gathers rules .parse c.skipped vs d ↔
      ∃ e, g.Gathers rules .parse c vs e ∧ d = if vs = [] then e.skipped else e := by
  cases vs with
  | nil => simp [gathers_nil_iff, returns_parse_congr hc]
  | cons v vs => simp [gathers_cons_iff, returns_parse_congr hc]

/-- A constant in front of an item only skips. -/
theorem returns_keepRight_success (hc : c.skipped.skipped = c.skipped) {w : Value} :
    p.Returns rules .parse c o ↔ (keepRight (success w) p).Returns rules .apply c o := by
  rw [returns_keepRight_iff]
  simp [Yields, returns_parse, returns_success_iff, hc]

theorem returns_keepRight_parse (hc : c.skipped.skipped = c.skipped) :
    (keepRight separator p).Returns rules .apply c o ↔
      (keepRight separator p).Returns rules .parse c o := by
  rw [returns_parse, returns_keepRight_iff, returns_keepRight_iff]
  simp only [Yields, returns_parse_congr hc]

/-! ## Forms that agree -/

theorem heads_skipped_iff (hc : c.skipped.skipped = c.skipped) {turn : Grammar} :
    p.Heads rules mode turn c.skipped o ↔ p.Heads rules mode turn c o := by
  simp only [Heads, Yields, returns_parse_congr hc]

theorem heads_congr {turn turn' : Grammar} (hc : Settled rules p separator c)
    (hturn : ∀ {r vs d}, Settled rules p separator r →
      (turn.Gathers rules mode r vs d ↔ turn'.Gathers rules mode' r vs d)) :
    p.Heads rules mode turn c o ↔ p.Heads rules mode' turn' c o := by
  refine or_congr_left (exists₂_congr fun v r => exists₂_congr fun vs d => ?_)
  exact and_congr_right fun hv => and_congr_left' (hturn (hc.of_item ⟨v, hv⟩))

/-- An item with a repetition behind it, which skips before its first turn. -/
theorem returns_both_many_iff (hc : c.skipped.skipped = c.skipped) {turn : Grammar} :
    (both p (many turn)).Returns rules .parse c o ↔
      (∃ v r vs d, p.Yields rules c v r ∧ turn.Gathers rules .parse r.skipped vs d ∧
          o = .success (.pair v (.list vs)) d) ∨
        ∃ e, p.Returns rules .parse c (.failure e) ∧ o = .failure e := by
  rw [returns_parse, returns_both_iff]
  simp only [Yields, returns_parse_congr hc]
  refine or_congr (exists₂_congr fun v r => ⟨?_, ?_⟩) Iff.rfl
  · rintro ⟨hv, o', ho', rfl⟩
    obtain ⟨vs, d, hg, rfl⟩ := returns_many_iff.1 (returns_parse.1 ho')
    exact ⟨vs, d, hv, hg, rfl⟩
  · rintro ⟨vs, d, hv, hg, rfl⟩
    exact ⟨hv, _, returns_parse.2 (returns_many_iff.2 ⟨vs, d, hg, rfl⟩), rfl⟩

/-- Put together, item and repetition give what an item with such turns heads, but for the end. -/
theorem returns_cons_iff {turn turn' : Grammar} (hc : Settled rules p separator c)
    (hturn : ∀ {r vs d}, Settled rules p separator r →
      (turn'.Gathers rules mode r vs d ↔ turn.Gathers rules .parse r vs d)) :
    (map Mapping.cons (both p (many turn))).Returns rules .parse c o ↔
      ∃ o', p.Heads rules mode turn' c o' ∧ o = o'.skippedBehindOne := by
  have hskip := hc.skipped_skipped
  rw [returns_parse, returns_map_iff]
  simp only [returns_parse_congr hskip, returns_both_many_iff hskip]
  constructor
  · rintro ⟨_, ⟨v, r, vs, d, hv, hg, rfl⟩ | ⟨e, he, rfl⟩, rfl⟩
    · have hr := hc.of_item ⟨v, hv⟩
      obtain ⟨e, he, hd⟩ := (gathers_skipped_iff hr.skipped_skipped).1 hg
      refine ⟨_, .inl ⟨v, r, vs, e, hv, (hturn hr).2 he, rfl⟩, ?_⟩
      subst hd
      cases vs <;> rfl
    · exact ⟨_, .inr ⟨e, he, rfl⟩, rfl⟩
  · rintro ⟨_, ⟨v, r, vs, e, hv, he, rfl⟩ | ⟨e, he, rfl⟩, rfl⟩
    · have hr := hc.of_item ⟨v, hv⟩
      have hg := (gathers_skipped_iff hr.skipped_skipped).2 ⟨e, (hturn hr).1 he, rfl⟩
      refine ⟨_, .inl ⟨v, r, vs, _, hv, hg, rfl⟩, ?_⟩
      cases vs <;> rfl
    · exact ⟨_, .inr ⟨e, he, rfl⟩, rfl⟩

theorem returns_many1_parse_iff (hc : c.skipped.skipped = c.skipped) :
    (many1 p).Returns rules .parse c o ↔ p.Heads rules .parse p c o := by
  rw [returns_parse, returns_many1_iff, heads_skipped_iff hc]

theorem returns_many1Sep_parse_iff (hc : c.skipped.skipped = c.skipped) :
    (many1Sep p separator).Returns rules .parse c o ↔
      p.Heads rules .apply (keepRight separator p) c o := by
  rw [returns_parse, returns_many1Sep_iff, heads_skipped_iff hc]

/-- A repetition is one that asks for a first item, or nothing. -/
theorem returns_many_optional (hc : c.skipped.skipped = c.skipped) :
    (many p).Returns rules .parse c o ↔
      (map Mapping.orEmpty (optional (many1 p))).Returns rules .parse c o := by
  rw [returns_parse, returns_parse, returns_many_iff, returns_map_iff]
  simp only [returns_parse (g := optional (many1 p)), hc, returns_optional_iff, Yields, Fails,
    returns_parse_congr hc, returns_many1_parse_iff hc, heads_failure_iff]
  constructor
  · rintro ⟨vs, d, hg, rfl⟩
    cases vs with
    | nil =>
      obtain ⟨⟨e, he⟩, rfl⟩ := gathers_nil_iff.1 hg
      exact ⟨_, .inr ⟨⟨e, (returns_parse_congr hc).1 he⟩, rfl⟩, rfl⟩
    | cons v vs =>
      obtain ⟨r, hv, hg⟩ := gathers_cons_iff.1 hg
      exact ⟨_, .inl ⟨_, _, .inl ⟨v, r, vs, d, (returns_parse_congr hc).1 hv, hg, rfl⟩, rfl⟩, rfl⟩
  · rintro ⟨_, ⟨_, d, ⟨v, r, vs, _, hv, hg, ⟨⟩⟩ | ⟨e, -, ⟨⟩⟩, rfl⟩ | ⟨⟨e, he⟩, rfl⟩, rfl⟩
    · exact ⟨v :: vs, d, gathers_cons_iff.2 ⟨r, (returns_parse_congr hc).2 hv, hg⟩, rfl⟩
    · exact ⟨[], c.skipped, gathers_nil_iff.2 ⟨⟨e, (returns_parse_congr hc).2 he⟩, rfl⟩, rfl⟩

/-- What each repetition has in common with the forms that it can be made of. -/
structure DerivedForms (rules : Rules) (p separator : Grammar) (c : Cursor) : Prop where
  many1_many1Sep : ∀ o, (many1 p).Returns rules .parse c o ↔
    (many1Sep p (success .unit)).Returns rules .parse c o
  many_optional : ∀ o, (many p).Returns rules .parse c o ↔
    (map Mapping.orEmpty (optional (many1 p))).Returns rules .parse c o
  many1_cons : ∀ o, (map Mapping.cons (both p (many p))).Returns rules .parse c o ↔
    ∃ o', (many1 p).Returns rules .parse c o' ∧ o = o'.skippedBehindOne
  many1Sep_cons : ∀ o,
    (map Mapping.cons (both p (many (keepRight separator p)))).Returns rules .parse c o ↔
      ∃ o', (many1Sep p separator).Returns rules .parse c o' ∧ o = o'.skippedBehindOne

theorem derivedForms_of_settled (hc : Settled rules p separator c) :
    DerivedForms rules p separator c := by
  have hskip := hc.skipped_skipped
  have hconstant : ∀ {r vs d}, Settled rules p separator r → (p.Gathers rules .parse r vs d ↔
      (keepRight (success .unit) p).Gathers rules .apply r vs d) :=
    gathers_congr (fun hd hr => hd.of_item hr)
      fun hd => returns_keepRight_success hd.skipped_skipped
  have hparsed : ∀ {r vs d}, Settled rules p separator r →
      ((keepRight separator p).Gathers rules .apply r vs d ↔
        (keepRight separator p).Gathers rules .parse r vs d) :=
    gathers_congr (fun hd hr => hd.of_turn hr) fun hd => returns_keepRight_parse hd.skipped_skipped
  constructor
  · intro o
    rw [returns_many1_parse_iff hskip, returns_many1Sep_parse_iff hskip, heads_congr hc hconstant]
  · exact fun o => returns_many_optional hskip
  · intro o
    simp only [returns_many1_parse_iff hskip]
    exact returns_cons_iff hc fun _ => Iff.rfl
  · intro o
    simp only [returns_many1Sep_parse_iff hskip]
    exact returns_cons_iff hc hparsed

/-- Behind the first number there is a blank, and the last separator dangles. -/
theorem derivedForms_of_settled_numbers :
    let rules : Rules := fun _ => atEnd
    let c : Cursor := .start " 7 , 8 ,".toList
    Settled rules integer (literal [',']) c ∧ DerivedForms rules integer (literal [',']) c := by
  intro rules c
  have hc : Settled rules integer (literal [',']) c :=
    settled_of_genuine (Cursor.steady_whiteSpace rfl) (fun _ => .leaf rfl nofun)
      (.leaf rfl nofun) (.leaf rfl nofun)
  exact ⟨hc, derivedForms_of_settled hc⟩

end Grammar
end Descent
