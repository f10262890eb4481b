import Descent.Proofs.Evaluation.Answer
import Descent.Proofs.Regex.Reads
import Descent.Proofs.Safety
import Mathlib.Data.Fintype.Card
import Mathlib.Data.Set.Finite.Basic
import Mathlib.Logic.Relation

/-! # Grammars whose runs end

Runs go on forever in two ways only: a repetition turns without reading, or rules call one another
without reading. Both can be told from the grammar, if it is known of enough parsers that they read
something whenever they succeed. A run is then followed by what is left to read first, by the calls
that are made at one place second, and by the parts of the grammar third. -/
namespace Descent

namespace Grammar

variable (rules : Rules)

/-- Parsers that read something whenever they succeed, as far as their form tells. -/
inductive Consuming : Grammar → Prop where
  | literal {expected : Text} : expected ≠ [] → Consuming (literal expected)
  | decimal : Consuming decimal
  | integer : Consuming integer
  | email : Consuming email
  | bothLeft {a : Grammar} (b : Grammar) : Consuming a → Consuming (both a b)
  | bothRight (a : Grammar) {b : Grammar} : Consuming b → Consuming (both a b)
  | either {a b : Grammar} : Consuming a → Consuming b → Consuming (either a b)
  | many1 {g : Grammar} : Consuming g → Consuming (many1 g)
  | many1Sep {item : Grammar} (separator : Grammar) :
    Consuming item → Consuming (many1Sep item separator)
  | kept {a : Grammar} (b : Grammar) : Consuming a → Consuming (keepLeft a b)
  | dropped (a : Grammar) {b : Grammar} : Consuming b → Consuming (keepLeft a b)
  | droppedFirst {a : Grammar} (b : Grammar) : Consuming a → Consuming (keepRight a b)
  | keptLast (a : Grammar) {b : Grammar} : Consuming b → Consuming (keepRight a b)
  | sequence {g : Grammar} {gs : List Grammar} : g ∈ gs → Consuming g → Consuming (sequence gs)
  | spanned {g : Grammar} : Consuming g → Consuming (spanned g)
  | named (name : String) {g : Grammar} : Consuming g → Consuming (named name g)
  | shared {g : Grammar} : Consuming g → Consuming (shared g)
  | map (f : Value → Value) {g : Grammar} : Consuming g → Consuming (map f g)
  | check (f : Value → Except String Value) {g : Grammar} : Consuming g → Consuming (check f g)
  | rule (name : String) : Consuming (rules name) → Consuming (rule name)

/-- Operands that may be run where the whole is, as no consuming parser has to succeed before. -/
inductive Front : Grammar → Grammar → Prop where
  | bothLeft (a b : Grammar) : Front a (both a b)
  | bothRight {a : Grammar} (b : Grammar) : ¬Consuming rules a → Front b (both a b)
  | eitherLeft (a b : Grammar) : Front a (either a b)
  | eitherRight (a b : Grammar) : Front b (either a b)
  | many (g : Grammar) : Front g (many g)
  | many1 (g : Grammar) : Front g (many1 g)
  | item (a b : Grammar) : Front a (many1Sep a b)
  | separator {a : Grammar} (b : Grammar) : ¬Consuming rules a → Front b (many1Sep a b)
  | optional (g : Grammar) : Front g (optional g)
  | absent (g : Grammar) : Front g (absent g)
  | present (g : Grammar) : Front g (present g)
  | kept (a b : Grammar) : Front a (keepLeft a b)
  | dropped {a : Grammar} (b : Grammar) : ¬Consuming rules a → Front b (keepLeft a b)
  | droppedFirst (a b : Grammar) : Front a (keepRight a b)
  | keptLast {a : Grammar} (b : Grammar) : ¬Consuming rules a → Front b (keepRight a b)
  | member (before : List Grammar) (g : Grammar) (after : List Grammar) :
    (∀ h ∈ before, ¬Consuming rules h) → Front g (sequence (before ++ g :: after))
  | spanned (g : Grammar) : Front g (spanned g)
  | named (name : String) (g : Grammar) : Front g (named name g)
  | shared (g : Grammar) : Front g (shared g)
  | map (f : Value → Value) (g : Grammar) : Front g (map f g)
  | check (f : Value → Except String Value) (g : Grammar) : Front g (check f g)

/-- The rules that a grammar may call where it is entered. -/
inductive Calls : Grammar → String → Prop where
  | here (name : String) : Calls (rule name) name
  | inside {g h : Grammar} {name : String} : Front rules h g → Calls h name → Calls g name

/-- No repetition can turn without reading, by the head of the grammar. Parsers that are only made
while a run goes on are left out. -/
def Turns : Grammar → Prop
  | many g => Consuming rules g
  | many1 g => Consuming rules g
  | many1Sep item separator => Consuming rules item ∨ Consuming rules separator
  | andThen _ _ => False
  | script _ _ => False
  | _ => True

def WellFormed (g : Grammar) : Prop := g.Everywhere (Turns rules)

end Grammar

open Grammar

/-- Repetitions read in each turn, and no rule comes to call itself before something is read. There
are finitely many rules, or at least of those that call others. -/
structure Rules.WellFormed (rules : Rules) : Prop where
  body : ∀ name, (rules name).WellFormed rules
  finite : {name | ∃ name', Calls rules (rules name) name'}.Finite
  acyclic : ∀ name, ¬Relation.TransGen (fun p q => Calls rules (rules p) q) name name

variable {rules : Rules}

/-- Every chain of calls ends. -/
theorem Rules.WellFormed.wellFounded (h : rules.WellFormed) :
    WellFounded fun q p => Calls rules (rules p) q := by
  let calling := {name | ∃ name', Calls rules (rules name) name'}
  have hfinite : Finite calling := h.finite
  -- among the rules that call others, chains of calls order finitely many
  let below : calling → calling → Prop := fun q p =>
    Relation.TransGen (fun p q => Calls rules (rules p) q) p.1 q.1
  have htrans : IsTrans calling below := ⟨fun _ _ _ h h' => h'.trans h⟩
  have hirrefl : Std.Irrefl below := ⟨fun p => h.acyclic p.1⟩
  have hwf : WellFounded below := Finite.wellFounded_of_trans_of_irrefl below
  have hcalling : ∀ p : calling, Acc (fun q p => Calls rules (rules p) q) p.1 := by
    intro p
    induction p using hwf.induction with
    | _ p ih =>
      refine .intro _ fun q hq => ?_
      by_cases hcalls : q ∈ calling
      · exact ih ⟨q, hcalls⟩ (.single hq)
      · exact .intro _ fun r hr => absurd ⟨r, hr⟩ hcalls
  refine ⟨fun p => .intro _ fun q hq => ?_⟩
  exact (hcalling ⟨p, q, hq⟩).inv hq

/-- Calls that go down in rank make no cycle. -/
theorem Rules.acyclic_of_rank (rank : String → Nat)
    (h : ∀ p q, Calls rules (rules p) q → rank q < rank p) (name : String) :
    ¬Relation.TransGen (fun p q => Calls rules (rules p) q) name name := by
  have hdown : ∀ {p q}, Relation.TransGen (fun p q => Calls rules (rules p) q) p q →
      rank q < rank p := by
    intro p q hpq
    induction hpq with
    | single hq => exact h _ _ hq
    | tail _ hq ih => exact (h _ _ hq).trans ih
  exact fun hcycle => Nat.lt_irrefl _ (hdown hcycle)

/-! ## Where runs go on -/

/-- A success not before `c`, and behind it if this is asked for. -/
inductive Outcome.Beyond (strict : Prop) (c : Cursor) : Outcome → Prop where
  | success {r : Cursor} (v : Value) :
    c.Reaches r → (strict → c.offset < r.offset) → Beyond strict c (.success v r)
  | failure (f : Failure) : Beyond strict c (.failure f)

namespace Outcome.Beyond

variable {p q strict : Prop} {c r : Cursor} {v : Value} {o : Outcome}

theorem map {f : Value → Value} (h : o.Beyond strict c) : (o.map f).Beyond strict c := by
  cases h with
  | success v hr hs => exact .success (f v) hr hs
  | failure e => exact .failure e

theorem mono (h : o.Beyond p c) (hp : strict → p) : o.Beyond strict c := by
  cases h with
  | success v hr hs => exact .success v hr (hs ∘ hp)
  | failure e => exact .failure e

theorem reaches (h : (Outcome.success v r).Beyond strict c) : c.Reaches r := by
  cases h with
  | success _ hr _ => exact hr

theorem lt (h : (Outcome.success v r).Beyond strict c) (hs : strict) : c.offset < r.offset := by
  cases h with
  | success _ _ hlt => exact hlt hs

theorem of_skipped (h : o.Beyond strict c.skipped) : o.Beyond strict c := by
  cases h with
  | success v hr hs =>
    have hskip := Cursor.Reaches.skipped c
    exact .success v (hskip.trans hr) fun h => Nat.lt_of_le_of_lt hskip.le (hs h)
  | failure e => exact .failure e

/-- One run after another is strict if one of the two is. -/
theorem follow (h : (Outcome.success v r).Beyond p c) (ho : o.Beyond q r)
    (hs : strict → p ∨ q) : o.Beyond strict c := by
  cases h with
  | success _ hr hp =>
    cases ho with
    | failure e => exact .failure e
    | success w hd hq =>
      refine .success w (hr.trans hd) fun h => ?_
      rcases hs h with h | h
      · exact Nat.lt_of_lt_of_le (hp h) hd.le
      · exact Nat.lt_of_le_of_lt hr.le (hq h)

end Outcome.Beyond

/-- Consuming leaves accept some of the characters there are. -/
theorem Leaf.accepts_some {g : Grammar} (hg : Consuming rules g) {answer : Text → Leaf.Answer}
    (ha : g.leaf? = some answer) {t : Text} {v : Value} {n : Nat} (h : answer t = .accepts v n) :
    0 < n ∧ n ≤ t.length := by
  cases hg <;> cases ha
  case literal expected hne =>
    unfold answerLiteral at h
    split at h
    · rename_i hprefix
      cases h
      exact ⟨List.length_pos_of_ne_nil hne, (List.isPrefixOf_iff_prefix.1 hprefix).length_le⟩
    · split at h <;> cases h
  case decimal =>
    unfold answerDecimal at h
    split at h
    · cases h
    · rename_i m hm
      split at h <;> cases h
      exact ⟨decimalRegex_solid.atStart_pos hm, Regex.scan_le_length hm⟩
  case integer =>
    unfold answerInteger at h
    split at h
    · cases h
    · rename_i m hm
      split at h <;> cases h
      exact ⟨integerRegex_solid.atStart_pos hm, Regex.scan_le_length hm⟩
  case email =>
    unfold answerMatch at h
    split at h <;> cases h
    rename_i hm
    exact ⟨emailRegex_solid.atStart_pos hm, Regex.scan_le_length hm⟩

theorem Cursor.offset_lt_past {c : Cursor} {n : Nat} (h : 0 < n) (hn : n ≤ c.ahead.length) :
    c.offset < (c.past n).offset := by
  rw [past_offset]
  cases ht : c.ahead with
  | nil =>
    rw [ht, List.length_nil] at hn
    omega
  | cons x t =>
    obtain ⟨m, rfl⟩ : ∃ m, n = m + 1 := ⟨n - 1, by omega⟩
    have := x.utf8Size_pos
    rw [List.take_succ_cons, Text.size_cons]
    omega

theorem Cursor.Reaches.size_ahead_lt {c d : Cursor} (h : c.Reaches d) (hlt : c.offset < d.offset) :
    Text.size d.ahead < Text.size c.ahead := by
  have hs := congrArg Text.size h.source
  rw [Cursor.source, Cursor.source, Text.size_append, Text.size_append] at hs
  rw [Cursor.offset, Cursor.offset] at hlt
  omega

namespace Evaluation

open Run

/-- A parser comes to an outcome where it is entered to parse. -/
def Parses (rules : Rules) (g : Grammar) (c : Cursor) : Prop :=
  Attains (Outcome.Beyond (Consuming rules g) c.skipped) (answer rules (.run .parse g c))

/-- A parser comes to an outcome right where it is. -/
def Applies (rules : Rules) (g : Grammar) (c : Cursor) : Prop :=
  Attains (Outcome.Beyond (Consuming rules g) c) (answer rules (.run .apply g c))

variable {g : Grammar} {b c : Cursor}

theorem Applies.parses (h : Applies rules g c.skipped) : Parses rules g c := by
  rw [Parses, answer_eq_step, step, parse_eq]
  refine h.cases (fun _ _ ho => .done ho) fun e _ => ?_
  exact (Attains.log _).bind fun _ _ => .done (.failure e)

theorem Parses.here (h : Parses rules g c) :
    Attains (Outcome.Beyond (Consuming rules g) c) (answer rules (.run .parse g c)) :=
  h.mono fun _ ho => ho.of_skipped

theorem applies_leaf (hg : g.leaf?.isSome) (c : Cursor) : Applies rules g c := by
  obtain ⟨answer, ha⟩ := Option.isSome_iff_exists.1 hg
  rw [Applies, answer_apply, apply_leaf ha]
  refine .done ?_
  cases h : answer c.ahead with
  | refuses reason parser => exact .failure _
  | accepts v n =>
    refine .success v (.past c n) fun hc => ?_
    obtain ⟨hpos, hle⟩ := Leaf.accepts_some hc ha h
    exact Cursor.offset_lt_past hpos hle

/-- All that is well formed comes to an outcome at the cursor. -/
structure Settles (rules : Rules) (c : Cursor) : Prop where
  applies : ∀ {g : Grammar}, g.WellFormed rules → Applies rules g c
  items : ∀ {item separator : Grammar}, item.WellFormed rules → separator.WellFormed rules →
    Consuming rules item ∨ Consuming rules separator →
      Attains (Outcome.Beyond False c) (answer rules (.items item separator c))

/-! ## Runs from a place on

What is known of places behind `b`, and of what is called at `b`, is enough for all runs from `b`
on. -/

section From

variable (hlater : ∀ d, b.Reaches d → b.offset < d.offset → Settles rules d)
include hlater

theorem parses_later (hg : g.WellFormed rules) {d : Cursor} (hd : b.Reaches d)
    (hlt : b.offset < d.offset) : Parses rules g d := by
  have hskip := Cursor.Reaches.skipped d
  exact ((hlater d.skipped (hd.trans hskip) (Nat.lt_of_lt_of_le hlt hskip.le)).applies hg).parses

theorem settles_after {p : Prop} (hc : b.Reaches c) {v : Value} {r : Cursor}
    (hr : (Outcome.success v r).Beyond p c) (hp : p) : Settles rules r :=
  hlater r (hc.trans hr.reaches) (Nat.lt_of_le_of_lt hc.le (hr.lt hp))

/-- Behind a first operand, either something has been read or the second one is at the front too. -/
theorem parses_next {a h : Grammar} (hh : h.WellFormed rules)
    (hfront : ¬Consuming rules a → ∀ d, b.Reaches d → Parses rules h d) (hc : b.Reaches c)
    {v : Value} {r : Cursor} (hr : (Outcome.success v r).Beyond (Consuming rules a) c) :
    Parses rules h r := by
  by_cases ha : Consuming rules a
  · exact parses_later hlater hh (hc.trans hr.reaches) (Nat.lt_of_le_of_lt hc.le (hr.lt ha))
  · exact hfront ha r (hc.trans hr.reaches)

/-- Each further item comes with a separator before it, and one of the two reads something. -/
theorem items_attains {item separator : Grammar} (hi : item.WellFormed rules)
    (hs : separator.WellFormed rules) (hturn : Consuming rules item ∨ Consuming rules separator)
    (hitem : ∀ d, b.Reaches d → Parses rules item d)
    (hseparator : ∀ d, b.Reaches d → Parses rules separator d) (hc : b.Reaches c) :
    Attains (Outcome.Beyond False c) (answer rules (.items item separator c)) := by
  have hstop : Attains (Outcome.Beyond False c) (Run.done (Outcome.success (.list []) c)) :=
    .done (.success _ (.refl c) False.elim)
  rw [answer_eq_step]
  refine (hseparator c hc).here.cases (fun v after ha => ?_) fun _ _ => hstop
  refine (hitem after (hc.trans ha.reaches)).here.cases (fun w r hr => ?_) fun _ _ => hstop
  have hpair : (Outcome.success w r).Beyond (Consuming rules separator ∨ Consuming rules item) c :=
    ha.follow hr id
  have hnext := (settles_after hlater hc hpair hturn.symm).items hi hs hturn
  exact hnext.mapped fun o ho => (hpair.follow ho False.elim).map

theorem applies_sequence {gs : List Grammar} (hgs : ∀ g ∈ gs, g.WellFormed rules)
    (hfront : ∀ g, Front rules g (.sequence gs) → ∀ d, b.Reaches d → Parses rules g d) :
    ∀ d, b.Reaches d → Applies rules (.sequence gs) d := by
  induction gs with
  | nil =>
    intro d _
    rw [Applies, answer_apply]
    exact .done (.success _ (.refl d) fun h => by cases h with | sequence hm _ => cases hm)
  | cons g gs ih =>
    obtain ⟨hg, hgs⟩ := List.forall_mem_cons.1 hgs
    intro d hd
    rw [Applies, answer_apply]
    refine (hfront g (.member [] g gs nofun) d hd).here.onSuccess (fun v r h => ?_)
      fun e _ => .failure e
    have hrest : Applies rules (.sequence gs) r := by
      by_cases hc : Consuming rules g
      · have hwf : (Grammar.sequence gs).WellFormed rules :=
          .intro trivial fun | _, .member hm => hgs _ hm
        exact (settles_after hlater hd h hc).applies hwf
      · refine ih hgs (fun g' hg' => hfront g' ?_) r (hd.trans h.reaches)
        cases hg' with
        | member before _ after hbefore =>
          exact .member (g :: before) g' after (List.forall_mem_cons.2 ⟨hc, hbefore⟩)
    refine hrest.mapped fun o ho => (h.follow ho fun hs => ?_).map
    cases hs with
    | sequence hm hc =>
      rcases List.mem_cons.1 hm with rfl | hm
      · exact .inl hc
      · exact .inr (.sequence hm hc)

/-- A well-formed grammar comes to an outcome wherever the rules do that it calls. -/
theorem applies_of_calls (hg : g.WellFormed rules)
    (hcalls : ∀ name, Calls rules g name → ∀ d, b.Reaches d → Parses rules (rules name) d) :
    ∀ d, b.Reaches d → Applies rules g d := by
  induction hg with
  | @intro g hhead hparts ih =>
    have happlies : ∀ {h}, h.Part g → Front rules h g → ∀ d, b.Reaches d → Applies rules h d :=
      fun hp hf => ih _ hp fun name hn => hcalls name (.inside hf hn)
    have hfront : ∀ {h}, h.Part g → Front rules h g → ∀ d, b.Reaches d → Parses rules h d :=
      fun hp hf d hd => (happlies hp hf d.skipped (hd.trans (.skipped d))).parses
    have hnext : ∀ {a h}, h.Part g → (¬Consuming rules a → Front rules h g) → ∀ {d v r},
        b.Reaches d → (Outcome.success v r).Beyond (Consuming rules a) d → Parses rules h r :=
      fun hp hf _ _ _ hd hr =>
        parses_next hlater (hparts _ hp) (fun ha => hfront hp (hf ha)) hd hr
    have hwf : g.WellFormed rules := .intro hhead hparts
    clear ih
    intro d hd
    cases g with
    | literal | matching | decimal | integer | atEnd | success | failure => exact applies_leaf rfl d
    | both x y =>
      rw [Applies, answer_apply]
      refine (hfront (.bothLeft x y) (.bothLeft x y) d hd).here.onSuccess (fun v r h => ?_)
        fun e _ => .failure e
      refine (hnext (.bothRight x y) (.bothRight y) hd h).here.mapped fun o ho => ?_
      exact (h.follow ho fun | .bothLeft _ hx => .inl hx | .bothRight _ hy => .inr hy).map
    | either x y =>
      rw [Applies, answer_apply]
      refine (hfront (.eitherLeft x y) (.eitherLeft x y) d hd).here.cases (fun v r h => ?_)
        fun _ _ => ?_
      · exact .done (h.mono fun | .either hx _ => hx)
      · exact (hfront (.eitherRight x y) (.eitherRight x y) d hd).here.mono fun o ho =>
          ho.mono fun | .either _ hy => hy
    | many g =>
      rw [Applies, answer_apply]
      refine (hfront (.many g) (.many g) d hd).here.cases (fun v r h => ?_)
        fun _ _ => .done (.success _ (.refl d) nofun)
      exact ((settles_after hlater hd h hhead).applies hwf).mapped fun o ho =>
        (h.follow ho nofun).map
    | many1 g =>
      rw [Applies, answer_apply]
      refine (hfront (.many1 g) (.many1 g) d hd).here.onSuccess (fun v r h => ?_)
        fun e _ => .failure e
      have hmany : (Grammar.many g).WellFormed rules :=
        .intro hhead fun | _, .many _ => hparts _ (.many1 g)
      exact ((settles_after hlater hd h hhead).applies hmany).mapped fun o ho =>
        (h.follow ho fun | .many1 hg => .inl hg).map
    | many1Sep x y =>
      rw [Applies, answer_apply]
      have hx := hfront (.item x y) (.item x y)
      refine (hx d hd).here.onSuccess (fun v r h => ?_) fun e _ => .failure e
      have hitems : Attains (Outcome.Beyond False r) (answer rules (.items x y r)) := by
        have hwx := hparts x (.item x y)
        have hwy := hparts y (.separator x y)
        by_cases hc : Consuming rules x
        · exact (settles_after hlater hd h hc).items hwx hwy hhead
        · have hy := hfront (.separator x y) (.separator y hc)
          exact items_attains hlater hwx hwy hhead hx hy (hd.trans h.reaches)
      exact hitems.mapped fun o ho => (h.follow ho fun | .many1Sep _ hx => .inl hx).map
    | optional g =>
      rw [Applies, answer_apply]
      exact (hfront (.optional g) (.optional g) d hd).here.cases
        (fun _ _ h => .done (.success _ h.reaches nofun))
        fun _ _ => .done (.success _ (.refl d) nofun)
    | absent g =>
      rw [Applies, answer_apply]
      exact (hfront (.absent g) (.absent g) d hd).here.cases (fun _ _ _ => .done (.failure _))
        fun _ _ => .done (.success _ (.refl d) nofun)
    | present g =>
      rw [Applies, answer_apply]
      exact (hfront (.present g) (.present g) d hd).here.cases
        (fun _ _ _ => .done (.success _ (.refl d) nofun)) fun _ _ => .done (.failure _)
    | keepLeft x y =>
      rw [Applies, answer_apply]
      refine (hfront (.kept x y) (.kept x y) d hd).here.onSuccess (fun v r h => ?_)
        fun e _ => .failure e
      refine (hnext (.dropped x y) (.dropped y) hd h).here.mapped fun o ho => ?_
      exact (h.follow ho fun | .kept _ hx => .inl hx | .dropped _ hy => .inr hy).map
    | keepRight x y =>
      rw [Applies, answer_apply]
      refine (hfront (.droppedFirst x y) (.droppedFirst x y) d hd).here.onSuccess (fun v r h => ?_)
        fun e _ => .failure e
      refine (hnext (.keptLast x y) (.keptLast y) hd h).here.mono fun o ho => ?_
      exact h.follow ho fun | .droppedFirst _ hx => .inl hx | .keptLast _ hy => .inr hy
    | sequence gs =>
      refine applies_sequence hlater (fun g hg => hparts g (.member hg)) (fun h hf => ?_) d hd
      cases hf with
      | member before h after hbefore =>
        exact hfront (.member (by simp)) (.member before h after hbefore)
    | spanned g =>
      rw [Applies, answer_apply, apply_spanned]
      refine Attains.onSuccess (hfront (.spanned g) (.spanned g) d hd) (fun v r h => ?_)
        fun e _ => .failure e
      have hdr := h.of_skipped
      have hw : Span.within d.source d.skipped.offset r.offset =
          .ok ⟨d.source, d.skipped.offset, r.offset⟩ :=
        if_pos ⟨h.reaches.le, hdr.reaches.source ▸ r.offset_le_size⟩
      rw [hw]
      exact .done (.success _ hdr.reaches fun | .spanned hg => hdr.lt hg)
    | named name g =>
      rw [Applies, answer_apply]
      exact (happlies (.named name g) (.named name g) d hd).mono fun o ho =>
        ho.mono fun | .named _ hg => hg
    | shared g =>
      rw [Applies, answer_apply]
      exact (happlies (.shared g) (.shared g) d hd).mono fun o ho => ho.mono fun | .shared hg => hg
    | map f g =>
      rw [Applies, answer_apply]
      refine (hfront (.map f g) (.map f g) d hd).here.mapped fun o ho => ?_
      exact (ho.mono fun | .map _ hg => hg).map
    | check f g =>
      rw [Applies, answer_apply]
      refine (hfront (.check f g) (.check f g) d hd).here.onSuccess (fun v r h => ?_)
        fun e _ => .failure e
      cases f v with
      | error message => exact .done (.failure _)
      | ok w => exact .done (.success w h.reaches fun | .check _ hg => h.lt hg)
    | andThen => exact hhead.elim
    | rule name =>
      rw [Applies, answer_apply]
      refine (Attains.log _).bind fun _ _ => ?_
      exact (hcalls name (.here name) d hd).here.mono fun o ho => ho.mono fun | .rule _ h => h
    | script => exact hhead.elim

end From

/-- The bytes left come first, then the calls at one place. -/
theorem settles (hrules : rules.WellFormed) (c : Cursor) : Settles rules c := by
  induction hsize : Text.size c.ahead using Nat.strong_induction_on generalizing c with
  | _ n ih =>
    subst hsize
    have hlater : ∀ d, c.Reaches d → c.offset < d.offset → Settles rules d :=
      fun d hd hlt => ih _ (hd.size_ahead_lt hlt) d rfl
    have hrule : ∀ name d, c.Reaches d → Parses rules (rules name) d := by
      intro name
      induction name using hrules.wellFounded.induction with
      | _ name ih =>
        intro d hd
        have happlies := applies_of_calls hlater (hrules.body name) ih
        exact (happlies d.skipped (hd.trans (.skipped d))).parses
    have hall : ∀ {g : Grammar}, g.WellFormed rules → ∀ d, c.Reaches d → Applies rules g d :=
      fun hg => applies_of_calls hlater hg fun name _ => hrule name
    have hparses : ∀ {g : Grammar}, g.WellFormed rules → ∀ d, c.Reaches d → Parses rules g d :=
      fun hg d hd => (hall hg d.skipped (hd.trans (.skipped d))).parses
    exact ⟨fun hg => hall hg c (.refl c), fun hi hs hturn =>
      items_attains hlater hi hs hturn (hparses hi) (hparses hs) (.refl c)⟩

end Evaluation

namespace Grammar

/-- Well-formed grammars return in both modes, whatever is skipped and wherever they are entered. -/
theorem returns_of_wellFormed (hrules : rules.WellFormed) {g : Grammar} (hg : g.WellFormed rules)
    (mode : Mode) (c : Cursor) : ∃ o, g.Returns rules mode c o := by
  cases mode with
  | parse =>
    obtain ⟨log, o, ho, -⟩ := ((Evaluation.settles hrules c.skipped).applies hg).parses
    exact ⟨o, returns_iff_answer.2 ⟨log, ho⟩⟩
  | apply =>
    obtain ⟨log, o, ho, -⟩ := (Evaluation.settles hrules c).applies hg
    exact ⟨o, returns_iff_answer.2 ⟨log, ho⟩⟩

/-- Lists of integers and of lists again: a list calls its items where it is entered, and they call
a list behind a bracket only. -/
theorem returns_of_wellFormed_nested :
    let rules : Rules := fun name =>
      if name = "list" then many1Sep (rule "item") (literal [','])
      else either integer (between (literal ['[']) (rule "list") (literal [']']))
    rules.WellFormed ∧ (many (rule "item")).WellFormed rules ∧
      ∃ o, (many (rule "item")).Returns rules .parse (.start "[1, [2,3]] [4".toList) o := by
  intro rules
  have hitem : Consuming rules (rules "item") :=
    .either .integer (.kept _ (.droppedFirst _ (.literal (by decide))))
  have hleaf : ∀ {g name}, g.leaf?.isSome → ¬Calls rules g name := by
    intro g name hg hcalls
    cases hcalls with
    | here => cases hg
    | inside hf _ => cases hf <;> cases hg
  have hcalls : ∀ p q, Calls rules (rules p) q → p = "list" ∧ q = "item" := by
    intro p q h
    by_cases hp : p = "list"
    · subst hp
      cases h with
      | inside hf hq =>
        cases hf with
        | item =>
          cases hq with
          | here => exact ⟨rfl, rfl⟩
          | inside hf _ => cases hf
        | separator => exact absurd hq (hleaf rfl)
    · simp only [rules, if_neg hp] at h
      have hopening : Consuming rules (literal ['[']) := .literal (by decide)
      cases h with
      | inside hf hq =>
        cases hf with
        | eitherLeft => exact absurd hq (hleaf rfl)
        | eitherRight =>
          cases hq with
          | inside hf hq =>
            cases hf with
            | dropped => exact absurd hq (hleaf rfl)
            | kept =>
              cases hq with
              | inside hf hq =>
                cases hf with
                | droppedFirst => exact absurd hq (hleaf rfl)
                | keptLast _ hc => exact absurd hopening hc
  have hrules : rules.WellFormed := {
    body := fun name => by
      by_cases hname : name = "list"
      · simp only [rules, if_pos hname]
        exact .intro (.inl (.rule "item" hitem)) fun
          | _, .item _ _ => .intro trivial nofun
          | _, .separator _ _ => .intro trivial nofun
      · simp only [rules, if_neg hname]
        exact .intro trivial fun
          | _, .eitherLeft _ _ => .intro trivial nofun
          | _, .eitherRight _ _ => .intro trivial fun
            | _, .dropped _ _ => .intro trivial nofun
            | _, .kept _ _ => .intro trivial fun
              | _, .droppedFirst _ _ => .intro trivial nofun
              | _, .keptLast _ _ => .intro trivial nofun
    finite := (Set.finite_singleton "list").subset fun name ⟨_, h⟩ => (hcalls name _ h).1
    acyclic := Rules.acyclic_of_rank (fun name => if name = "list" then 1 else 0)
      fun p q h => by
        obtain ⟨rfl, rfl⟩ := hcalls p q h
        decide }
  have hg : (many (rule "item")).WellFormed rules :=
    .intro (.rule "item" hitem) fun | _, .many _ => .intro trivial nofun
  exact ⟨hrules, hg, returns_of_wellFormed hrules hg .parse _⟩

end Grammar
end Descent
