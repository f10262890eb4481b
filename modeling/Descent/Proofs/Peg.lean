import Descent.Proofs.Evaluation.Answer
import Descent.Proofs.Evaluation.Ensures

/-! # Grammars as parsing expressions

The meaning of parsing expressions is an inductive relation of an expression, a text and a verdict:
choice is ordered, repetition is greedy and gives nothing back, lookahead reads nothing, and rules
are called by name. Without a skip pattern a grammar comes to what the relation derives, and to
nothing where it derives nothing. -/
namespace Descent

namespace Peg

/-! ## Parsing expressions -/

inductive Verdict where
  | reads (bytes : Nat)
  | fails

/-- The verdict on a text that starts `m` bytes earlier. -/
def Verdict.after (m : Nat) : Verdict → Verdict
  | reads n => reads (m + n)
  | fails => fails

inductive Expr where
  | empty
  /-- The number of bytes that are read at the start of a text, if it starts with the token. -/
  | token (size : Text → Option Nat)
  | call (name : String)
  | seq (a b : Expr)
  | choice (a b : Expr)
  | star (e : Expr)
  | not (e : Expr)
  | ahead (e : Expr)

namespace Expr

def literal (p : Text) : Expr :=
  token fun t => if p.isPrefixOf t then some (Text.size p) else none

def regex (r : Regex) : Expr :=
  token fun t => (r.atStart t).map fun n => Text.size (t.take n)

def anyChar : Expr := token fun t => t.head?.map Char.utf8Size

end Expr

inductive Derives (exprs : String → Expr) : Expr → Text → Verdict → Prop where
  | empty (t : Text) : Derives exprs .empty t (.reads 0)
  | token {size : Text → Option Nat} {t : Text} {n : Nat} :
    size t = some n → Derives exprs (.token size) t (.reads n)
  | token_fails {size : Text → Option Nat} {t : Text} :
    size t = none → Derives exprs (.token size) t .fails
  | call {name : String} {t : Text} {v : Verdict} :
    Derives exprs (exprs name) t v → Derives exprs (.call name) t v
  | seq {a b : Expr} {t read rest : Text} {n : Nat} {v : Verdict} :
    Derives exprs a t (.reads n) → Text.cut n t = some (read, rest) → Derives exprs b rest v →
      Derives exprs (.seq a b) t (v.after n)
  | seq_fails {a b : Expr} {t : Text} :
    Derives exprs a t .fails → Derives exprs (.seq a b) t .fails
  | choice {a b : Expr} {t : Text} {n : Nat} :
    Derives exprs a t (.reads n) → Derives exprs (.choice a b) t (.reads n)
  | choice_else {a b : Expr} {t : Text} {v : Verdict} :
    Derives exprs a t .fails → Derives exprs b t v → Derives exprs (.choice a b) t v
  | star_more {e : Expr} {t read rest : Text} {n : Nat} {v : Verdict} :
    Derives exprs e t (.reads n) → Text.cut n t = some (read, rest) →
      Derives exprs (.star e) rest v → Derives exprs (.star e) t (v.after n)
  | star_stop {e : Expr} {t : Text} :
    Derives exprs e t .fails → Derives exprs (.star e) t (.reads 0)
  | not_fails {e : Expr} {t : Text} {n : Nat} :
    Derives exprs e t (.reads n) → Derives exprs (.not e) t .fails
  | not {e : Expr} {t : Text} : Derives exprs e t .fails → Derives exprs (.not e) t (.reads 0)
  | ahead {e : Expr} {t : Text} {n : Nat} :
    Derives exprs e t (.reads n) → Derives exprs (.ahead e) t (.reads 0)
  | ahead_fails {e : Expr} {t : Text} :
    Derives exprs e t .fails → Derives exprs (.ahead e) t .fails

/-- An expression has one verdict on a text at most. -/
theorem Derives.unique {exprs : String → Expr} {e : Expr} {t : Text} {v w : Verdict}
    (h : Derives exprs e t v) (hw : Derives exprs e t w) : v = w := by
  induction h generalizing w with
  | empty t => cases hw; rfl
  | token hn =>
    cases hw with
    | token hm => cases hn.symm.trans hm; rfl
    | token_fails hm => cases hn.symm.trans hm
  | token_fails hn =>
    cases hw with
    | token hm => cases hn.symm.trans hm
    | token_fails => rfl
  | call _ ih =>
    cases hw with
    | call hw => exact ih hw
  | seq _ hc _ iha ihb =>
    cases hw with
    | seq ha hc' hb =>
      cases iha ha
      cases hc.symm.trans hc'
      rw [ihb hb]
    | seq_fails ha => cases iha ha
  | seq_fails _ iha =>
    cases hw with
    | seq ha => cases iha ha
    | seq_fails => rfl
  | choice _ iha =>
    cases hw with
    | choice ha => exact iha ha
    | choice_else ha => cases iha ha
  | choice_else _ _ iha ihb =>
    cases hw with
    | choice ha => cases iha ha
    | choice_else _ hb => exact ihb hb
  | star_more _ hc _ ih ihs =>
    cases hw with
    | star_more he hc' hs =>
      cases ih he
      cases hc.symm.trans hc'
      rw [ihs hs]
    | star_stop he => cases ih he
  | star_stop _ ih =>
    cases hw with
    | star_more he => cases ih he
    | star_stop => rfl
  | not_fails _ ih =>
    cases hw with
    | not_fails => rfl
    | not he => cases ih he
  | not _ ih =>
    cases hw with
    | not_fails he => cases ih he
    | not => rfl
  | ahead _ ih =>
    cases hw with
    | ahead => rfl
    | ahead_fails he => cases ih he
  | ahead_fails _ ih =>
    cases hw with
    | ahead he => cases ih he
    | ahead_fails => rfl

/-! ## Verdicts on cursors -/

/-- Outcomes at a cursor that a verdict on the text ahead speaks of. -/
inductive Verdict.Describes (c : Cursor) : Verdict → Outcome → Prop where
  | reads {n : Nat} {v : Value} {r : Cursor} :
    c.forward n = .ok r → Describes c (.reads n) (.success v r)
  | fails (f : Failure) : Describes c .fails (.failure f)

namespace Verdict.Describes

variable {c d : Cursor} {v : Verdict} {o : Outcome}

theorem stay (c : Cursor) (w : Value) : (Verdict.reads 0).Describes c (.success w c) :=
  .reads c.forward_zero

theorem after {m : Nat} (h : c.forward m = .ok d) (hv : v.Describes d o) :
    (v.after m).Describes c o := by
  cases hv with
  | reads hr => exact .reads ((Cursor.forward_forward h).symm.trans hr)
  | fails f => exact .fails f

theorem map (f : Value → Value) (h : v.Describes c o) : v.Describes c (o.map f) := by
  cases h with
  | reads hr => exact .reads hr
  | fails e => exact .fails e

end Verdict.Describes

end Peg

/-- What the answer of a leaf says of the text that it is given for. -/
def Leaf.Answer.verdict (t : Text) : Leaf.Answer → Peg.Verdict
  | accepts _ n => .reads (Text.size (t.take n))
  | refuses _ _ => .fails

theorem Leaf.Answer.verdict_describes (c : Cursor) (a : Leaf.Answer) :
    (a.verdict c.ahead).Describes c (a.outcome c) := by
  cases a with
  | accepts v n => exact .reads Cursor.forward_size_take
  | refuses reason parser => exact .fails _

/-! ## Expressions of grammars -/

namespace Grammar

open Peg

/-- Leaves with the expressions that they stand for. -/
inductive LeafExpresses : Grammar → Expr → Prop where
  | literal (p : Text) : LeafExpresses (.literal p) (.literal p)
  | matching (m : Leaf.Matcher) : LeafExpresses (.matching m) (.regex m.regex)
  | atEnd : LeafExpresses .atEnd (.not .anyChar)
  | success (v : Value) : LeafExpresses (.success v) .empty
  | failure (message : String) : LeafExpresses (.failure message) (.not .empty)

/-- Heads of grammars with the expressions that they make of those of their operands. -/
inductive HeadExpresses (operand : Grammar → Expr → Prop) : Grammar → Expr → Prop where
  | both {a b : Grammar} {e e' : Expr} :
    operand a e → operand b e' → HeadExpresses operand (.both a b) (.seq e e')
  | either {a b : Grammar} {e e' : Expr} :
    operand a e → operand b e' → HeadExpresses operand (.either a b) (.choice e e')
  | many {g : Grammar} {e : Expr} : operand g e → HeadExpresses operand (.many g) (.star e)
  | many1 {g : Grammar} {e : Expr} :
    operand g e → HeadExpresses operand (.many1 g) (.seq e (.star e))
  | many1Sep {item separator : Grammar} {e e' : Expr} : operand item e → operand separator e' →
    HeadExpresses operand (.many1Sep item separator) (.seq e (.star (.seq e' e)))
  | optional {g : Grammar} {e : Expr} :
    operand g e → HeadExpresses operand (.optional g) (.choice e .empty)
  | absent {g : Grammar} {e : Expr} : operand g e → HeadExpresses operand (.absent g) (.not e)
  | present {g : Grammar} {e : Expr} : operand g e → HeadExpresses operand (.present g) (.ahead e)
  | keepLeft {a b : Grammar} {e e' : Expr} :
    operand a e → operand b e' → HeadExpresses operand (.keepLeft a b) (.seq e e')
  | keepRight {a b : Grammar} {e e' : Expr} :
    operand a e → operand b e' → HeadExpresses operand (.keepRight a b) (.seq e e')
  | sequence_nil : HeadExpresses operand (.sequence []) .empty
  | sequence_cons {g : Grammar} {gs : List Grammar} {e e' : Expr} : operand g e →
    operand (.sequence gs) e' → HeadExpresses operand (.sequence (g :: gs)) (.seq e e')
  | rule (name : String) : HeadExpresses operand (.rule name) (.call name)

/-- The grammar reads as the expression: names, handles and functions of values add nothing. -/
inductive Expresses : Grammar → Expr → Prop where
  | leaf {g : Grammar} {e : Expr} : LeafExpresses g e → Expresses g e
  | head {g : Grammar} {e : Expr} : HeadExpresses Expresses g e → Expresses g e
  | map (f : Value → Value) {g : Grammar} {e : Expr} : Expresses g e → Expresses (.map f g) e
  | named (name : String) {g : Grammar} {e : Expr} : Expresses g e → Expresses (.named name g) e
  | shared {g : Grammar} {e : Expr} : Expresses g e → Expresses (.shared g) e

theorem LeafExpresses.derives {g : Grammar} {e : Expr} (h : LeafExpresses g e)
    (exprs : String → Expr) : ∃ answer, g.leaf? = some answer ∧
      ∀ t, Derives exprs e t ((answer t).verdict t) := by
  cases h with
  | literal p =>
    refine ⟨_, rfl, fun t => ?_⟩
    by_cases hp : p.isPrefixOf t
    · have ht : p = t.take p.length := List.prefix_iff_eq_take.1 (List.isPrefixOf_iff_prefix.1 hp)
      rw [Leaf.answerLiteral, if_pos hp, Leaf.Answer.verdict, ← ht]
      exact .token (if_pos hp)
    · have hf : Derives exprs (.literal p) t .fails := .token_fails (if_neg hp)
      rw [Leaf.answerLiteral, if_neg hp]
      split <;> exact hf
  | matching m =>
    refine ⟨_, rfl, fun t => ?_⟩
    unfold Leaf.answerMatch
    cases hm : m.regex.atStart t with
    | some n => exact .token (by rw [hm]; rfl)
    | none => exact .token_fails (by rw [hm]; rfl)
  | atEnd =>
    refine ⟨_, rfl, fun t => ?_⟩
    cases t with
    | nil => exact .not (.token_fails rfl)
    | cons ch t => exact .not_fails (.token rfl)
  | success v => exact ⟨_, rfl, fun t => .empty t⟩
  | failure message => exact ⟨_, rfl, fun t => .not_fails (.empty t)⟩

end Grammar

namespace Run

/-- A loop: goes on after a success and stops where it stood at a failure. -/
def turn (first : Run Outcome) (next : Cursor → Run Outcome) (c : Cursor) : Run Outcome :=
  first >>= fun
    | .success v r => next r >>= fun o => pure (o.map (Evaluation.cons v))
    | .failure _ => pure (.success (.list []) c)

end Run

namespace Evaluation

open Run Peg Grammar

/-- Jobs with the expressions whose verdicts they come to. -/
inductive Denotes : Job → Expr → Cursor → Prop where
  | run (mode : Mode) {g : Grammar} {e : Expr} (c : Cursor) :
    g.Expresses e → Denotes (.run mode g c) e c
  | items {item separator : Grammar} {e e' : Expr} (c : Cursor) : item.Expresses e →
    separator.Expresses e' → Denotes (.items item separator c) (.star (.seq e' e)) c

/-- A sequence runs its first part, and behind that its second. -/
theorem apply_seq (rules : Rules) {g : Grammar} {e e' : Expr}
    (h : HeadExpresses Expresses g (.seq e e')) :
    ∃ (first : Grammar) (next : Cursor → Job) (f : Value → Value → Value),
      first.Expresses e ∧ (∀ r, Denotes (next r) e' r) ∧ ∀ ask c, apply rules ask g c =
        onSuccess (ask (.run .parse first c)) fun v r =>
          ask (next r) >>= fun o => pure (o.map (f v)) := by
  cases h with
  | both ha hb =>
    exact ⟨_, fun r => .run .parse _ r, .pair, ha, fun r => .run .parse r hb, fun _ _ => rfl⟩
  | many1 hg =>
    exact ⟨_, fun r => .run .apply (.many _) r, cons, hg, fun r => .run .apply r (.head (.many hg)),
      fun _ _ => rfl⟩
  | many1Sep hi hs =>
    exact ⟨_, fun r => .items _ _ r, cons, hi, fun r => .items r hi hs, fun _ _ => rfl⟩
  | keepLeft ha hb =>
    exact ⟨_, fun r => .run .parse _ r, fun v _ => v, ha, fun r => .run .parse r hb, fun _ _ => rfl⟩
  | @keepRight a b _ _ ha hb =>
    refine ⟨_, fun r => .run .parse _ r, fun _ w => w, ha, fun r => .run .parse r hb,
      fun ask c => ?_⟩
    have hid : ∀ r, ask (.run .parse b r) = ask (.run .parse b r) >>= fun o => pure (o.map id) := by
      intro r
      have hmap : (fun o : Outcome => (pure (o.map id) : Run Outcome)) = Run.done := by
        funext o
        cases o <;> rfl
      rw [hmap, bind_done]
    exact congrArg (onSuccess (ask (.run .parse a c))) (funext fun _ => funext hid)
  | sequence_cons hg hgs =>
    exact ⟨_, fun r => .run .apply _ r, cons, hg, fun r => .run .apply r hgs, fun _ _ => rfl⟩

/-- To read on after an item is a loop over separators with items behind them. -/
theorem items_eq (rules : Rules) (ask : Job → Run Outcome) (item separator : Grammar) (c : Cursor) :
    items ask item separator c = turn (apply rules ask (.keepRight separator item) c)
      (fun r => ask (.items item separator r)) c := by
  refine ((Run.bind_assoc _ _ _).trans (congrArg _ (funext fun o => ?_))).symm
  cases o with
  | success v after => exact congrArg _ (funext fun o => by cases o <;> rfl)
  | failure f => exact done_bind _ _

/-! ### Whatever is answered is derived -/

/-- The outcomes that derived verdicts speak of. -/
def Shows (exprs : String → Expr) (e : Expr) (c : Cursor) (o : Outcome) : Prop :=
  ∃ v, Derives exprs e c.ahead v ∧ v.Describes c o

variable {rules : Rules} {exprs : String → Expr}

section Sound

variable {ask : Job → Run Outcome}
variable (hask : ∀ {job e c}, Denotes job e c → c.skip = none → Ensures (Shows exprs e c) (ask job))

section

include hask

theorem parse_shows {g : Grammar} {e : Expr} {c : Cursor} (hg : g.Expresses e)
    (hc : c.skip = none) : Ensures (Shows exprs e c) (parse ask g c) := by
  rw [parse_eq, Cursor.skipped_of_skip_none hc]
  refine (hask (.run .apply c hg) hc).cases (fun _ _ h => .done h) fun _ h => ?_
  exact (Ensures.log _).bind fun _ _ => .done h

theorem seq_shows {first : Grammar} {next : Cursor → Job} {f : Value → Value → Value} {e e' : Expr}
    {c : Cursor} (hfirst : first.Expresses e) (hnext : ∀ r, Denotes (next r) e' r)
    (hc : c.skip = none) : Ensures (Shows exprs (.seq e e') c)
      (onSuccess (ask (.run .parse first c)) fun v r =>
        ask (next r) >>= fun o => pure (o.map (f v))) := by
  refine (hask (.run .parse c hfirst) hc).onSuccess (fun v r h => ?_) fun err h => ?_
  · obtain ⟨_, hd, ⟨hr⟩⟩ := h
    obtain ⟨read, hcut⟩ := Cursor.cut_of_forward hr
    refine (hask (hnext r) ((Cursor.skip_of_forward hr).trans hc)).mapped fun o ho => ?_
    obtain ⟨w, hw, ho⟩ := ho
    exact ⟨_, .seq hd hcut hw, (ho.after hr).map _⟩
  · obtain ⟨_, hd, ⟨⟩⟩ := h
    exact ⟨_, .seq_fails hd, .fails err⟩

end

theorem turn_shows {first : Run Outcome} {next : Cursor → Run Outcome} {e : Expr} {c : Cursor}
    (hc : c.skip = none) (hfirst : Ensures (Shows exprs e c) first)
    (hnext : ∀ r, r.skip = none → Ensures (Shows exprs (.star e) r) (next r)) :
    Ensures (Shows exprs (.star e) c) (turn first next c) := by
  refine hfirst.cases (fun v r h => ?_) fun err h => ?_
  · obtain ⟨_, hd, ⟨hr⟩⟩ := h
    obtain ⟨read, hcut⟩ := Cursor.cut_of_forward hr
    refine (hnext r ((Cursor.skip_of_forward hr).trans hc)).mapped fun o ho => ?_
    obtain ⟨w, hw, ho⟩ := ho
    exact ⟨_, .star_more hd hcut hw, (ho.after hr).map _⟩
  · obtain ⟨_, hd, ⟨⟩⟩ := h
    exact .done ⟨_, .star_stop hd, .stay c _⟩

include hask

variable (hrules : ∀ name, (rules name).Expresses (exprs name))
include hrules

theorem head_shows {g : Grammar} {e : Expr} {c : Cursor} (hg : HeadExpresses Expresses g e)
    (hc : c.skip = none) : Ensures (Shows exprs e c) (apply rules ask g c) := by
  have hseq : ∀ {e e' : Expr}, HeadExpresses Expresses g (.seq e e') →
      Ensures (Shows exprs (.seq e e') c) (apply rules ask g c) := by
    intro e e' h
    obtain ⟨first, next, f, hfirst, hnext, happly⟩ := apply_seq rules h
    rw [happly]
    exact seq_shows hask hfirst hnext hc
  cases hg with
  | both ha hb => exact hseq (.both ha hb)
  | many1 hg => exact hseq (.many1 hg)
  | many1Sep hi hs => exact hseq (.many1Sep hi hs)
  | keepLeft ha hb => exact hseq (.keepLeft ha hb)
  | keepRight ha hb => exact hseq (.keepRight ha hb)
  | sequence_cons hg hgs => exact hseq (.sequence_cons hg hgs)
  | sequence_nil => exact .done ⟨_, .empty _, .stay c _⟩
  | many hg =>
    exact turn_shows hc (hask (.run .parse c hg) hc) fun r hr =>
      hask (.run .apply r (.head (.many hg))) hr
  | either ha hb =>
    refine (hask (.run .parse c ha) hc).cases (fun v r h => ?_) fun err h => ?_
    · obtain ⟨_, hd, ⟨hr⟩⟩ := h
      exact .done ⟨_, .choice hd, .reads hr⟩
    · obtain ⟨_, hd, ⟨⟩⟩ := h
      exact (hask (.run .parse c hb) hc).mono fun o ⟨w, hw, ho⟩ => ⟨w, .choice_else hd hw, ho⟩
  | optional hg =>
    refine (hask (.run .parse c hg) hc).cases (fun v r h => ?_) fun err h => ?_
    · obtain ⟨_, hd, ⟨hr⟩⟩ := h
      exact .done ⟨_, .choice hd, .reads hr⟩
    · obtain ⟨_, hd, ⟨⟩⟩ := h
      exact .done ⟨_, .choice_else hd (.empty _), .stay c _⟩
  | absent hg =>
    refine (hask (.run .parse c hg) hc).cases (fun v r h => ?_) fun err h => ?_
    · obtain ⟨_, hd, ⟨⟩⟩ := h
      exact .done ⟨_, .not_fails hd, .fails _⟩
    · obtain ⟨_, hd, ⟨⟩⟩ := h
      exact .done ⟨_, .not hd, .stay c _⟩
  | present hg =>
    refine (hask (.run .parse c hg) hc).cases (fun v r h => ?_) fun err h => ?_
    · obtain ⟨_, hd, ⟨⟩⟩ := h
      exact .done ⟨_, .ahead hd, .stay c _⟩
    · obtain ⟨_, hd, ⟨⟩⟩ := h
      exact .done ⟨_, .ahead_fails hd, .fails _⟩
  | rule name =>
    refine (Ensures.log _).bind fun _ _ => ?_
    exact (hask (.run .parse c (hrules name)) hc).mono fun o ⟨w, hw, ho⟩ => ⟨w, .call hw, ho⟩

theorem step_shows {job : Job} {e : Expr} {c : Cursor} (h : Denotes job e c) (hc : c.skip = none) :
    Ensures (Shows exprs e c) (step rules ask job) := by
  cases h with
  | run mode _ hg =>
    cases mode with
    | parse => exact parse_shows hask hg hc
    | apply =>
      cases hg with
      | leaf hl =>
        obtain ⟨answer, ha, hd⟩ := hl.derives exprs
        refine Eq.mpr (congrArg _ (apply_leaf ha c)) (.done ?_)
        exact ⟨_, hd c.ahead, (answer c.ahead).verdict_describes c⟩
      | head hg => exact head_shows hask hrules hg hc
      | map f hg =>
        exact (hask (.run .parse c hg) hc).mapped fun o ⟨w, hw, ho⟩ => ⟨w, hw, ho.map f⟩
      | named _ hg => exact hask (.run .apply c hg) hc
      | shared hg => exact hask (.run .apply c hg) hc
  | items _ hi hs =>
    refine Eq.mpr (congrArg _ (items_eq rules ask _ _ c)) ?_
    exact turn_shows hc (head_shows hask hrules (.keepRight hs hi) hc) fun r hr =>
      hask (.items r hi hs) hr

end Sound

theorem stage_shows (hrules : ∀ name, (rules name).Expresses (exprs name)) (n : Nat) :
    ∀ {job e c}, Denotes job e c → c.skip = none → Ensures (Shows exprs e c) (stage rules n job) := by
  induction n with
  | zero => intro _ _ _ _ _ t ht; cases ht
  | succ n ih => exact fun h hc => step_shows ih hrules h hc

/-! ### Whatever is derived is answered -/

section Complete

/-- Goes on behind what was read. -/
theorem attains_reads {x : Run Outcome} {f : Outcome → Run Outcome} {P : Outcome → Prop}
    {c : Cursor} {n : Nat} {read rest : Text} (hc : c.skip = none)
    (hcut : Text.cut n c.ahead = some (read, rest))
    (hx : Attains ((Verdict.reads n).Describes c) x)
    (hf : ∀ v r, c.forward n = .ok r → r.skip = none → r.ahead = rest →
      Attains P (f (.success v r))) : Attains P (x >>= f) := by
  refine hx.cases (fun v r h => ?_) fun _ h => nomatch h
  cases h with
  | reads hr =>
    obtain ⟨read', hcut'⟩ := Cursor.cut_of_forward hr
    cases hcut.symm.trans hcut'
    exact hf v r hr ((Cursor.skip_of_forward hr).trans hc) rfl

theorem attains_fails {x : Run Outcome} {f : Outcome → Run Outcome} {P : Outcome → Prop}
    {c : Cursor} (hx : Attains (Verdict.fails.Describes c) x)
    (hf : ∀ e, Attains P (f (.failure e))) : Attains P (x >>= f) :=
  hx.cases (fun _ _ h => nomatch h) fun e _ => hf e

theorem attains_mapped {x : Run Outcome} {v : Verdict} {c : Cursor} (f : Value → Value)
    (hx : Attains (v.Describes c) x) :
    Attains (v.Describes c) (x >>= fun o => pure (o.map f)) :=
  hx.bind fun _ ho => .done (ho.map f)

theorem attains_after {x : Run Outcome} {v : Verdict} {c r : Cursor} {n : Nat} (f : Value → Value)
    (hr : c.forward n = .ok r) (hx : Attains (v.Describes r) x) :
    Attains ((v.after n).Describes c) (x >>= fun o => pure (o.map f)) :=
  hx.bind fun _ ho => .done ((ho.after hr).map f)

theorem parse_attains {g : Grammar} {c : Cursor} {v : Verdict} (hc : c.skip = none)
    (h : Attains (v.Describes c) (answer rules (.run .apply g c))) :
    Attains (v.Describes c) (answer rules (.run .parse g c)) := by
  rw [answer_eq_step, step, parse_eq, Cursor.skipped_of_skip_none hc]
  exact h.cases (fun _ _ h => .done h) fun _ h => (Attains.log _).bind fun _ _ => .done h

variable {e : Expr} {t : Text} {v : Verdict}

/-- Leaves have the verdict that is derived, as there is only one; names, handles and functions of
values pass it on. What is left are the heads. -/
theorem attains_of_heads (h : Derives exprs e t v)
    (hheads : ∀ {g c}, HeadExpresses Expresses g e → c.skip = none → c.ahead = t →
      Attains (v.Describes c) (apply rules (answer rules) g c)) : ∀ {g}, g.Expresses e → ∀ mode c,
        c.skip = none → c.ahead = t → Attains (v.Describes c) (answer rules (.run mode g c))
  | _, hg, .parse, c, hc, ht => parse_attains hc (applied hg c hc ht)
  | _, hg, .apply, c, hc, ht => applied hg c hc ht
where
  applied : ∀ {g}, g.Expresses e → ∀ c, c.skip = none → c.ahead = t →
      Attains (v.Describes c) (answer rules (.run .apply g c))
    | _, .leaf hl, c, hc, ht => by
      obtain ⟨a, ha, hd⟩ := hl.derives exprs
      have hv : v = (a c.ahead).verdict c.ahead := h.unique (ht ▸ hd c.ahead)
      rw [answer_eq_step, step, apply_leaf ha, hv]
      exact .done ((a c.ahead).verdict_describes c)
    | _, .head hg, c, hc, ht => by
      rw [answer_eq_step]
      exact hheads hg hc ht
    | _, .map f hg, c, hc, ht => by
      rw [answer_eq_step]
      exact attains_mapped f (parse_attains hc (applied hg c hc ht))
    | _, .named _ hg, c, hc, ht => by
      rw [answer_eq_step]
      exact applied hg c hc ht
    | _, .shared hg, c, hc, ht => by
      rw [answer_eq_step]
      exact applied hg c hc ht

theorem turn_attains_more {first : Run Outcome} {next : Cursor → Run Outcome} {c : Cursor} {n : Nat}
    {read rest : Text} (hc : c.skip = none) (hcut : Text.cut n c.ahead = some (read, rest))
    (hfirst : Attains ((Verdict.reads n).Describes c) first)
    (hnext : ∀ r, r.skip = none → r.ahead = rest → Attains (v.Describes r) (next r)) :
    Attains ((v.after n).Describes c) (turn first next c) :=
  attains_reads hc hcut hfirst fun _ r hr hrs hra => attains_after _ hr (hnext r hrs hra)

theorem turn_attains_stop {first : Run Outcome} {next : Cursor → Run Outcome} {c : Cursor}
    (hfirst : Attains (Verdict.fails.Describes c) first) :
    Attains ((Verdict.reads 0).Describes c) (turn first next c) :=
  attains_fails hfirst fun _ => .done (.stay c _)

theorem answer_items_eq (rules : Rules) (item separator : Grammar) (c : Cursor) :
    answer rules (.items item separator c) =
      turn (answer rules (.run .apply (.keepRight separator item) c))
        (fun r => answer rules (.items item separator r)) c := by
  conv => lhs; rw [answer_eq_step, step, items_eq rules]
  rw [answer_eq_step rules (.run .apply _ c)]
  rfl

variable (hrules : ∀ name, (rules name).Expresses (exprs name))
include hrules

theorem derives_attains (h : Derives exprs e t v) : ∀ {job c}, Denotes job e c → c.skip = none →
    c.ahead = t → Attains (v.Describes c) (answer rules job) := by
  induction h with
  | empty t =>
    intro job c hj hc ht
    cases hj with | run mode _ hx =>
    refine attains_of_heads (@Derives.empty exprs t) (fun {_ c} hg _ _ => ?_) hx mode c hc ht
    cases hg with
    | sequence_nil => exact .done (.stay c _)
  | token hn =>
    intro job c hj hc ht
    cases hj with | run mode _ hx =>
    exact attains_of_heads (@Derives.token exprs _ _ _ hn) (fun hg => nomatch hg) hx mode c hc ht
  | token_fails hn =>
    intro job c hj hc ht
    cases hj with | run mode _ hx =>
    exact attains_of_heads (@Derives.token_fails exprs _ _ hn) (fun hg => nomatch hg) hx mode c hc ht
  | call hd ih =>
    intro job c hj hc ht
    cases hj with | run mode _ hx =>
    refine attains_of_heads (.call hd) (fun {_ c} hg hc ht => ?_) hx mode c hc ht
    cases hg with
    | rule => exact (Attains.log _).bind fun _ _ => ih (.run .parse c (hrules _)) hc ht
  | seq ha hcut hb iha ihb =>
    intro job c hj hc ht
    cases hj with | run mode _ hx =>
    refine attains_of_heads (.seq ha hcut hb) (fun {_ c} hg hc ht => ?_) hx mode c hc ht
    obtain ⟨first, next, f, hfirst, hnext, happly⟩ := apply_seq rules hg
    rw [happly]
    refine attains_reads hc (ht ▸ hcut) (iha (.run .parse c hfirst) hc ht) fun v r hr hrs hra => ?_
    exact attains_after (f v) hr (ihb (hnext r) hrs hra)
  | seq_fails ha iha =>
    intro job c hj hc ht
    cases hj with | run mode _ hx =>
    refine attains_of_heads (.seq_fails ha) (fun {_ c} hg hc ht => ?_) hx mode c hc ht
    obtain ⟨first, next, f, hfirst, hnext, happly⟩ := apply_seq rules hg
    rw [happly]
    exact attains_fails (iha (.run .parse c hfirst) hc ht) fun err => .done (.fails err)
  | choice ha iha =>
    intro job c hj hc ht
    cases hj with | run mode _ hx =>
    refine attains_of_heads (.choice ha) (fun {_ c} hg hc ht => ?_) hx mode c hc ht
    cases hg with
    | either hg =>
      exact (iha (.run .parse c hg) hc ht).cases (fun _ _ h => .done h) fun _ h => nomatch h
    | optional hg =>
      exact (iha (.run .parse c hg) hc ht).cases (fun _ _ h => .done (h.map .some))
        fun _ h => nomatch h
  | choice_else ha hb iha ihb =>
    intro job c hj hc ht
    cases hj with | run mode _ hx =>
    refine attains_of_heads (.choice_else ha hb) (fun {_ c} hg hc ht => ?_) hx mode c hc ht
    cases hg with
    | either hg hg' =>
      exact attains_fails (iha (.run .parse c hg) hc ht) fun _ => ihb (.run .parse c hg') hc ht
    | optional hg =>
      cases hb with
      | empty => exact attains_fails (iha (.run .parse c hg) hc ht) fun _ => .done (.stay c _)
  | star_more he hcut hs ihe ihs =>
    intro job c hj hc ht
    cases hj with
    | run mode _ hx =>
      refine attains_of_heads (.star_more he hcut hs) (fun {_ c} hg hc ht => ?_) hx mode c hc ht
      cases hg with
      | many hg =>
        exact turn_attains_more hc (ht ▸ hcut) (ihe (.run .parse c hg) hc ht) fun r hr hra =>
          ihs (.run .apply r (.head (.many hg))) hr hra
    | items _ hi hsep =>
      rw [answer_items_eq]
      exact turn_attains_more hc (ht ▸ hcut)
        (ihe (.run .apply c (.head (.keepRight hsep hi))) hc ht) fun r hr hra =>
          ihs (.items r hi hsep) hr hra
  | star_stop he ihe =>
    intro job c hj hc ht
    cases hj with
    | run mode _ hx =>
      refine attains_of_heads (.star_stop he) (fun {_ c} hg hc ht => ?_) hx mode c hc ht
      cases hg with
      | many hg => exact turn_attains_stop (ihe (.run .parse c hg) hc ht)
    | items _ hi hsep =>
      rw [answer_items_eq]
      exact turn_attains_stop (ihe (.run .apply c (.head (.keepRight hsep hi))) hc ht)
  | not_fails he ihe =>
    intro job c hj hc ht
    cases hj with | run mode _ hx =>
    refine attains_of_heads (.not_fails he) (fun {_ c} hg hc ht => ?_) hx mode c hc ht
    cases hg with
    | absent hg =>
      exact (ihe (.run .parse c hg) hc ht).cases (fun _ _ _ => .done (.fails _)) fun _ h => nomatch h
  | not he ihe =>
    intro job c hj hc ht
    cases hj with | run mode _ hx =>
    refine attains_of_heads (.not he) (fun {_ c} hg hc ht => ?_) hx mode c hc ht
    cases hg with
    | absent hg =>
      exact attains_fails (ihe (.run .parse c hg) hc ht) fun _ => .done (.stay c _)
  | ahead he ihe =>
    intro job c hj hc ht
    cases hj with | run mode _ hx =>
    refine attains_of_heads (.ahead he) (fun {_ c} hg hc ht => ?_) hx mode c hc ht
    cases hg with
    | present hg =>
      exact (ihe (.run .parse c hg) hc ht).cases (fun _ _ _ => .done (.stay c _)) fun _ h => nomatch h
  | ahead_fails he ihe =>
    intro job c hj hc ht
    cases hj with | run mode _ hx =>
    refine attains_of_heads (.ahead_fails he) (fun {_ c} hg hc ht => ?_) hx mode c hc ht
    cases hg with
    | present hg =>
      exact attains_fails (ihe (.run .parse c hg) hc ht) fun _ => .done (.fails _)

end Complete

end Evaluation

namespace Grammar

open Peg Evaluation

variable {rules : Rules} {exprs : String → Expr} {g : Grammar} {e : Expr} {c : Cursor}

theorem Returns.shows (hrules : ∀ name, (rules name).Expresses (exprs name)) (hg : g.Expresses e)
    (hc : c.skip = none) {mode : Mode} {o : Outcome} (h : g.Returns rules mode c o) :
    Shows exprs e c o := by
  obtain ⟨stages, log, h⟩ := h
  obtain ⟨_, ⟨⟩, ho⟩ := stage_shows hrules stages (.run mode c hg) hc _ h
  exact ho

theorem exists_returns (hrules : ∀ name, (rules name).Expresses (exprs name)) (hg : g.Expresses e)
    (hc : c.skip = none) (mode : Mode) {v : Verdict} (h : Derives exprs e c.ahead v) :
    ∃ o, g.Returns rules mode c o ∧ v.Describes c o := by
  obtain ⟨log, o, ho, hv⟩ := derives_attains hrules h (.run mode c hg) hc rfl
  exact ⟨o, returns_iff_answer.2 ⟨log, ho⟩, hv⟩

/-- Without a skip pattern a grammar reads what its expression does, fails where it fails and comes
to no end where it has no verdict. -/
theorem returns_iff_derives (hrules : ∀ name, (rules name).Expresses (exprs name))
    (hg : g.Expresses e) (hc : c.skip = none) (mode : Mode) :
    (∀ n, (∃ v r, g.Returns rules mode c (.success v r) ∧ r.offset = c.offset + n) ↔
      Derives exprs e c.ahead (.reads n)) ∧
    ((∃ f, g.Returns rules mode c (.failure f)) ↔ Derives exprs e c.ahead .fails) ∧
    (g.Diverges rules mode c ↔ ∀ v, ¬ Derives exprs e c.ahead v) := by
  refine ⟨fun n => ⟨?_, fun h => ?_⟩, ⟨?_, fun h => ?_⟩, fun h v hv => ?_, fun h stages => ?_⟩
  · rintro ⟨v, r, h, hr⟩
    obtain ⟨_, hd, @⟨m, _, _, hm⟩⟩ := h.shows hrules hg hc
    have hmn : m = n := by
      have := Cursor.offset_of_forward hm
      omega
    exact hmn ▸ hd
  · obtain ⟨o, ho, ⟨hr⟩⟩ := exists_returns hrules hg hc mode h
    exact ⟨_, _, ho, Cursor.offset_of_forward hr⟩
  · rintro ⟨f, h⟩
    obtain ⟨_, hd, ⟨⟩⟩ := h.shows hrules hg hc
    exact hd
  · obtain ⟨o, ho, ⟨⟩⟩ := exists_returns hrules hg hc mode h
    exact ⟨_, ho⟩
  · obtain ⟨o, ⟨stages, log, ho⟩, -⟩ := exists_returns hrules hg hc mode hv
    cases (h stages).symm.trans ho
  · cases hs : g.runWithin rules stages mode c with
    | none => rfl
    | some t =>
      obtain ⟨o, -, v, hv, -⟩ := stage_shows hrules stages (.run mode c hg) hc t hs
      exact absurd hv (h v)

/-- Nested brackets in front of another letter, read by a rule that calls itself. -/
theorem derives_nested : Derives
    (fun _ => .choice (.seq (.seq (.literal ['(']) (.call "nest")) (.literal [')'])) .empty)
    (.call "nest") ['(', '(', ')', ')', 'é'] (.reads 4) := by
  have hnest : ∀ name : String, ((fun _ => .optional (between (.literal ['(']) (.rule "nest")
      (.literal [')']))) name : Grammar).Expresses
        (.choice (.seq (.seq (.literal ['(']) (.call "nest")) (.literal [')'])) .empty) := by
    intro name
    have hopen : (Grammar.literal ['(']).Expresses (.literal ['(']) := .leaf (.literal _)
    have hclose : (Grammar.literal [')']).Expresses (.literal [')']) := .leaf (.literal _)
    exact .head (.optional (.head (.keepLeft (.head (.keepRight hopen (.head (.rule _)))) hclose)))
  refine ((returns_iff_derives hnest (.head (.rule "nest")) (c := .start _ none) rfl .parse).1 4).1 ?_
  exact ⟨_, ⟨['(', '(', ')', ')'], ['é'], none⟩, ⟨40, _, rfl⟩, rfl⟩

end Grammar
end Descent
