import Descent.Proofs.Settling

/-! # Sequencing

Pairs, sequences and continuations put parsers one behind another. How they are nested decides how
often is skipped before each of them, and that shows nowhere if skipping settles: all nestings run
the same parsers in turn and hand on their values. -/
namespace Descent

/-- A pair that is nested to the left, nested to the right. -/
def Mapping.regroup : Value → Value
  | .pair (.pair u v) w => .pair u (.pair v w)
  | v => v

/-- A way to nest pairs over some parsers, at least one. -/
inductive Nesting where
  | single (g : Grammar)
  | pair (l r : Nesting)

namespace Nesting

/-- The parsers in the order in which they run. -/
def parsers : Nesting → List Grammar
  | single g => [g]
  | pair l r => l.parsers ++ r.parsers

def grammar : Nesting → Grammar
  | single g => g
  | pair l r => .both l.grammar r.grammar

/-- The values of the parsers, taken out of the nested pairs. -/
def flatten : Nesting → Value → List Value
  | pair l r, .pair v w => l.flatten v ++ r.flatten w
  | _, v => [v]

def leftward (g : Grammar) (gs : List Grammar) : Nesting :=
  gs.foldl (fun n h => pair n (single h)) (single g)

def rightward (g : Grammar) : List Grammar → Nesting
  | [] => single g
  | h :: gs => pair (single g) (rightward h gs)

@[simp] theorem parsers_leftward (g : Grammar) (gs : List Grammar) :
    (leftward g gs).parsers = g :: gs := by
  have h : ∀ n : Nesting,
      (gs.foldl (fun n h => pair n (single h)) n).parsers = n.parsers ++ gs := by
    induction gs with
    | nil => simp
    | cons h gs ih => simp [ih, parsers]
  exact h (single g)

@[simp] theorem parsers_rightward (g : Grammar) (gs : List Grammar) :
    (rightward g gs).parsers = g :: gs := by
  induction gs generalizing g with
  | nil => rfl
  | cons h gs ih => simp [rightward, parsers, ih]

theorem exists_parsers_eq_cons (n : Nesting) : ∃ g gs, n.parsers = g :: gs := by
  induction n with
  | single g => exact ⟨g, [], rfl⟩
  | pair l r ihl =>
    obtain ⟨g, gs, hl⟩ := ihl
    exact ⟨g, gs ++ r.parsers, by rw [parsers, hl, List.cons_append]⟩

end Nesting

namespace Grammar

open Result

variable {rules : Rules} {P : Grammar → Prop} {c d : Cursor} {gs hs : List Grammar}
variable {k : List Value → Cursor → Result}

/-! ## Parsers in turn -/

/-- The parsers are parsed in turn, and what follows them goes on with their values. -/
noncomputable def inTurn (rules : Rules) :
    List Grammar → Cursor → (List Value → Cursor → Result) → Result
  | [], c, k => k [] c
  | g :: gs, c, k =>
    (g.result rules .parse c).onSuccess fun v r => inTurn rules gs r fun vs => k (v :: vs)

theorem inTurn_append : inTurn rules (gs ++ hs) c k =
    inTurn rules gs c fun vs d => inTurn rules hs d fun ws => k (vs ++ ws) := by
  induction gs generalizing c k with
  | nil => rfl
  | cons g gs ih => exact onSuccess_congr fun v r _ => ih

theorem inTurn_onSuccess {f : Value → Cursor → Result} :
    (inTurn rules gs c k).onSuccess f = inTurn rules gs c fun vs d => (k vs d).onSuccess f := by
  induction gs generalizing c k with
  | nil => rfl
  | cons g gs ih => exact onSuccess_onSuccess.trans (onSuccess_congr fun v r _ => ih)

/-- A sequence runs its parsers in turn and collects their values. -/
theorem result_sequence : (sequence gs).result rules .apply c =
    inTurn rules gs c fun vs d => .success (.list vs) d := by
  induction gs generalizing c with
  | nil => exact result_sequence_nil
  | cons g gs ih =>
    rw [result_sequence_cons]
    refine onSuccess_congr fun v r _ => ?_
    rw [ih]
    exact inTurn_onSuccess

theorem result_sequence_settled {g : Grammar} (hc : c.skipped.skipped = c.skipped) :
    (sequence (g :: gs)).result rules .parse c =
      inTurn rules (g :: gs) c fun vs d => .success (.list vs) d := by
  rw [result_parse, result_sequence, inTurn, result_parse_congr hc]
  rfl

/-- Nested pairs lead no further than their parsers. -/
theorem SettledAmong.of_nested {n : Nesting} (hn : ∀ g ∈ n.parsers, P g)
    (hc : SettledAmong rules P c) (hd : n.grammar.Leads rules .parse c d) :
    SettledAmong rules P d := by
  induction n generalizing c d with
  | single g => exact hc.of_leads (hn g (List.mem_singleton.2 rfl)) hd
  | pair l r ihl ihr =>
    obtain ⟨hl, hr⟩ := List.forall_mem_append.1 hn
    obtain ⟨u, hu⟩ := hd
    rcases returns_both_iff.1 (returns_parse.1 hu) with ⟨v, m, hv, o, ho, heq⟩ | ⟨e, -, he⟩
    · have hm : SettledAmong rules P m :=
        ihl hl hc ⟨v, (returns_parse_congr hc.skipped_skipped).1 hv⟩
      cases o with
      | success w r =>
        cases heq
        exact ihr hr hm ⟨w, ho⟩
      | failure e => cases heq
    · cases he

/-- Nested pairs run their parsers in turn, however they are nested. -/
theorem result_nested {n : Nesting} (hn : ∀ g ∈ n.parsers, P g) (hc : SettledAmong rules P c)
    (k : List Value → Cursor → Result) :
    (n.grammar.result rules .parse c).onSuccess (fun v d => k (n.flatten v) d) =
      inTurn rules n.parsers c k := by
  induction n generalizing c k with
  | single g => rfl
  | pair l r ihl ihr =>
    obtain ⟨hl, hr⟩ := List.forall_mem_append.1 hn
    calc ((both l.grammar r.grammar).result rules .parse c).onSuccess
          (fun u e => k ((Nesting.pair l r).flatten u) e)
        = (l.grammar.result rules .parse c).onSuccess fun v d =>
            (r.grammar.result rules .parse d).onSuccess fun w e =>
              k (l.flatten v ++ r.flatten w) e := by
          rw [result_both_settled hc.skipped_skipped, onSuccess_onSuccess]
          exact onSuccess_congr fun v d _ => onSuccess_map
      _ = (l.grammar.result rules .parse c).onSuccess fun v d =>
            inTurn rules r.parsers d fun ws => k (l.flatten v ++ ws) := by
          refine onSuccess_congr fun v d hv => ?_
          have hd := hc.of_nested hl ⟨v, result_eq_ok_iff.1 hv⟩
          exact ihr hr hd fun ws => k (l.flatten v ++ ws)
      _ = inTurn rules l.parsers c fun vs d => inTurn rules r.parsers d fun ws => k (vs ++ ws) :=
          ihl hl hc fun vs d => inTurn rules r.parsers d fun ws => k (vs ++ ws)
      _ = inTurn rules (l.parsers ++ r.parsers) c k := inTurn_append.symm

/-- A sequence is any nesting of pairs over its parsers, with the values taken out of it. -/
theorem result_sequence_nested (hc : SettledAmong rules P c) (n : Nesting)
    (hn : ∀ g ∈ n.parsers, P g) : (sequence n.parsers).result rules .parse c =
      (n.grammar.result rules .parse c).map fun v => .list (n.flatten v) := by
  obtain ⟨g, gs, hgs⟩ := n.exists_parsers_eq_cons
  rw [hgs, result_sequence_settled hc.skipped_skipped, ← hgs]
  exact (result_nested hn hc _).symm

/-- Over each list that is not empty there are the chains to both sides. -/
theorem result_sequence_chained (hc : SettledAmong rules P c) (g : Grammar) (gs : List Grammar)
    (hP : ∀ h ∈ g :: gs, P h) (n : Nesting) (hn : n = .leftward g gs ∨ n = .rightward g gs) :
    (sequence (g :: gs)).result rules .parse c =
      (n.grammar.result rules .parse c).map fun v => .list (n.flatten v) := by
  have hparsers : n.parsers = g :: gs := by
    rcases hn with rfl | rfl
    · exact Nesting.parsers_leftward g gs
    · exact Nesting.parsers_rightward g gs
  rw [← hparsers] at hP ⊢
  exact result_sequence_nested hc n hP

/-! ## The laws -/

variable {a b e : Grammar}

theorem result_both_assoc (hc : SettledAmong rules P c) (ha : P a) :
    (both a (both b e)).result rules .parse c =
      ((both (both a b) e).result rules .parse c).map Mapping.regroup := by
  have hskip := hc.skipped_skipped
  rw [result_both_settled hskip, result_both_settled hskip, result_both_settled hskip,
    onSuccess_onSuccess, map_onSuccess]
  refine onSuccess_congr fun u r hu => ?_
  have hr := hc.of_result ha hu
  rw [result_both_settled hr.skipped_skipped, map_onSuccess, onSuccess_map, map_onSuccess]
  refine onSuccess_congr fun v s _ => ?_
  rw [map_map, map_map]
  rfl

theorem result_andThen_assoc {next next' : Value → Grammar} (hc : SettledAmong rules P c)
    (ha : P a) : (andThen (andThen a next) next').result rules .parse c =
      (andThen a fun v => andThen (next v) next').result rules .parse c := by
  have hskip := hc.skipped_skipped
  rw [result_andThen_settled hskip, result_andThen_settled hskip, result_andThen_settled hskip,
    onSuccess_onSuccess]
  refine onSuccess_congr fun v r hv => ?_
  have hr := hc.of_result ha hv
  rw [result_andThen_settled hr.skipped_skipped]

theorem result_success_andThen {v : Value} {next : Value → Grammar}
    (hc : c.skipped.skipped = c.skipped) :
    (andThen (success v) next).result rules .parse c = (next v).result rules .parse c := by
  rw [result_andThen_settled hc, result_parse, result_success, onSuccess_success,
    result_parse_congr hc]

theorem result_andThen_success (hc : c.skipped.skipped = c.skipped) :
    (andThen a success).result rules .parse c =
      (a.result rules .parse c).onSuccess fun v r => .success v r.skipped := by
  rw [result_andThen_settled hc]
  refine onSuccess_congr fun v r _ => ?_
  rw [result_parse, result_success]

/-- What each way to put parsers one behind another has in common with the others. -/
structure Sequencing (rules : Rules) (P : Grammar → Prop) (c : Cursor) : Prop where
  both_assoc : ∀ {a b d : Grammar}, P a → (both a (both b d)).result rules .parse c =
    ((both (both a b) d).result rules .parse c).map Mapping.regroup
  sequence_nested : ∀ n : Nesting, (∀ g ∈ n.parsers, P g) →
    (sequence n.parsers).result rules .parse c =
      (n.grammar.result rules .parse c).map fun v => .list (n.flatten v)
  sequence_chained : ∀ (g : Grammar) (gs : List Grammar), (∀ h ∈ g :: gs, P h) →
    ∀ n : Nesting, n = .leftward g gs ∨ n = .rightward g gs →
      (sequence (g :: gs)).result rules .parse c =
        (n.grammar.result rules .parse c).map fun v => .list (n.flatten v)
  andThen_assoc : ∀ {p : Grammar} {next next' : Value → Grammar}, P p →
    (andThen (andThen p next) next').result rules .parse c =
      (andThen p fun v => andThen (next v) next').result rules .parse c
  success_andThen : ∀ (v : Value) (next : Value → Grammar),
    (andThen (success v) next).result rules .parse c = (next v).result rules .parse c
  andThen_success : ∀ p : Grammar, (andThen p success).result rules .parse c =
    (p.result rules .parse c).onSuccess fun v r => .success v r.skipped

theorem sequencing_of_settled (hc : SettledAmong rules P c) : Sequencing rules P c where
  both_assoc := result_both_assoc hc
  sequence_nested := result_sequence_nested hc
  sequence_chained := result_sequence_chained hc
  andThen_assoc := result_andThen_assoc hc
  success_andThen _ _ := result_success_andThen hc.skipped_skipped
  andThen_success _ := result_andThen_success hc.skipped_skipped

/-- All parsers that stay in a text with a number in parentheses, white space being skipped. -/
theorem sequencing_of_settled_parentheses :
    let rules : Rules := fun _ => atEnd
    let c : Cursor := .start " ( 7 ) x".toList
    (∀ g ∈ [literal ['('], integer, literal [')']], g.Stays rules) ∧
      SettledAmong rules (Stays rules) c ∧ Sequencing rules (Stays rules) c := by
  intro rules c
  have hrules : ∀ name, (rules name).Genuine rules fun _ => False := fun _ => .leaf rfl nofun
  have hc : SettledAmong rules (Stays rules) c :=
    settledAmong_of_steady (Cursor.steady_whiteSpace rfl) fun _ hg => hg
  refine ⟨fun g hg => stays_of_genuine hrules ?_, hc, sequencing_of_settled hc⟩
  simp only [List.mem_cons, List.not_mem_nil, or_false] at hg
  rcases hg with rfl | rfl | rfl <;> exact .leaf rfl nofun

end Grammar
end Descent
