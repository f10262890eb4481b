import Descent.Proofs.Evaluation.Ensures
import Descent.Proofs.Text.Positions

/-! # Cursors stay within the source

A run of a grammar comes to no fault: it goes forward only, keeps the source and the skip pattern,
and gives spans that lie between the cursor it was entered with and the one it leaves. What is asked
for is that the functions in a grammar make up no spans, and that scripts keep to the same. -/
namespace Descent

/-! ## Spans in values -/

namespace Value

mutual

def spans : Value → List Span
  | list vs => spansAll vs
  | pair a b => a.spans ++ b.spans
  | some v => v.spans
  | tagged _ v => v.spans
  | spanned v s => s :: v.spans
  | _ => []

def spansAll : List Value → List Span
  | [] => []
  | v :: vs => v.spans ++ spansAll vs

end

theorem mem_spans_cons {v w : Value} {s : Span} (h : s ∈ (Evaluation.cons v w).spans) :
    s ∈ v.spans ∨ s ∈ w.spans := by
  cases w with
  | list vs => exact List.mem_append.1 h
  | _ => exact .inr h

end Value

/-- Answers of leaves hold no spans but those of a constant. -/
theorem Leaf.spans_of_accepts {g : Grammar} {answer : Text → Leaf.Answer}
    (h : g.leaf? = some answer) {t : Text} {v : Value} {n : Nat}
    (ha : answer t = .accepts v n) : v.spans = [] ∨ g = .success v := by
  cases g <;> cases h
  case literal expected =>
    unfold answerLiteral at ha
    split at ha
    · cases ha
      exact .inl rfl
    · split at ha <;> cases ha
  case matching m =>
    unfold answerMatch at ha
    split at ha <;> cases ha
    exact .inl rfl
  case decimal =>
    unfold answerDecimal at ha
    split at ha
    · cases ha
    · split at ha <;> cases ha
      exact .inl rfl
  case integer =>
    unfold answerInteger at ha
    split at ha
    · cases ha
    · split at ha <;> cases ha
      exact .inl rfl
  case atEnd =>
    unfold answerEnd at ha
    split at ha <;> cases ha
    exact .inl rfl
  case success w =>
    cases ha
    exact .inr rfl
  case failure => cases ha

/-! ## Sound outcomes -/

/-- Places of one source, the second not before the first, with the same to skip. -/
structure Cursor.Reaches (c r : Cursor) : Prop where
  source : r.source = c.source
  skip : r.skip = c.skip
  le : c.offset ≤ r.offset

namespace Cursor.Reaches

variable {b c d : Cursor}

theorem refl (c : Cursor) : c.Reaches c := ⟨rfl, rfl, Nat.le_refl _⟩

theorem trans (h : b.Reaches c) (h' : c.Reaches d) : b.Reaches d :=
  ⟨h'.source.trans h.source, h'.skip.trans h.skip, Nat.le_trans h.le h'.le⟩

theorem past (c : Cursor) (n : Nat) : c.Reaches (c.past n) :=
  ⟨c.past_source n, rfl, c.offset_le_past n⟩

theorem skipped (c : Cursor) : c.Reaches c.skipped := past c _

end Cursor.Reaches

/-- A piece of the source that lies between two cursors and cuts no character. -/
structure Span.Between (c r : Cursor) (s : Span) : Prop where
  source : s.source = c.source
  le_start : c.offset ≤ s.start
  start_le_stop : s.start ≤ s.stop
  stop_le : s.stop ≤ r.offset
  cut_start : (Text.cut s.start c.source).isSome
  cut_stop : (Text.cut s.stop c.source).isSome

theorem Span.Between.widen {b c d e : Cursor} {s : Span} (h : s.Between c d) (hb : b.Reaches c)
    (he : d.Reaches e) : s.Between b e where
  source := h.source.trans hb.source
  le_start := Nat.le_trans hb.le h.le_start
  start_le_stop := h.start_le_stop
  stop_le := Nat.le_trans h.stop_le he.le
  cut_start := hb.source ▸ h.cut_start
  cut_stop := hb.source ▸ h.cut_stop

/-- An outcome that was come to from `c`. Its spans are known before or lie on the way. -/
def Outcome.Sound (known : Span → Prop) (c : Cursor) : Outcome → Prop
  | .success v r => c.Reaches r ∧ ∀ s ∈ v.spans, known s ∨ s.Between c r
  | .failure f => c.Reaches f.rest

namespace Outcome.Sound

variable {known : Span → Prop} {b c r : Cursor} {v : Value} {o : Outcome}

theorem rest (h : o.Sound known c) : c.Reaches o.rest := by
  cases o with
  | success v r => exact h.1
  | failure f => exact h

theorem failure (h : c.Reaches r) (reason : Reason) (parser : String) :
    (Outcome.fail r reason parser).Sound known c := h

theorem of_reaches (hb : b.Reaches c) (h : o.Sound known c) : o.Sound known b := by
  cases o with
  | success v r =>
    exact ⟨hb.trans h.1, fun s hs => (h.2 s hs).imp_right (·.widen hb (.refl r))⟩
  | failure f => exact hb.trans h

/-- A value made of what was read first and what was read behind it. -/
theorem combine {f : Value → Value} (h : (Outcome.success v r).Sound known c)
    (ho : o.Sound known r) (hf : ∀ w, ∀ s ∈ (f w).spans, s ∈ v.spans ∨ s ∈ w.spans) :
    (o.map f).Sound known c := by
  cases o with
  | success w e =>
    refine ⟨h.1.trans ho.1, fun s hs => ?_⟩
    rcases hf w s hs with hs | hs
    · exact (h.2 s hs).imp_right (·.widen (.refl c) ho.1)
    · exact (ho.2 s hs).imp_right (·.widen h.1 (.refl e))
  | failure e => exact h.1.trans ho

theorem mono {known' : Span → Prop} (h : o.Sound known c) (hk : ∀ s, known s → known' s) :
    o.Sound known' c := by
  cases o with
  | success v r => exact ⟨h.1, fun s hs => (h.2 s hs).imp_left (hk s)⟩
  | failure f => exact h

theorem map {f : Value → Value} (h : o.Sound known c)
    (hf : ∀ w, ∀ s ∈ (f w).spans, s ∈ w.spans ∨ known s) : (o.map f).Sound known c := by
  cases o with
  | success w r => exact ⟨h.1, fun s hs => (hf w s hs).elim (h.2 s) .inl⟩
  | failure e => exact h

/-- What was read behind a value may hold its spans. -/
theorem follow (h : (Outcome.success v r).Sound known c)
    (ho : o.Sound (fun s => known s ∨ s ∈ v.spans) r) : o.Sound known c := by
  cases o with
  | success w e =>
    refine ⟨h.1.trans ho.1, fun s hs => ?_⟩
    rcases ho.2 s hs with (hk | hv) | hb
    · exact .inl hk
    · exact (h.2 s hv).imp_right (·.widen (.refl c) ho.1)
    · exact .inr (hb.widen h.1 (.refl e))
  | failure e => exact h.1.trans ho

end Outcome.Sound

/-! ## Grammars that make up no spans -/

/-- Constants and functions hold no spans but known ones and those handed to them. A script must
itself come to nothing but sound outcomes. -/
inductive Grammar.Genuine (rules : Rules) : (Span → Prop) → Grammar → Prop where
  | leaf {known : Span → Prop} {g : Grammar} :
    g.leaf?.isSome → (∀ v, g = .success v → ∀ s ∈ v.spans, known s) → Genuine rules known g
  | both {known : Span → Prop} {a b : Grammar} :
    Genuine rules known a → Genuine rules known b → Genuine rules known (.both a b)
  | either {known : Span → Prop} {a b : Grammar} :
    Genuine rules known a → Genuine rules known b → Genuine rules known (.either a b)
  | many {known : Span → Prop} {g : Grammar} :
    Genuine rules known g → Genuine rules known (.many g)
  | many1 {known : Span → Prop} {g : Grammar} :
    Genuine rules known g → Genuine rules known (.many1 g)
  | many1Sep {known : Span → Prop} {item separator : Grammar} :
    Genuine rules known item → Genuine rules known separator →
      Genuine rules known (.many1Sep item separator)
  | optional {known : Span → Prop} {g : Grammar} :
    Genuine rules known g → Genuine rules known (.optional g)
  | absent {known : Span → Prop} {g : Grammar} :
    Genuine rules known g → Genuine rules known (.absent g)
  | present {known : Span → Prop} {g : Grammar} :
    Genuine rules known g → Genuine rules known (.present g)
  | keepLeft {known : Span → Prop} {a b : Grammar} :
    Genuine rules known a → Genuine rules known b → Genuine rules known (.keepLeft a b)
  | keepRight {known : Span → Prop} {a b : Grammar} :
    Genuine rules known a → Genuine rules known b → Genuine rules known (.keepRight a b)
  | sequence {known : Span → Prop} {gs : List Grammar} :
    (∀ g ∈ gs, Genuine rules known g) → Genuine rules known (.sequence gs)
  | spanned {known : Span → Prop} {g : Grammar} :
    Genuine rules known g → Genuine rules known (.spanned g)
  | named {known : Span → Prop} {g : Grammar} (name : String) :
    Genuine rules known g → Genuine rules known (.named name g)
  | shared {known : Span → Prop} {g : Grammar} :
    Genuine rules known g → Genuine rules known (.shared g)
  | map {known : Span → Prop} {f : Value → Value} {g : Grammar} :
    (∀ v, ∀ s ∈ (f v).spans, s ∈ v.spans ∨ known s) →
      Genuine rules known g → Genuine rules known (.map f g)
  | check {known : Span → Prop} {f : Value → Except String Value} {g : Grammar} :
    (∀ v w, f v = .ok w → ∀ s ∈ w.spans, s ∈ v.spans ∨ known s) →
      Genuine rules known g → Genuine rules known (.check f g)
  | andThen {known : Span → Prop} {g : Grammar} {next : Value → Grammar} :
    Genuine rules known g →
      (∀ v, Genuine rules (fun s => known s ∨ s ∈ v.spans) (next v)) →
      Genuine rules known (.andThen g next)
  | rule {known : Span → Prop} (name : String) : Genuine rules known (.rule name)
  | script {known : Span → Prop} {body : Cursor → Script} (name : String) :
    (∀ c stages, Run.Ensures (Outcome.Sound known c)
      (Evaluation.stage rules stages (.script (body c)))) →
      Genuine rules known (.script name body)

namespace Evaluation

open Run

variable {rules : Rules}

/-- What is asked for of the outcome of a job. To parse is to come to something from where the
skipping ends. -/
inductive Expects (rules : Rules) : Job → (Outcome → Prop) → Prop where
  | parse {known : Span → Prop} {g : Grammar} (c : Cursor) :
    g.Genuine rules known → Expects rules (.run .parse g c) (Outcome.Sound known c.skipped)
  | apply {known : Span → Prop} {g : Grammar} (c : Cursor) :
    g.Genuine rules known → Expects rules (.run .apply g c) (Outcome.Sound known c)
  | items {known : Span → Prop} {item separator : Grammar} (c : Cursor) :
    item.Genuine rules known → separator.Genuine rules known →
      Expects rules (.items item separator c) (Outcome.Sound known c)
  | script {s : Script} {P : Outcome → Prop} :
    (∀ stages, Ensures P (stage rules stages (.script s))) → Expects rules (.script s) P

section Step

variable {ask : Job → Run Outcome}
variable (hask : ∀ {job P}, Expects rules job P → Ensures P (ask job))
include hask

theorem ask_parse_sound {known : Span → Prop} {g : Grammar} (hg : g.Genuine rules known)
    (c : Cursor) : Ensures (Outcome.Sound known c) (ask (.run .parse g c)) :=
  (hask (.parse c hg)).mono fun _ => .of_reaches (.skipped c)

theorem parse_sound {known : Span → Prop} {g : Grammar} (hg : g.Genuine rules known) (c : Cursor) :
    Ensures (Outcome.Sound known c.skipped) (parse ask g c) := by
  rw [parse_eq]
  refine (hask (.apply c.skipped hg)).cases (fun v r ho => .done ho) fun e he => ?_
  exact (Ensures.log _).bind fun _ _ => .done he

theorem items_sound {known : Span → Prop} {item separator : Grammar}
    (hi : item.Genuine rules known) (hs : separator.Genuine rules known) (c : Cursor) :
    Ensures (Outcome.Sound known c) (items ask item separator c) := by
  have hstop : Ensures (Outcome.Sound known c) (Run.done (Outcome.success (.list []) c)) :=
    .done ⟨.refl c, fun _ h => nomatch h⟩
  refine (ask_parse_sound hask hs c).cases (fun _ after ha => ?_) fun _ _ => hstop
  refine (ask_parse_sound hask hi after).cases (fun v r hv => ?_) fun _ _ => hstop
  have h := Outcome.Sound.of_reaches ha.1 hv
  exact (hask (.items r hi hs)).mapped fun o ho => h.combine ho fun _ _ => Value.mem_spans_cons

/-- A span starts where the skipping ends, and the operand has skipped as much. -/
theorem spanned_sound {known : Span → Prop} {g : Grammar} (hg : g.Genuine rules known)
    (c : Cursor) : Ensures (Outcome.Sound known c) (apply rules ask (.spanned g) c) := by
  rw [apply_spanned]
  refine (hask (.parse c hg)).onSuccess (fun v r h => ?_) fun _ he =>
    (Cursor.Reaches.skipped c).trans he
  have hr : c.Reaches r := (Cursor.Reaches.skipped c).trans h.1
  have hw : Span.within c.source c.skipped.offset r.offset =
      .ok ⟨c.source, c.skipped.offset, r.offset⟩ :=
    if_pos ⟨h.1.le, hr.source ▸ r.offset_le_size⟩
  rw [hw]
  refine .done ⟨hr, fun s hs => ?_⟩
  rcases List.mem_cons.1 hs with rfl | hs
  · right
    have hskip := c.skipped.cut_offset
    have hrest := r.cut_offset
    rw [(Cursor.Reaches.skipped c).source] at hskip
    rw [hr.source] at hrest
    exact ⟨rfl, (Cursor.Reaches.skipped c).le, h.1.le, Nat.le_refl _, by rw [hskip]; rfl,
      by rw [hrest]; rfl⟩
  · exact (h.2 s hs).imp_right (·.widen (.skipped c) (.refl r))

variable (hrules : ∀ name, (rules name).Genuine rules fun _ => False)
include hrules

/-- Every step of a genuine grammar is sound if the jobs it raises are. -/
theorem apply_sound {known : Span → Prop} {g : Grammar} (hg : g.Genuine rules known) (c : Cursor) :
    Ensures (Outcome.Sound known c) (apply rules ask g c) := by
  have hnone : ∀ {v : Value}, v.spans = [] → (Outcome.success v c).Sound known c :=
    fun h => ⟨.refl c, fun s hs => by rw [h] at hs; cases hs⟩
  have hstay : ∀ reason parser,
      Ensures (Outcome.Sound known c) (Run.done (Outcome.fail c reason parser)) :=
    fun _ _ => .done (.failure (.refl c) _ _)
  have hparse : ∀ {g : Grammar}, g.Genuine rules known → ∀ d,
      Ensures (Outcome.Sound known d) (ask (.run .parse g d)) := ask_parse_sound hask
  cases hg with
  | leaf hl hv =>
    obtain ⟨answer, ha⟩ := Option.isSome_iff_exists.1 hl
    rw [apply_leaf ha]
    refine .done ?_
    cases h : answer c.ahead with
    | accepts v n =>
      refine ⟨.past c n, fun s hs => ?_⟩
      rcases Leaf.spans_of_accepts ha h with hn | hg
      · rw [hn] at hs
        cases hs
      · exact .inl (hv v hg s hs)
    | refuses reason parser => exact .failure (.refl c) _ _
  | both ha hb =>
    refine (hparse ha c).onSuccess (fun v r h => ?_) fun _ he => he
    exact (hparse hb r).mapped fun o ho => h.combine ho fun _ _ => List.mem_append.1
  | either ha hb =>
    exact (hparse ha c).cases (fun v r h => .done h) fun _ _ => hparse hb c
  | many hg =>
    refine (hparse hg c).cases (fun v r h => ?_) fun _ _ => .done (hnone rfl)
    exact (hask (.apply r (.many hg))).mapped fun o ho =>
      h.combine ho fun _ _ => Value.mem_spans_cons
  | many1 hg =>
    refine (hparse hg c).onSuccess (fun v r h => ?_) fun _ he => he
    exact (hask (.apply r (.many hg))).mapped fun o ho =>
      h.combine ho fun _ _ => Value.mem_spans_cons
  | many1Sep hi hs =>
    refine (hparse hi c).onSuccess (fun v r h => ?_) fun _ he => he
    exact (hask (.items r hi hs)).mapped fun o ho => h.combine ho fun _ _ => Value.mem_spans_cons
  | optional hg =>
    exact (hparse hg c).cases (fun v r h => .done h) fun _ _ => .done (hnone rfl)
  | absent hg =>
    exact (hparse hg c).cases (fun _ _ _ => hstay _ _) fun _ _ => .done (hnone rfl)
  | present hg =>
    exact (hparse hg c).cases (fun _ _ _ => .done (hnone rfl)) fun _ _ => hstay _ _
  | keepLeft ha hb =>
    refine (hparse ha c).onSuccess (fun v r h => ?_) fun _ he => he
    exact (hparse hb r).mapped fun o ho => h.combine ho fun _ _ => .inl
  | keepRight ha hb =>
    refine (hparse ha c).onSuccess (fun v r h => ?_) fun _ he => he
    exact (hparse hb r).mono fun o ho => ho.of_reaches h.1
  | @sequence _ gs hgs =>
    cases gs with
    | nil => exact .done (hnone rfl)
    | cons g gs =>
      obtain ⟨hg, hgs⟩ := List.forall_mem_cons.1 hgs
      refine (hparse hg c).onSuccess (fun v r h => ?_) fun _ he => he
      exact (hask (.apply r (.sequence hgs))).mapped fun o ho =>
        h.combine ho fun _ _ => Value.mem_spans_cons
  | spanned hg => exact spanned_sound hask hg c
  | named _ hg => exact hask (.apply c hg)
  | shared hg => exact hask (.apply c hg)
  | map hf hg => exact (hparse hg c).mapped fun o ho => ho.map hf
  | @check _ f _ hf hg =>
    refine (hparse hg c).onSuccess (fun v r h => ?_) fun _ he => he
    cases hw : f v with
    | ok w => exact .done ⟨h.1, fun s hs => (hf v w hw s hs).elim (h.2 s) .inl⟩
    | error message => exact hstay _ _
  | andThen hg hnext =>
    refine (hparse hg c).onSuccess (fun v r h => ?_) fun _ he => he
    exact (ask_parse_sound hask (hnext v) r).mono fun o ho => h.follow ho
  | rule name =>
    refine (Ensures.log _).bind fun _ _ => (ask_parse_sound hask (hrules name) c).mono fun o ho => ?_
    exact ho.mono fun _ h => h.elim
  | script _ hs => exact hask (.script (hs c))

end Step

variable (hrules : ∀ name, (rules name).Genuine rules fun _ => False)
include hrules

theorem stage_sound (n : Nat) : ∀ {job P}, Expects rules job P → Ensures P (stage rules n job) := by
  induction n with
  | zero => intro _ _ _ t ht; cases ht
  | succ n ih =>
    intro job P h
    cases h with
    | parse c hg => exact parse_sound ih hg c
    | apply c hg => exact apply_sound ih hrules hg c
    | items c hi hs => exact items_sound ih hi hs c
    | script hs => exact hs (n + 1)

end Evaluation

/-! ## Safe outcomes -/

namespace Failure

variable (f : Failure)

theorem position_eq : f.location.position = .ok (.after f.rest.behind) :=
  Location.position_of_cut f.rest.cut_offset

theorem contextLines_eq :
    f.location.contextLines = .ok (Location.contextAt f.rest.source (.after f.rest.behind)) := by
  rw [Location.contextLines, position_eq]
  rfl

theorem exists_display : ∃ text, f.display = .ok text := by
  rw [display, position_eq, contextLines_eq]
  exact ⟨_, rfl⟩

end Failure

/-- What every run comes to that is entered at `c`. -/
structure Outcome.Safe (c : Cursor) (o : Outcome) : Prop where
  source : o.rest.source = c.source
  skip : o.rest.skip = c.skip
  le_offset : c.offset ≤ o.rest.offset
  offset_le : o.rest.offset ≤ Text.size c.source
  boundary : Text.cut o.rest.offset c.source = some (o.rest.behind, o.rest.ahead)
  spans : ∀ v, o.value? = some v → ∀ s ∈ v.spans, s.Between c o.rest
  position : ∀ f, o.failure? = some f → ∃ p, f.location.position = .ok p
  contextLines : ∀ f, o.failure? = some f → ∃ lines, f.location.contextLines = .ok lines
  display : ∀ f, o.failure? = some f → ∃ text, f.display = .ok text

theorem Outcome.Sound.safe {c : Cursor} {o : Outcome} (h : o.Sound (fun _ => False) c) :
    o.Safe c where
  source := h.rest.source
  skip := h.rest.skip
  le_offset := h.rest.le
  offset_le := h.rest.source ▸ o.rest.offset_le_size
  boundary := h.rest.source ▸ o.rest.cut_offset
  spans := by
    cases o with
    | success v r =>
      rintro _ ⟨⟩ s hs
      exact (h.2 s hs).resolve_left id
    | failure f => exact nofun
  position f _ := ⟨_, f.position_eq⟩
  contextLines f _ := ⟨_, f.contextLines_eq⟩
  display f _ := f.exists_display

namespace Grammar

/-- A grammar that makes up no spans comes to no fault in either mode: all it ever answers are safe
outcomes. -/
theorem runWithin_safe {rules : Rules} (hrules : ∀ name, (rules name).Genuine rules fun _ => False)
    {g : Grammar} (hg : g.Genuine rules fun _ => False) (mode : Mode) (c : Cursor) {stages : Nat}
    {t : Traced Outcome} (h : g.runWithin rules stages mode c = some t) :
    ∃ o, t.result = .ok o ∧ o.Safe c := by
  have hsound : Run.Ensures (Outcome.Sound (fun _ => False) c) (g.runWithin rules stages mode c) := by
    cases mode with
    | parse =>
      refine (Evaluation.stage_sound hrules stages (.parse c hg)).mono fun o ho => ?_
      exact ho.of_reaches (.skipped c)
    | apply => exact Evaluation.stage_sound hrules stages (.apply c hg)
  obtain ⟨o, ho, hs⟩ := hsound t h
  exact ⟨o, ho, hs.safe⟩

/-- Spans of letters of two bytes, which a rule stands for, with white space before them. -/
theorem runWithin_safe_letters : ∃ t, (many (spanned (rule "letter"))).runWithin
    (fun _ => literal ['é']) 12 .parse (.start [' ', 'é', ' ', 'é', 'e']) = some t ∧
      ∃ o, t.result = .ok o ∧ o.Safe (.start [' ', 'é', ' ', 'é', 'e']) := by
  have hletter : ∀ name, ((fun _ => literal ['é'] : Rules) name).Genuine (fun _ => literal ['é'])
      fun _ => False := fun _ => .leaf rfl nofun
  obtain ⟨t, ht⟩ := Option.isSome_iff_exists.1 (show Option.isSome ((many (spanned
    (rule "letter"))).runWithin (fun _ => literal ['é']) 12 .parse
      (.start [' ', 'é', ' ', 'é', 'e'])) = true from rfl)
  exact ⟨t, ht, runWithin_safe hletter (.many (.spanned (.rule "letter"))) .parse _ ht⟩

end Grammar
end Descent
