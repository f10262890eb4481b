import Descent.Proofs.Evaluation.Trace
import Descent.Vocabulary.Handwritten

/-! # Where failures come from

A failure is logged by every parser that passes it on. So the trace of a parse that fails ends with
a trail: lines at the offset of the failure, from the parser that gave it first to the one that was
parsed. A parse that succeeds logs nothing of its own. Names given to parsers would cut the trail,
since failures do not know of them. -/
namespace Descent

/-- The last lines of a trace are at the offset of the failure; the first of them names the parser
of the failure, the last one the parser `last`. -/
def Trail (f : Failure) (last : String) (trace : Trace) : Prop :=
  ∃ earlier trail, trace = earlier ++ trail ∧ (∀ line ∈ trail, line.2 = f.rest.offset) ∧
    trail.head?.map Prod.fst = some f.parser ∧ trail.getLast?.map Prod.fst = some last

namespace Trail

variable {f : Failure} {p q : String} {trace : Trace}

theorem behind (earlier : Trace) (h : Trail f p trace) : Trail f p (earlier ++ trace) := by
  obtain ⟨before, trail, rfl, hoffsets, hfirst, hlast⟩ := h
  exact ⟨earlier ++ before, trail, (List.append_assoc _ _ _).symm, hoffsets, hfirst, hlast⟩

/-- A parser starts a trail with a failure of its own. -/
theorem start (earlier : Trace) (hp : f.parser = p) : Trail f p (earlier ++ [(p, f.rest.offset)]) :=
  ⟨earlier, [(p, f.rest.offset)], rfl, by simp, by simp [hp], rfl⟩

/-- A parser that passes a failure on goes on with its trail. -/
theorem next (q : String) (h : Trail f p trace) : Trail f q (trace ++ [(q, f.rest.offset)]) := by
  obtain ⟨earlier, trail, rfl, hoffsets, hfirst, -⟩ := h
  refine ⟨earlier, trail ++ [(q, f.rest.offset)], List.append_assoc _ _ _, ?_, ?_, ?_⟩
  · intro line hline
    rcases List.mem_append.1 hline with hline | hline
    · exact hoffsets line hline
    · rw [List.mem_singleton.1 hline]
  · cases trail with
    | nil => cases hfirst
    | cons line trail => exact hfirst
  · rw [List.getLast?_concat]
    rfl

end Trail

/-- A failure is in the name of the parser `own`, or the trace ends with a trail of it. -/
def Outcome.Known (own : String) (trace : Trace) (o : Outcome) : Prop :=
  ∀ f, o = .failure f → f.parser = own ∨ ∃ last, Trail f last trace

namespace Outcome.Known

variable {own : String} {trace : Trace} {o : Outcome}

theorem success {v : Value} {r : Cursor} : Known own trace (.success v r) := nofun

theorem of_isSuccess (h : o.isSuccess) : Known own trace o := by
  cases o with
  | success => exact success
  | failure => cases h

theorem fresh {c : Cursor} {reason : Reason} : Known own trace (.fail c reason own) := by
  rintro f ⟨⟩
  exact .inl rfl

theorem behind (earlier : Trace) (h : Known own trace o) : Known own (earlier ++ trace) o :=
  fun f hf => (h f hf).imp_right fun ⟨last, htrail⟩ => ⟨last, htrail.behind earlier⟩

theorem map (f : Value → Value) (h : Known own trace o) : Known own trace (o.map f) := by
  cases o with
  | success => exact success
  | failure => exact h

end Outcome.Known

theorem Outcome.isSuccess_map (f : Value → Value) (o : Outcome) :
    (o.map f).isSuccess = o.isSuccess := by
  cases o <;> rfl

namespace Run

variable {α β : Type} {Q : Trace → α → Prop} {R : Trace → β → Prop}

/-- A property of the value of a run and of its trace. -/
def Tells (Q : Trace → α → Prop) (x : Run α) : Prop :=
  ∀ t a, x = some t → t.result = .ok a → Q t.trace a

namespace Tells

theorem nothing : Tells Q none := nofun

theorem done {a : α} (h : Q [] a) : Tells Q (Run.done a) := by
  rintro _ _ ⟨⟩ ⟨⟩
  exact h

theorem lift {r : Except Fault α} (h : ∀ a, r = .ok a → Q [] a) : Tells Q (Run.lift r) := by
  rintro _ a ⟨⟩ hr
  exact h a hr

theorem log {e : Event} {Q : Trace → Unit → Prop} (h : Q ([e].filterMap Event.line?) ()) :
    Tells Q (Run.log e) := by
  rintro _ _ ⟨⟩ ⟨⟩
  exact h

theorem bind {x : Run α} {f : α → Run β} (hx : Tells Q x)
    (hf : ∀ l a, Q l a → Tells (fun m b => R (l ++ m) b) (f a)) : Tells R (x >>= f) := by
  intro t b ht hb
  rcases bind_eq_some ht with ⟨e, -, he⟩ | ⟨l, a, u, ha, hu, rfl⟩
  · cases he.symm.trans hb
  · have hr := hf _ a (hx _ a ha rfl) u b hu hb
    rwa [Traced.trace, List.filterMap_append]

theorem mono {Q' : Trace → α → Prop} {x : Run α} (hx : Tells Q x) (h : ∀ l a, Q l a → Q' l a) :
    Tells Q' x :=
  fun t a ht ha => h _ _ (hx t a ht ha)

/-! ### Runs whose failures are known -/

variable {own : String} {x : Run Outcome}

theorem cases {f : Outcome → Run Outcome} (hx : Tells (Outcome.Known own) x)
    (hs : ∀ v r, Tells (Outcome.Known own) (f (.success v r)))
    (hf : ∀ l e, Outcome.Known own l (.failure e) →
      Tells (fun m o => Outcome.Known own (l ++ m) o) (f (.failure e))) :
    Tells (Outcome.Known own) (x >>= f) := by
  refine hx.bind fun l o ho => ?_
  cases o with
  | success v r => exact (hs v r).mono fun _ _ h => h.behind l
  | failure e => exact hf l e ho

theorem onSuccess {f : Value → Cursor → Run Outcome} (hx : Tells (Outcome.Known own) x)
    (hs : ∀ v r, Tells (Outcome.Known own) (f v r)) :
    Tells (Outcome.Known own) (x.onSuccess f) :=
  hx.cases hs fun l e he => .done (by rwa [List.append_nil])

theorem mapped (f : Value → Value) (hx : Tells (Outcome.Known own) x) :
    Tells (Outcome.Known own) (x >>= fun o => pure (o.map f)) :=
  hx.bind fun l o ho => .done (by rw [List.append_nil]; exact ho.map f)

theorem success {v : Value} {r : Cursor} : Tells (Outcome.Known own) (Run.done (.success v r)) :=
  .done .success

theorem fresh {c : Cursor} {reason : Reason} :
    Tells (Outcome.Known own) (Run.done (.fail c reason own)) :=
  .done .fresh

end Tells
end Run

/-! ## Parsers without names of their own -/

/-- A script that fails in the name of its parser, or passes on a failure of the parser that it has
parsed last: `last` is this failure. What a parser run in place fails with counts as well, unless
this parser is the first to say so. -/
inductive Script.Honest (Q : Grammar → Prop) : String → Option Failure → Script → Prop where
  | success (own : String) (last : Option Failure) (v : Value) (r : Cursor) :
    Honest Q own last (.give (.success v r))
  | fresh (last : Option Failure) (f : Failure) : Honest Q f.parser last (.give (.failure f))
  | passOn (own : String) (f : Failure) : Honest Q own (some f) (.give (.failure f))
  | halt (own : String) (last : Option Failure) (e : Fault) : Honest Q own last (.halt e)
  | note (key : String) {own : String} {last : Option Failure} {s : Script} :
    Honest Q own last s → Honest Q own last (.note key s)
  | parse {own : String} {last : Option Failure} {g : Grammar} {c : Cursor}
    {next : Outcome → Script} : Q g → (∀ o, Honest Q own o.failure? (next o)) →
      Honest Q own last (.run .parse g c next)
  | apply {own : String} {last : Option Failure} {g : Grammar} {c : Cursor}
    {next : Outcome → Script} : Q g →
      (∀ o, Honest Q own (o.failure?.filter (·.parser ≠ g.name)) (next o)) →
        Honest Q own last (.run .apply g c next)
  | leaf {own : String} {last : Option Failure} {g : Grammar} {c : Cursor}
    {next : Outcome → Script} : g.leaf?.isSome → (∀ o, Honest Q own last (next o)) →
      Honest Q own last (.run .apply g c next)

/-- No parser is given a name, and scripts are honest. -/
inductive Grammar.Nameless : Grammar → Prop where
  | form {g : Grammar} : (∀ name h, g ≠ .named name h) → (∀ name s, g ≠ .script name s) →
    (∀ h, h.Part g → Nameless h) → Nameless g
  | script {name : String} {s : Cursor → Script} : (∀ c, (s c).Honest Nameless name none) →
    Nameless (.script name s)

/-- A leaf refuses in its own name. -/
theorem Leaf.parser_of_refuses {g : Grammar} {answer : Text → Leaf.Answer}
    (h : g.leaf? = some answer) {t : Text} {reason : Reason} {parser : String}
    (ha : answer t = .refuses reason parser) : parser = g.name := by
  cases g <;> cases h
  case literal expected =>
    unfold answerLiteral at ha
    split at ha
    · cases ha
    · split at ha <;> cases ha <;> rfl
  case matching m =>
    unfold answerMatch at ha
    split at ha <;> cases ha
    rfl
  case decimal =>
    unfold answerDecimal at ha
    split at ha
    · cases ha
      rfl
    · split at ha <;> cases ha
      rfl
  case integer =>
    unfold answerInteger at ha
    split at ha
    · cases ha
      rfl
    · split at ha <;> cases ha
      rfl
  case atEnd =>
    unfold answerEnd at ha
    split at ha <;> cases ha
    rfl
  case success w => cases ha
  case failure =>
    cases ha
    rfl

namespace Grammar.Nameless

variable {g h : Grammar}

theorem part (hg : g.Nameless) (hp : h.Part g) : h.Nameless := by
  cases hg with
  | form _ _ hparts => exact hparts h hp
  | script => cases hp

theorem tail {gs : List Grammar} (hg : (sequence (g :: gs)).Nameless) : (sequence gs).Nameless :=
  .form nofun nofun fun
    | _, .member hm => hg.part (.member (List.mem_cons_of_mem g hm))

theorem ne_named (hg : g.Nameless) (name : String) (k : Grammar) : g ≠ named name k := by
  cases hg with
  | form hnamed _ _ => exact hnamed name k
  | script => exact nofun

theorem honest {name : String} {s : Cursor → Script} (hg : (Grammar.script name s).Nameless)
    (c : Cursor) : (s c).Honest Nameless name none := by
  cases hg with
  | form _ hscript _ => exact absurd rfl (hscript name s)
  | script h => exact h c

theorem leaf (hg : g.leaf?.isSome) : g.Nameless := by
  cases g <;> cases hg <;> exact .form nofun nofun nofun

/-- The parser that counts its runs fails in the name that it has taken over. -/
theorem counted (key : String) (hg : g.Nameless) : (Grammar.counted key g).Nameless := by
  refine .script fun c => .note key (.apply hg fun o => ?_)
  cases o with
  | success v r => exact .success _ _ v r
  | failure f =>
    -- under its own name there is no trail to tell of
    by_cases hf : f.parser = g.name
    · rw [← hf]
      exact .fresh _ f
    · rw [Outcome.failure?, Option.filter_some, if_pos (by simpa using hf)]
      exact .passOn g.name f

theorem noSkip (name : String) (hg : g.Nameless) : (Handwritten.noSkip name g).Nameless := by
  refine .script fun c => .parse hg fun o => ?_
  cases o with
  | success v r =>
    dsimp only
    cases c.advance r.offset with
    | ok d => exact .success name none v d
    | error e => exact .halt name none e
  | failure f => exact .passOn name f

end Grammar.Nameless

namespace Evaluation

open Run Grammar

/-- What jobs tell by their traces. -/
inductive Explained : Job → (Trace → Outcome → Prop) → Prop where
  | parse {g : Grammar} (c : Cursor) : g.Nameless →
    Explained (.run .parse g c) fun l o => ∀ f, o = .failure f → Trail f g.name l
  | apply {g : Grammar} (c : Cursor) : g.Nameless →
    Explained (.run .apply g c) (Outcome.Known g.name)
  | leaf {g : Grammar} (c : Cursor) : g.leaf?.isSome → Explained (.run .apply g c) fun l _ => l = []
  | items {item separator : Grammar} (c : Cursor) : item.Nameless → separator.Nameless →
    Explained (.items item separator c) fun _ o => o.isSuccess
  | many {g : Grammar} (c : Cursor) : g.Nameless →
    Explained (.run .apply (.many g) c) fun _ o => o.isSuccess
  | script {own : String} {last : Option Failure} {s : Script} {l : Trace} :
    s.Honest Nameless own last → (∀ f, last = some f → Outcome.Known own l (.failure f)) →
      Explained (.script s) fun m o => Outcome.Known own (l ++ m) o

variable {rules : Rules} {ask : Job → Run Outcome}
variable (hask : ∀ {job Q}, Explained job Q → Tells Q (ask job))

section Step

include hask

/-- A parser that is parsed leaves a trail of its failure. -/
theorem ask_parse_known {g : Grammar} (hg : g.Nameless) (c : Cursor) (own : String) :
    Tells (Outcome.Known own) (ask (.run .parse g c)) :=
  (hask (.parse c hg)).mono fun _ _ h f hf => .inr ⟨g.name, h f hf⟩

theorem parse_trail {g : Grammar} (hg : g.Nameless) (c : Cursor) :
    Tells (fun l o => ∀ f, o = .failure f → Trail f g.name l) (parse ask g c) := by
  rw [parse_eq]
  refine (hask (.apply c.skipped hg)).bind fun l o ho => ?_
  cases o with
  | success v r => exact .done nofun
  | failure f =>
    refine (Tells.log (Q := fun m _ => m = [(g.name, f.rest.offset)]) rfl).bind fun m _ hm => ?_
    refine .done ?_
    rintro _ ⟨⟩
    rw [hm, List.append_nil]
    rcases ho f rfl with hown | ⟨last, htrail⟩
    · exact .start l hown
    · exact htrail.next g.name

/-- Whatever stops a loop, the loop succeeds. -/
theorem items_isSuccess {item separator : Grammar} (hi : item.Nameless) (hs : separator.Nameless)
    (c : Cursor) : Tells (fun _ o => o.isSuccess) (items ask item separator c) := by
  refine (hask (.parse c hs)).bind fun l o _ => ?_
  cases o with
  | failure => exact .done rfl
  | success _ after =>
    refine (hask (.parse after hi)).bind fun m o _ => ?_
    cases o with
    | failure => exact .done rfl
    | success v rest =>
      exact (hask (.items rest hi hs)).bind fun n o ho => .done (by rwa [Outcome.isSuccess_map])

theorem many_isSuccess {g : Grammar} (hg : g.Nameless) (c : Cursor) :
    Tells (fun _ o => o.isSuccess) (apply rules ask (.many g) c) := by
  refine (hask (.parse c hg)).bind fun l o _ => ?_
  cases o with
  | failure => exact .done rfl
  | success v rest =>
    exact (hask (.many rest hg)).bind fun m o ho => .done (by rwa [Outcome.isSuccess_map])

theorem script_known {own : String} {last : Option Failure} {s : Script} {l : Trace}
    (hs : s.Honest Nameless own last)
    (hlast : ∀ f, last = some f → Outcome.Known own l (.failure f)) :
    Tells (fun m o => Outcome.Known own (l ++ m) o) (script ask s) := by
  cases hs with
  | success => exact .done .success
  | fresh last f =>
    refine .done ?_
    rintro _ ⟨⟩
    exact .inl rfl
  | passOn own f => exact .done (by rw [List.append_nil]; exact hlast f rfl)
  | halt => exact .lift nofun
  | note key hs =>
    refine (Tells.log (Q := fun m _ => m = []) rfl).bind fun m _ hm => ?_
    rw [hm]
    exact hask (.script hs hlast)
  | @parse own last g c next hg hnext =>
    refine (hask (.parse _ hg)).bind fun m o ho => ?_
    simp only [← List.append_assoc]
    refine hask (.script (hnext o) fun f hf => ?_)
    cases o with
    | success => cases hf
    | failure e =>
      cases hf
      rintro _ ⟨⟩
      exact .inr ⟨g.name, (ho _ rfl).behind l⟩
  | @apply own last g c next hg hnext =>
    refine (hask (.apply _ hg)).bind fun m o ho => ?_
    simp only [← List.append_assoc]
    refine hask (.script (hnext o) fun f hf => ?_)
    obtain ⟨hf, hparser⟩ := Option.filter_eq_some_iff.1 hf
    cases o with
    | success => cases hf
    | failure e =>
      cases hf
      rintro _ ⟨⟩
      obtain hown | ⟨first, htrail⟩ := ho _ rfl
      · exact absurd hown (by simpa using hparser)
      · exact .inr ⟨first, htrail.behind l⟩
  | leaf hg hnext =>
    refine (hask (.leaf _ hg)).bind fun m o hm => ?_
    simp only [hm, List.nil_append]
    exact hask (.script (hnext o) hlast)

variable (hrules : ∀ name, (rules name).Nameless)
include hrules

theorem apply_known {g : Grammar} (hg : g.Nameless) (c : Cursor) :
    Tells (Outcome.Known g.name) (apply rules ask g c) := by
  cases hl : g.leaf? with
  | some answer =>
    rw [apply_leaf hl]
    refine .done ?_
    cases ha : answer c.ahead with
    | accepts v n => exact .success
    | refuses reason parser =>
      rw [Leaf.parser_of_refuses hl ha]
      exact .fresh
  | none =>
  -- a parsed part leaves its own trail, which is enough under any name
  have hparse : ∀ {h}, h.Part g → ∀ d, Tells (Outcome.Known g.name) (ask (.run .parse h d)) :=
    fun hp d => ask_parse_known hask (hg.part hp) d g.name
  cases g with
  | literal | matching | decimal | integer | atEnd | success | failure => cases hl
  | both a b =>
    exact (hparse (.bothLeft a b) c).onSuccess fun v r => (hparse (.bothRight a b) r).mapped _
  | either a b =>
    refine (hparse (.eitherLeft a b) c).cases (fun _ _ => .success) fun l e _ => ?_
    exact (hparse (.eitherRight a b) c).mono fun _ _ h => h.behind l
  | many g => exact (many_isSuccess hask (hg.part (.many g)) c).mono fun _ _ => .of_isSuccess
  | many1 g =>
    refine (hparse (.many1 g) c).onSuccess fun v r => .mapped _ ?_
    exact (hask (.many r (hg.part (.many1 g)))).mono fun _ _ => .of_isSuccess
  | many1Sep a b =>
    refine (hparse (.item a b) c).onSuccess fun v r => .mapped _ ?_
    exact (hask (.items r (hg.part (.item a b)) (hg.part (.separator a b)))).mono
      fun _ _ => .of_isSuccess
  | optional g =>
    exact (hparse (.optional g) c).cases (fun _ _ => .success) fun _ _ _ => .done .success
  | absent g => exact (hparse (.absent g) c).cases (fun _ _ => .fresh) fun _ _ _ => .done .success
  | present g =>
    exact (hparse (.present g) c).cases (fun _ _ => .success) fun _ _ _ => .done .fresh
  | keepLeft a b =>
    exact (hparse (.kept a b) c).onSuccess fun v r => (hparse (.dropped a b) r).mapped _
  | keepRight a b =>
    exact (hparse (.droppedFirst a b) c).onSuccess fun _ r => hparse (.keptLast a b) r
  | sequence gs =>
    cases gs with
    | nil => exact .success
    | cons g gs =>
      refine (hparse (.member (List.mem_cons_self)) c).onSuccess fun v r => .mapped _ ?_
      exact hask (.apply r hg.tail)
  | spanned g =>
    rw [apply_spanned]
    refine (hparse (.spanned g) c).onSuccess fun v r => ?_
    exact (Tells.lift (Q := fun _ _ => True) fun _ _ => trivial).bind fun _ _ _ => .done .success
  | named name g => exact absurd rfl (hg.ne_named name g)
  | shared g => exact hask (.apply c (hg.part (.shared g)))
  | map f g => exact (hparse (.map f g) c).mapped f
  | check f g =>
    refine (hparse (.check f g) c).onSuccess fun v r => ?_
    cases f v with
    | ok w => exact .success
    | error message => exact .fresh
  | andThen g next =>
    exact (hparse (.first g next) c).onSuccess fun v r => hparse (.next g next v) r
  | rule name =>
    refine (Tells.log (Q := fun l _ => l = []) rfl).bind fun l _ hl => ?_
    rw [hl]
    exact ask_parse_known hask (hrules name) c "lazy"
  | script name s => exact hask (.script (l := []) (hg.honest c) nofun)

end Step

/-- At every stage, jobs tell what they should. -/
theorem stage_explained (hrules : ∀ name, (rules name).Nameless) (n : Nat) :
    ∀ {job Q}, Explained job Q → Tells Q (stage rules n job) := by
  induction n with
  | zero => exact fun _ => .nothing
  | succ n ih =>
    intro job Q h
    cases h with
    | parse c hg => exact parse_trail ih hg c
    | apply c hg => exact apply_known ih hrules hg c
    | @leaf g c hg =>
      obtain ⟨answer, hl⟩ := Option.isSome_iff_exists.1 hg
      rw [stage, step, apply_leaf hl]
      exact .done rfl
    | items c hi hs => exact items_isSuccess ih hi hs c
    | many c hg => exact @many_isSuccess rules _ ih _ hg c
    | script hs hlast => exact script_known ih hs hlast

/-- A parse that succeeds logs nothing of its own. -/
theorem trace_of_success {g : Grammar} {c : Cursor} {t : Traced Outcome} {v : Value} {r : Cursor}
    (h : answer rules (.run .parse g c) = some t) (ht : t.result = .ok (.success v r)) :
    answer rules (.run .apply g c.skipped) = some t := by
  rw [answer_eq_step, step, parse_eq] at h
  rcases bind_eq_some h with ⟨e, -, he⟩ | ⟨l, o, u, ho, hu, rfl⟩
  · cases he.symm.trans ht
  · cases o with
    | success w s =>
      cases hu
      rw [ho, List.append_nil]
    | failure f =>
      cases hu
      cases ht

end Evaluation

namespace Grammar

/-- The trace of a parse that fails ends with a trail of the failure to the parser. That of a parse
that succeeds is made up of the traces of what is parsed on the way. -/
theorem trace_explained {rules : Rules} (hrules : ∀ name, (rules name).Nameless) {g : Grammar}
    (hg : g.Nameless) {c : Cursor} {t : Traced Outcome} (h : g.RunsTo rules .parse c t) :
    (∀ f, t.result = .ok (.failure f) → Trail f g.name t.trace) ∧
      ∀ v r, t.result = .ok (.success v r) →
        ∃ runs, Evaluation.Invokes rules [.run .apply g c.skipped] runs ∧
          t.trace = runs.flatMap Traced.trace := by
  refine ⟨fun f hf => ?_, fun v r hv => ?_⟩
  · obtain ⟨n, hn⟩ := h
    exact Evaluation.stage_explained hrules n (.parse c hg) t _ hn hf f rfl
  · have happly := Evaluation.trace_of_success (runsTo_iff_answer.1 h) hv
    obtain ⟨n, hn⟩ := Evaluation.answer_eq_some.1 happly
    obtain ⟨runs, hruns⟩ := Evaluation.exists_invokes n [.run .apply g c.skipped]
      (List.forall_mem_singleton.2 ⟨t, hn⟩)
    refine ⟨runs, hruns, ?_⟩
    rw [← hruns.trace_eq, List.flatMap_singleton, happly]
    rfl

/-- A loop that stops, and a failure that comes back from a rule through parsers written by hand. -/
theorem trace_explained_rule :
    let rules : Rules := fun _ => literal ['b']
    let g := both (many (literal ['a'])) (Handwritten.noSkip "next" (counted "runs" (rule "b")))
    let c : Cursor := .start ['a', 'a', 'c'] none
    ∃ t f, g.RunsTo rules .parse c t ∧ t.result = .ok (.failure f) ∧
      (∀ f, t.result = .ok (.failure f) → Trail f g.name t.trace) ∧
        ∀ v r, t.result = .ok (.success v r) →
          ∃ runs, Evaluation.Invokes rules [.run .apply g c.skipped] runs ∧
            t.trace = runs.flatMap Traced.trace := by
  intro rules g c
  have hrule : (rule "b").Nameless := .form nofun nofun nofun
  have hmany : (many (literal ['a'])).Nameless := .form nofun nofun fun
    | _, .many _ => .leaf rfl
  have hboth : ∀ {a b : Grammar}, a.Nameless → b.Nameless → (both a b).Nameless := fun ha hb =>
    .form nofun nofun fun
      | _, .bothLeft _ _ => ha
      | _, .bothRight _ _ => hb
  have hg : g.Nameless := hboth hmany ((hrule.counted "runs").noSkip "next")
  have hrun : g.RunsTo rules .parse c _ := ⟨12, rfl⟩
  exact ⟨_, _, hrun, rfl, trace_explained (fun _ => .leaf rfl) hg hrun⟩

end Grammar
end Descent
