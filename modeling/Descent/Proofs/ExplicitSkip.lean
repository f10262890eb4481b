import Descent.Proofs.Evaluation.Answer
import Descent.Proofs.Grammar
import Descent.Proofs.Skipping

/-! # Skipping as a parser

What a cursor skips can as well be read by a parser in front of every operand. The grammar that does
so is run on cursors which skip nothing. -/
namespace Descent

/-- The parser of the pattern itself. -/
def SkipPattern.matcher (k : SkipPattern) : Leaf.Matcher := .ofPattern k.pattern k.regex

/-- The parser of what may be skipped. -/
def SkipPattern.token (k : SkipPattern) : Grammar := .optional (.matching k.matcher)

namespace Grammar

/-- What may be skipped, then the grammar. -/
def afterSkip (k : SkipPattern) (g : Grammar) : Grammar := keepRight k.token g

mutual

/-- The grammar with each operand set behind the parser of what may be skipped. Parts which are run
right where the whole is are no operands. -/
def explicit (k : SkipPattern) : Grammar → Grammar
  | both a b => both (afterSkip k (explicit k a)) (afterSkip k (explicit k b))
  | either a b => either (afterSkip k (explicit k a)) (afterSkip k (explicit k b))
  | many g => many (afterSkip k (explicit k g))
  | many1 g => many1 (afterSkip k (explicit k g))
  | many1Sep a b => many1Sep (afterSkip k (explicit k a)) (afterSkip k (explicit k b))
  | optional g => optional (afterSkip k (explicit k g))
  | absent g => absent (afterSkip k (explicit k g))
  | present g => present (afterSkip k (explicit k g))
  | keepLeft a b => keepLeft (afterSkip k (explicit k a)) (afterSkip k (explicit k b))
  | keepRight a b => keepRight (afterSkip k (explicit k a)) (afterSkip k (explicit k b))
  | sequence gs => sequence (explicitAll k gs)
  | spanned g => spanned (afterSkip k (explicit k g))
  | named name g => named name (explicit k g)
  | shared g => shared (explicit k g)
  | map f g => map f (afterSkip k (explicit k g))
  | check f g => check f (afterSkip k (explicit k g))
  | andThen g next => andThen (afterSkip k (explicit k g)) fun v => afterSkip k (explicit k (next v))
  | g => g

def explicitAll (k : SkipPattern) : List Grammar → List Grammar
  | [] => []
  | g :: gs => afterSkip k (explicit k g) :: explicitAll k gs

end

theorem explicitAll_eq_map (k : SkipPattern) (gs : List Grammar) :
    explicitAll k gs = gs.map fun g => (explicit k g).afterSkip k := by
  induction gs with
  | nil => rfl
  | cons g gs ih => rw [explicitAll, ih, List.map_cons]

theorem explicit_eq_mapParts (k : SkipPattern) (g : Grammar) :
    g.explicit k = g.mapParts (fun h => (h.explicit k).afterSkip k) (explicit k) := by
  cases g with
  | sequence gs => rw [explicit, explicitAll_eq_map, mapParts]
  | _ => rfl

/-- The grammar is neither written by hand nor does it yield spans, by its head. -/
def Plain : Grammar → Prop
  | spanned _ => False
  | script _ _ => False
  | _ => True

end Grammar

/-- Rules are operands of those who call them. -/
def Rules.explicit (k : SkipPattern) (rules : Rules) : Rules :=
  fun name => ((rules name).explicit k).afterSkip k

namespace Cursor

/-- The cursor, with nothing to skip any more. -/
def bare (c : Cursor) : Cursor := { c with skip := none }

variable (c : Cursor)

@[simp] theorem bare_ahead : c.bare.ahead = c.ahead := rfl

@[simp] theorem bare_skipped : c.bare.skipped = c.bare := skipped_of_skip_none rfl

end Cursor

/-! ## What the two sides have in common -/

namespace Correspondence

/-- Cursors that skip `k` and bare ones at the same place. -/
def skipping (k : SkipPattern) : Correspondence := Alignment.correspondence {
  cursor := fun c c' => c.skip = some k ∧ c' = c.bare
  failure := fun e e' => e.rest.skip = some k ∧ e'.rest = e.rest.bare ∧ e'.parser = e.parser ∧
    e.reason.Alike e'.reason
  quoted := fun _ _ => True
  called := Eq
  spans := False
  seen := .results fun _ => False
  ahead h := h.2 ▸ rfl
  past := by
    rintro c _ n ⟨hc, rfl⟩
    exact ⟨hc, rfl⟩
  refused reason _ h := ⟨h.1, h.2, rfl, .same reason⟩
  unexpected h _ := ⟨h.1, h.2, rfl, .unexpectedMatch _ _⟩
  missing h _ := ⟨h.1, h.2, rfl, .missingMatch _ _⟩
  spanned := False.elim
  built _ := trivial
  counted _ := trivial }

/-- A grammar as an operand, and what stands for it. -/
def MadeExplicit (k : SkipPattern) (g g' : Grammar) : Prop :=
  g.Everywhere Grammar.Plain ∧ g' = (g.explicit k).afterSkip k

/-- A grammar as a body, and what stands for it. -/
def MadeExplicitInside (k : SkipPattern) (g g' : Grammar) : Prop :=
  g.Everywhere Grammar.Plain ∧ g' = g.explicit k

variable {k : SkipPattern}

theorem form_explicit {g : Grammar} (h : g.Everywhere Grammar.Plain) :
    (skipping k).SameForm (MadeExplicit k) (MadeExplicitInside k) g (g.explicit k) := by
  have hallows : (skipping k).Allows (MadeExplicit k) (MadeExplicitInside k) g := by
    have hplain := h.head
    cases g with
    | spanned => exact hplain
    | rule => exact rfl
    | script => exact hplain.elim
    | _ => exact id
  rw [Grammar.explicit_eq_mapParts]
  refine sameForm_mapParts Iff.rfl hallows (fun p hp => ⟨h.part hp, rfl⟩) (fun _ _ => trivial) ?_
  rintro p (rfl | ⟨name, rfl⟩)
  · exact ⟨h.part (.shared p), rfl⟩
  · exact ⟨h.part (.named name p), rfl⟩

end Correspondence

namespace Evaluation

open Run Correspondence

variable {k : SkipPattern} {rules : Rules} {c : Cursor} {g : Grammar}

/-! ## Runs behind what may be skipped -/

/-- Where there is nothing to skip, the parser of `k` moves to where skipping `k` ends. -/
theorem token_result? (rules : Rules) (hk : k.regex.Held) (hc : c.skip = some k) : ∃ v,
    (answer rules (.run .parse k.token c.bare)).result? = some (.ok (.success v c.skipped.bare)) := by
  have hread : (answer rules (.run .parse (.matching k.matcher) c.bare)).result? =
      some (.ok ((Leaf.answerMatch k.matcher c.ahead).outcome c.bare)) := by
    rw [answer_parse_result?, Cursor.bare_skipped, answer_apply, apply_leaf rfl]
    rfl
  have hskipped : c.skipped.bare = c.bare.past ((k.regex.atStart c.ahead).getD 0) := by
    rw [Cursor.skipped, Cursor.skipCount_of_held hc hk]
    rfl
  have hregex : k.matcher.regex = k.regex := rfl
  rw [answer_parse_result?, Cursor.bare_skipped, answer_apply, SkipPattern.token, apply,
    result?_bind, hread, Leaf.answerMatch, hregex, hskipped]
  cases k.regex.atStart c.ahead with
  | none =>
    rw [Option.getD_none, Cursor.past_zero]
    exact ⟨.none, rfl⟩
  | some n => exact ⟨.some (.text (c.ahead.take n)), rfl⟩

theorem answer_afterSkip_result? (rules : Rules) (hk : k.regex.Held) (hc : c.skip = some k)
    (g : Grammar) : (answer rules (.run .parse (g.afterSkip k) c.bare)).result? =
      (answer rules (.run .apply g c.skipped.bare)).result? := by
  obtain ⟨v, hv⟩ := token_result? rules hk hc
  rw [answer_parse_result?, Cursor.bare_skipped, answer_apply, Grammar.afterSkip, apply, onSuccess,
    result?_bind, hv]
  change (answer rules (.run .parse g c.skipped.bare)).result? = _
  rw [answer_parse_result?, Cursor.bare_skipped]

/-- A stage that is done with a grammar behind what may be skipped is past one that is done with the
grammar. -/
theorem exists_stage_afterSkip (hk : k.regex.Held) (hc : c.skip = some k) {n : Nat}
    {r : Except Fault Outcome}
    (h : (stage rules n (.run .parse (g.afterSkip k) c.bare)).result? = some r) :
    ∃ m < n, (stage rules m (.run .apply g c.skipped.bare)).result? = some r := by
  obtain ⟨v, hv⟩ := token_result? rules hk hc
  obtain _ | _ | n := n
  · cases h
  · cases h
  · rw [stage_parse_result?, Cursor.bare_skipped] at h
    change (onSuccess (stage rules n (.run .parse k.token c.bare)) fun _ r =>
      stage rules n (.run .parse g r)).result? = _ at h
    rw [onSuccess, result?_bind] at h
    cases ht : (stage rules n (.run .parse k.token c.bare)).result? with
    | none =>
      rw [ht] at h
      cases h
    | some t =>
      have htoken := (answer_result?_of_stage ht).symm.trans hv
      rw [ht, Option.some.inj htoken] at h
      change (stage rules n (.run .parse g c.skipped.bare)).result? = _ at h
      cases n with
      | zero => cases h
      | succ m =>
        rw [stage_parse_result?, Cursor.bare_skipped] at h
        exact ⟨m, by omega, h⟩

/-! ## Simulation both ways -/

section Simulation

variable (hk : k.regex.Held) (hrules : ∀ name, (rules name).Everywhere Grammar.Plain)
include hk hrules

theorem skipping_led (n : Nat) : LedBefore (skipping k) (MadeExplicit k) (MadeExplicitInside k)
    rules (rules.explicit k) n := by
  have hcalled : ∀ {p p'}, (skipping k).called p p' →
      MadeExplicit k (rules p) (rules.explicit k p') := by
    rintro p _ rfl
    exact ⟨hrules p, rfl⟩
  refine led_before hcalled (fun {n} hbefore g g' c c' hg hc => ?_)
    (fun hbefore g g' c c' hg hc => ?_) n
  · obtain ⟨hplain, rfl⟩ := hg
    obtain ⟨hskip, rfl⟩ := hc
    cases n with
    | zero => exact .nothing
    | succ n =>
      have hcursor : (skipping k).cursor c.skipped c.skipped.bare := ⟨hskip, rfl⟩
      have hinside := hbefore n (Nat.lt_succ_self n) (.body ⟨hplain, rfl⟩ hcursor)
      exact hinside.of_result? (stage_parse_result? rules n g c).symm
        (answer_afterSkip_result? _ hk hskip _).symm
  · obtain ⟨hplain, rfl⟩ := hg
    exact hbefore.form hcalled (form_explicit hplain) hc

theorem explicit_led (n : Nat) : LedBefore (skipping k).flip (fun a b => MadeExplicit k b a)
    (fun a b => MadeExplicitInside k b a) (rules.explicit k) rules n := by
  have hcalled : ∀ {p p'}, (skipping k).flip.called p p' →
      MadeExplicit k (rules p') (rules.explicit k p) := by
    rintro _ p rfl
    exact ⟨hrules p, rfl⟩
  refine led_before hcalled (fun {n} hbefore g' g c' c hg hc => ?_)
    (fun hbefore g' g c' c hg hc => ?_) n
  · obtain ⟨hplain, rfl⟩ := hg
    obtain ⟨hskip, rfl⟩ := hc
    intro t ht
    obtain ⟨m, hm, hr⟩ := exists_stage_afterSkip hk hskip (result?_eq_some.2 ⟨t.log, ht⟩)
    have hcursor : (skipping k).cursor c.skipped c.skipped.bare := ⟨hskip, rfl⟩
    have hinside := hbefore m hm (.body ⟨hplain, rfl⟩ hcursor)
    have hsame := hr.trans (result?_eq_some.2 ⟨t.log, ht⟩).symm
    exact hinside.of_result? hsame (answer_parse_result? rules g c).symm t ht
  · obtain ⟨hplain, rfl⟩ := hg
    exact hbefore.form hcalled (form_explicit hplain).flip hc

end Simulation

end Evaluation

namespace Grammar

/-- Skipping does what its parser does in front of every operand: both parsers go on forever, or both
succeed with the same value at the same place, or both fail at the same place in the name of the same
parser, and for the same reason up to the operand that lookahead quotes. -/
theorem explicit_agrees {k : SkipPattern} {r : Regex} (hk : Pattern.compile k.pattern = .ok r)
    {rules : Rules} (hrules : ∀ name, (rules name).Everywhere Plain) {g : Grammar}
    (hg : g.Everywhere Plain) {c : Cursor} (hc : c.skip = some k) :
    (g.Diverges rules .parse c ∧ ((g.explicit k).afterSkip k).Diverges (rules.explicit k) .parse
        c.bare) ∨
      (∃ v rest, g.Returns rules .parse c (.success v rest) ∧
        ((g.explicit k).afterSkip k).Returns (rules.explicit k) .parse c.bare
          (.success v rest.bare)) ∨
      ∃ f f', g.Returns rules .parse c (.failure f) ∧
        ((g.explicit k).afterSkip k).Returns (rules.explicit k) .parse c.bare (.failure f') ∧
        f'.rest = f.rest.bare ∧ f'.parser = f.parser ∧ f.reason.Alike f'.reason := by
  have hheld : k.regex.Held := Pattern.held_of_compile hk k.compiled
  have hcursor : (Correspondence.skipping k).cursor c c.bare := ⟨hc, rfl⟩
  have hforth := fun n => Evaluation.skipping_led hheld hrules (n + 1) n (Nat.lt_succ_self n)
    (.parse ⟨hg, rfl⟩ hcursor)
  have hback := fun n => Evaluation.explicit_led hheld hrules (n + 1) n (Nat.lt_succ_self n)
    (.parse ⟨hg, rfl⟩ hcursor)
  obtain ⟨hd, hd'⟩ | ⟨⟨l, t⟩, ⟨l', t'⟩, ht, ht', -, hagree⟩ := Evaluation.none_or_agree hforth hback
  · exact .inl ⟨diverges_iff_answer.2 hd, diverges_iff_answer.2 hd'⟩
  · cases hagree with
    | error h => exact h.elim
    | ok h =>
      cases h with
      | success hv hrest =>
        obtain ⟨-, rfl⟩ := hrest
        cases hv
        exact .inr (.inl ⟨_, _, returns_iff_answer.2 ⟨l, ht⟩, returns_iff_answer.2 ⟨l', ht'⟩⟩)
      | failure hf =>
        obtain ⟨-, hrest, hparser, hreason⟩ := hf
        exact .inr (.inr ⟨_, _, returns_iff_answer.2 ⟨l, ht⟩, returns_iff_answer.2 ⟨l', ht'⟩,
          hrest, hparser, hreason⟩)

theorem exists_ok {ε α : Type} {x : Except ε α} (h : x.toBool = true) : ∃ a, x = .ok a := by
  cases x with
  | error => cases h
  | ok a => exact ⟨a, rfl⟩

/-- A pattern that can match again where it has matched, under wrappers that each skip once more. -/
theorem explicit_agrees_crosses : ∃ k : SkipPattern, k.pattern = ['x'] ∧
    let rules : Rules := fun _ => keepLeft (literal ['a']) (absent (literal ['b']))
    let g : Grammar := many (map id (rule "a"))
    let c : Cursor := .start ['x', 'x', 'x', 'a', 'x', 'a', 'x', 'b'] (some k)
    (g.Diverges rules .parse c ∧ ((g.explicit k).afterSkip k).Diverges (rules.explicit k) .parse
        c.bare) ∨
      (∃ v rest, g.Returns rules .parse c (.success v rest) ∧
        ((g.explicit k).afterSkip k).Returns (rules.explicit k) .parse c.bare
          (.success v rest.bare)) ∨
      ∃ f f', g.Returns rules .parse c (.failure f) ∧
        ((g.explicit k).afterSkip k).Returns (rules.explicit k) .parse c.bare (.failure f') ∧
        f'.rest = f.rest.bare ∧ f'.parser = f.parser ∧ f.reason.Alike f'.reason := by
  obtain ⟨r, hr⟩ : ∃ r, Pattern.compile ['x'] = .ok r :=
    exists_ok (by decide +kernel)
  obtain ⟨s, hs⟩ : ∃ s, Pattern.compileAnchored ['x'] = .ok s :=
    exists_ok (by decide +kernel)
  refine ⟨⟨['x'], s, hs⟩, rfl, ?_⟩
  refine explicit_agrees hr (fun _ => ?_) ?_ rfl
  · exact .intro trivial fun
      | _, .kept _ _ => .intro trivial nofun
      | _, .dropped _ _ => .intro trivial fun | _, .absent _ => .intro trivial nofun
  · exact .intro trivial fun
      | _, .many _ => .intro trivial fun | _, .map _ _ => .intro trivial nofun

end Grammar
end Descent
