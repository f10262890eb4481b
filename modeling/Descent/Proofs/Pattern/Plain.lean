import Descent.Proofs.Pattern.Labelled

/-! # Plain backtracking

Without points: the parts of a pattern are tried one after the other, branches from the first on,
and repetitions as their greed says. Where no turn of a loop can be empty, no way comes past a point
twice before it reads on, so the order of preference is that of plain backtracking. -/
namespace Descent

/-- The numbers of characters that can be matched from a place on, the preferred first. -/
abbrev Plan := Place → List Nat

namespace Plan

def read (s : CharSet) (k : Plan) : Plan := fun i =>
  match i.ahead with
  | [] => []
  | c :: _ => if s.mem c then (k (i.past 1)).map (· + 1) else []

def check (a : Anchor) (k : Plan) : Plan := fun i => if a.holds i.look then k i else []

def orElse (k k' : Plan) : Plan := fun i => k i ++ k' i

def prefer (greedy : Bool) (turn leave : Plan) : Plan :=
  if greedy then turn.orElse leave else leave.orElse turn

theorem prefer_apply (greedy : Bool) (turn leave : Plan) (i : Place) :
    prefer greedy turn leave i = Regex.inOrder greedy (turn i) (leave i) := by
  cases greedy <;> rfl

def times (body : Plan → Plan) : Nat → Plan → Plan
  | 0, k => k
  | count + 1, k => body (times body count k)

theorem times_succ (body : Plan → Plan) (count : Nat) (k : Plan) :
    times body (count + 1) k = times body count (body k) := by
  induction count with
  | zero => rfl
  | succ count ih => exact congrArg body ih

def upTo (greedy : Bool) (body : Plan → Plan) : Nat → Plan → Plan
  | 0, k => k
  | count + 1, k => prefer greedy (body (upTo greedy body count k)) k

/-- As many turns as there are characters, and one more that could only be empty. -/
def loop (greedy : Bool) (body : Plan → Plan) (k : Plan) : Plan := fun i =>
  upTo greedy body (i.ahead.length + 1) k i

end Plan

namespace Pattern

/-- The matches of a pattern, handed on to what follows it in the order of plain backtracking. -/
def tries : Pattern → Plan → Plan
  | empty, k => k
  | literal t, k => t.foldr (fun c k => .read (.single c) k) k
  | chars _ s, k => .read s k
  | anchor a, k => .check a k
  | group _ p, k => p.tries k
  | cat p q, k => p.tries (q.tries k)
  | alt p q, k => (p.tries k).orElse (q.tries k)
  | repeated least most greedy p, k => match most with
    | some most => .times p.tries least (.upTo greedy p.tries (most - least) k)
    | none => .times p.tries least (.loop greedy p.tries k)

/-- No loop without a bound has an empty turn anywhere. -/
def LoopsRead : Pattern → Prop
  | empty => True
  | literal _ => True
  | chars _ _ => True
  | anchor _ => True
  | group _ p => p.LoopsRead
  | cat p q => p.LoopsRead ∧ q.LoopsRead
  | alt p q => p.LoopsRead ∧ q.LoopsRead
  | repeated _ most _ p => p.LoopsRead ∧ (most = none → ∀ i, ¬ p.Matches i 0)

/-- What follows a part does the same on both sides wherever the part hands on to it: at the same
place, if the part may match the empty text there, and at later places. Among the points passed
since the last character are those from which the end of the part can be reached at once. -/
structure Alike (nothing : Place → Prop) (back : Place → Nat → Prop) (i : Place) (P : List Nat)
    (k : Way) (k' : Plan) : Prop where
  here : nothing i → ∀ P', (∀ x ∈ P', x ∈ P ∨ back i x) → k i P' = k' i
  later : ∀ j P', j.ahead.length < i.ahead.length → (∀ x ∈ P', back j x) → k j P' = k' j

/-- The points of a part that can be come by from its start, and those from which its end can be
reached, before something is read. -/
structure Margins where
  front : Nat → Place → Nat → Prop
  back : Nat → Place → Nat → Prop

/-- A part whose points change nothing, unless they have been passed before. The part matches the
empty text only at places with `nothing`. At the others, no point leads from start to end before
something is read. -/
structure Guided (m : Margins) (nothing : Place → Prop) (points : Nat) (ways : Nat → Way → Way)
    (tries : Plan → Plan) : Prop where
  front_range : ∀ n i x, m.front n i x → n ≤ x ∧ x < n + points
  back_range : ∀ n i x, m.back n i x → n ≤ x ∧ x < n + points
  apart : ∀ n i x, ¬ nothing i → m.front n i x → ¬ m.back n i x
  same : ∀ {n k k' i P}, (∀ x ∈ P, ¬ m.front n i x) → Alike nothing (m.back n) i P k k' →
    ways n k i P = tries k' i

attribute [grind →] Guided.front_range Guided.back_range Guided.apart

def Plainly (nothing : Place → Prop) (points : Nat) (ways : Nat → Way → Way)
    (tries : Plan → Plan) : Prop :=
  ∃ m, Guided m nothing points ways tries

variable {nothing nothing' : Place → Prop} {points points' : Nat} {ways ways' : Nat → Way → Way}
variable {tries tries' : Plan → Plan} {greedy : Bool}

/-! ## Loops whose turns read -/

namespace Guided

variable {m : Margins} {n fuel fuel' : Nat} {k w : Way} {k' rest : Plan}
variable {i : Place} {P : List Nat}

/-- When a turn comes back to the point of its loop, neither that point nor those at the start of
the next turn have been passed. -/
theorem turn_eq (h : Guided m nothing points ways tries) (hreads : ∀ i, ¬ nothing i)
    (hP : ∀ x ∈ P, ¬ (m.front n i x ∨ x = n + points))
    (hk : Alike (fun _ => True) (fun i x => m.back n i x ∨ x = n + points) i P k k')
    (hw : ∀ j P', j.ahead.length < i.ahead.length →
      (∀ x ∈ P', ¬ (m.front n j x ∨ x = n + points)) →
      Alike (fun _ => True) (fun i x => m.back n i x ∨ x = n + points) j P' k k' →
      w j P' = rest j) :
    Way.pass (n + points) (.prefer greedy (ways n w) k) i P =
      Plan.prefer greedy (tries rest) k' i := by
  have hpoint : n + points ∉ P := fun hmem => hP _ hmem (.inr rfl)
  have hleave : k i ((n + points) :: P) = k' i := hk.here trivial _ (by grind)
  have hturn : ways n w i ((n + points) :: P) = tries rest i := by
    refine h.same (by grind) ⟨fun hi => absurd hi (hreads i), fun j P' hj hP' => ?_⟩
    -- the turn has read, so what is passed leads to its end, and nothing of it is at its start
    refine hw j P' hj (by grind) ⟨fun _ P'' hP'' => ?_, fun j' P'' hj' hP'' => ?_⟩
    · exact hk.later j P'' hj (by grind)
    · exact hk.later j' P'' (Nat.lt_trans hj' hj) hP''
  rw [Way.pass, if_neg hpoint, Way.prefer_apply, Plan.prefer_apply, hturn, hleave]

theorem turns_eq (h : Guided m nothing points ways tries) (hreads : ∀ i, ¬ nothing i)
    (hfuel : i.ahead.length ≤ fuel) (hfuel' : i.ahead.length < fuel')
    (hP : ∀ x ∈ P, ¬ (m.front n i x ∨ x = n + points))
    (hk : Alike (fun _ => True) (fun i x => m.back n i x ∨ x = n + points) i P k k') :
    Way.turns greedy (n + points) (ways n) k fuel i P = Plan.upTo greedy tries fuel' k' i := by
  induction fuel generalizing i P fuel' with
  | zero =>
    cases fuel' with
    | zero => omega
    | succ fuel' => exact h.turn_eq hreads hP hk fun j P' hj => by omega
  | succ fuel ih =>
    cases fuel' with
    | zero => omega
    | succ fuel' =>
      exact h.turn_eq hreads hP hk fun j P' hj hP' hk' => ih (by omega) (by omega) hP' hk'

/-- A loop makes a turn or none. -/
theorem loop_eq (h : Guided m nothing points ways tries) (hreads : ∀ i, ¬ nothing i)
    (k : Plan) : Plan.loop greedy tries k = .prefer greedy (tries (.loop greedy tries k)) k := by
  funext i
  -- at later places there are fewer characters, so one turn less is as good as all
  let w : Way := .loop greedy (0 + points) (ways 0) fun j _ => k j
  have hloop : ∀ j P' fuel, (∀ x ∈ P', m.back 0 j x) → j.ahead.length < fuel →
      w j P' = Plan.upTo greedy tries fuel k j := fun j P' fuel hP' hfuel =>
    h.turns_eq hreads (Nat.le_refl _) hfuel (by grind) ⟨fun _ _ _ => rfl, fun _ _ _ _ => rfl⟩
  have hturns : ways 0 w i [] = tries (Plan.upTo greedy tries i.ahead.length k) i :=
    h.same nofun ⟨fun hi => absurd hi (hreads i), fun j P' hj hP' => hloop j P' _ hP' hj⟩
  have hagain : ways 0 w i [] = tries (.loop greedy tries k) i :=
    h.same nofun ⟨fun hi => absurd hi (hreads i), fun j P' hj hP' =>
      hloop j P' _ hP' (Nat.lt_succ_self _)⟩
  rw [Plan.loop, Plan.upTo, Plan.prefer_apply, Plan.prefer_apply, ← hturns, hagain]

end Guided

/-! ## One law for each way to put parts together -/

namespace Plainly

theorem congr (h : Plainly nothing points ways tries) (hnothing : ∀ i, nothing i → nothing' i)
    (hpoints : points' = points) (hways : ∀ n k, ways' n k = ways n k)
    (htries : ∀ k, tries' k = tries k) : Plainly nothing' points' ways' tries' := by
  obtain ⟨m, h⟩ := h
  subst hpoints
  refine ⟨m, h.front_range, h.back_range, fun n i x hi => ?_, fun hP hk => ?_⟩
  · exact h.apart n i x fun hi' => hi (hnothing i hi')
  · rw [hways, htries]
    exact h.same hP ⟨fun hi => hk.here (hnothing _ hi), hk.later⟩

/-- A part without points. -/
theorem of_same (h : ∀ {n k k' i P}, Alike nothing (fun _ _ => False) i P k k' →
    ways n k i P = tries k' i) : Plainly nothing 0 ways tries :=
  ⟨⟨fun _ _ _ => False, fun _ _ _ => False⟩, fun _ _ _ => False.elim, fun _ _ _ => False.elim,
    fun _ _ _ _ => False.elim, fun _ hk => h hk⟩

theorem skip : Plainly (fun _ => True) 0 (fun _ k => k) fun k => k :=
  of_same fun hk => hk.here trivial _ fun _ hx => .inl hx

theorem read (s : CharSet) : Plainly (fun _ => False) 0 (fun _ k => .read s k) (.read s) := by
  refine of_same fun {n k k' i P} hk => ?_
  rw [Way.read, Plan.read]
  cases hi : i.ahead with
  | nil => rfl
  | cons c t =>
    have hlater : (i.past 1).ahead.length < i.ahead.length := by simp [Place.past, hi]
    rw [hk.later _ [] hlater fun _ hx => absurd hx List.not_mem_nil]

theorem check (a : Anchor) :
    Plainly (fun i => a.holds i.look) 0 (fun _ k => .check a k) (.check a) := by
  refine of_same fun {n k k' i P} hk => ?_
  rw [Way.check, Plan.check]
  split
  · rename_i ha
    exact hk.here ha P fun x hx => .inl hx
  · rfl

theorem cat (h : Plainly nothing points ways tries) (h' : Plainly nothing' points' ways' tries') :
    Plainly (fun i => nothing i ∧ nothing' i) (points + points')
      (fun n k => ways n (ways' (n + points) k)) fun k => tries (tries' k) := by
  obtain ⟨m, h⟩ := h
  obtain ⟨m', h'⟩ := h'
  refine ⟨⟨fun n i x => m.front n i x ∨ nothing i ∧ m'.front (n + points) i x,
    fun n i x => m'.back (n + points) i x ∨ nothing' i ∧ m.back n i x⟩,
    by grind, by grind, by grind, fun {n k k' i P} hP hk => ?_⟩
  -- the second part begins where the first has read nothing, or further on
  refine h.same (by grind) ⟨fun hi P' hP' => ?_, fun j P' hj hP' => ?_⟩
  · refine h'.same (by grind) ⟨fun hi' P'' hP'' => ?_, fun j P'' hj hP'' => ?_⟩
    · exact hk.here ⟨hi, hi'⟩ P'' (by grind)
    · exact hk.later j P'' hj (by grind)
  · refine h'.same (by grind) ⟨fun hi' P'' hP'' => ?_, fun j' P'' hj' hP'' => ?_⟩
    · exact hk.later j P'' hj (by grind)
    · exact hk.later j' P'' (Nat.lt_trans hj' hj) (by grind)

theorem orElse (h : Plainly nothing points ways tries)
    (h' : Plainly nothing' points' ways' tries') :
    Plainly (fun i => nothing i ∨ nothing' i) (points + points')
      (fun n k => (ways n k).orElse (ways' (n + points) k))
      fun k => (tries k).orElse (tries' k) := by
  obtain ⟨m, h⟩ := h
  obtain ⟨m', h'⟩ := h'
  refine ⟨⟨fun n i x => m.front n i x ∨ m'.front (n + points) i x,
    fun n i x => m.back n i x ∨ m'.back (n + points) i x⟩,
    by grind, by grind, by grind, fun {n k k' i P} hP hk => ?_⟩
  have hleft : ways n k i P = tries k' i := by
    refine h.same (by grind) ⟨fun hi P' hP' => ?_, fun j P' hj hP' => ?_⟩
    · exact hk.here (.inl hi) P' (by grind)
    · exact hk.later j P' hj (by grind)
  have hright : ways' (n + points) k i P = tries' k' i := by
    refine h'.same (by grind) ⟨fun hi P' hP' => ?_, fun j P' hj hP' => ?_⟩
    · exact hk.here (.inr hi) P' (by grind)
    · exact hk.later j P' hj (by grind)
  rw [Way.orElse, Plan.orElse, hleft, hright]

theorem prefer (h : Plainly nothing points ways tries) :
    Plainly (fun _ => True) points (fun n k => .prefer greedy (ways n k) k)
      fun k => .prefer greedy (tries k) k := by
  cases greedy with
  | true => exact (h.orElse skip).congr (fun _ _ => trivial) rfl (fun _ _ => rfl) fun _ => rfl
  | false =>
    exact (skip.orElse h).congr (fun _ _ => trivial) (Nat.zero_add _).symm (fun _ _ => rfl)
      fun _ => rfl

/-- A point before a part. -/
theorem fork (h : Plainly nothing points ways tries) :
    Plainly nothing (1 + points) (fun n k => .pass n (ways (n + 1) k)) tries := by
  obtain ⟨m, h⟩ := h
  refine ⟨⟨fun n i x => x = n ∨ m.front (n + 1) i x,
    fun n i x => m.back (n + 1) i x ∨ nothing i ∧ x = n⟩,
    by grind, by grind, by grind, fun {n k k' i P} hP hk => ?_⟩
  have hn : n ∉ P := fun hn => hP n hn (.inl rfl)
  rw [Way.pass, if_neg hn]
  refine h.same (by grind) ⟨fun hi P' hP' => ?_, fun j P' hj hP' => ?_⟩
  · exact hk.here hi P' (by grind)
  · exact hk.later j P' hj (by grind)

theorem inTurn (h : Plainly nothing points ways tries)
    (h' : Plainly nothing' points' ways' tries') (count : Nat) :
    Plainly (fun i => (count = 0 ∨ nothing i) ∧ nothing' i) (count * points + points')
      (fun n k => Pattern.inTurn points ways count n (ways' (n + count * points) k))
      fun k => .times tries count (tries' k) := by
  induction count with
  | zero =>
    refine h'.congr (fun i hi => ⟨.inl rfl, hi⟩) (by simp) (fun n k => ?_) fun _ => rfl
    simp [Pattern.inTurn]
  | succ count ih =>
    refine (h.cat ih).congr (fun i hi => ⟨.inr hi.1, hi.2.2⟩) (by rw [Nat.succ_mul]; omega)
      (fun n k => ?_) fun _ => rfl
    rw [add_succ_mul]
    rfl

theorem atMost (h : Plainly nothing points ways tries) (count : Nat) :
    Plainly (fun _ => True) (count * (1 + points)) (Pattern.atMost greedy points ways count)
      (.upTo greedy tries count) := by
  induction count with
  | zero => exact skip.congr (fun _ => id) (Nat.zero_mul _) (fun _ _ => rfl) fun _ => rfl
  | succ count ih =>
    refine (h.cat ih).prefer.fork.congr (fun _ => id) ?_ (fun _ _ => rfl) fun _ => rfl
    rw [Nat.succ_mul]
    omega

theorem oneOrMore (h : Plainly nothing points ways tries) (hreads : ∀ i, ¬ nothing i) :
    Plainly (fun _ => False) (points + 1) (Pattern.oneOrMore greedy points ways)
      fun k => tries (.loop greedy tries k) := by
  obtain ⟨m, h⟩ := h
  refine ⟨⟨m.front, fun n i x => m.back n i x ∨ x = n + points⟩, by grind, by grind, by grind,
    fun {n k k' i P} hP hk => ?_⟩
  refine h.same hP ⟨fun hi => absurd hi (hreads i), fun j P' hj hP' => ?_⟩
  refine h.turns_eq hreads (Nat.le_refl _) (Nat.lt_succ_self _) (by grind)
    ⟨fun _ P'' hP'' => ?_, fun j' P'' hj' hP'' => ?_⟩
  · exact hk.later j P'' hj (by grind)
  · exact hk.later j' P'' (Nat.lt_trans hj' hj) hP''

theorem anyNumber (h : Plainly nothing points ways tries) (hreads : ∀ i, ¬ nothing i)
    (nullable : Bool) : Plainly (fun _ => True) (if nullable then points + 2 else points + 1)
      (Pattern.anyNumber greedy points ways nullable) (.loop greedy tries) := by
  obtain ⟨m, hguided⟩ := id h
  cases nullable with
  | false =>
    refine ⟨⟨fun n i x => m.front n i x ∨ x = n + points,
      fun n i x => m.back n i x ∨ x = n + points⟩,
      by grind, by grind, fun _ _ _ hi => absurd trivial hi, fun hP hk => ?_⟩
    exact hguided.turns_eq hreads (Nat.le_refl _) (Nat.lt_succ_self _) hP hk
  | true =>
    exact (h.oneOrMore hreads).prefer.fork.congr (fun _ => id) (by simp; omega)
      (fun _ _ => rfl) (hguided.loop_eq hreads)

theorem spell (t : Text) : Plainly (fun _ => t = []) 0
    (fun _ k => t.foldr (fun c k => .read (.single c) k) k)
    fun k => t.foldr (fun c k => .read (.single c) k) k := by
  induction t with
  | nil => exact skip.congr (fun _ _ => rfl) rfl (fun _ _ => rfl) fun _ => rfl
  | cons c t ih =>
    exact ((read (.single c)).cat ih).congr (fun _ hi => hi.1.elim) rfl (fun _ _ => rfl)
      fun _ => rfl

end Plainly

theorem times_nothing {matching : Place → Nat → Prop} {count : Nat} {i : Place}
    (h : count = 0 ∨ matching i 0) : Times matching count i 0 := by
  induction count with
  | zero => rfl
  | succ count ih =>
    have hmatch := h.resolve_left (Nat.succ_ne_zero count)
    exact ⟨0, 0, rfl, hmatch, ih (.inr hmatch)⟩

theorem repeated_plainly {p : Pattern} {least : Nat} {most : Option Nat}
    (hp : Plainly (fun i => p.Matches i 0) p.points p.ways p.tries)
    (hreads : most = none → ∀ i, ¬ p.Matches i 0) :
    Plainly (fun i => (repeated least most greedy p).Matches i 0)
      (repeated least most greedy p).points (repeated least most greedy p).ways
      (repeated least most greedy p).tries := by
  cases most with
  | some most =>
    have hnothing : ∀ i, (least = 0 ∨ p.Matches i 0) ∧ True →
        (repeated least (some most) greedy p).Matches i 0 := fun i hi =>
      ⟨least, Nat.le_refl _, fun _ _ => Nat.le_max_left _ _, times_nothing hi.1⟩
    exact (hp.inTurn (hp.atMost (most - least)) least).congr hnothing rfl (fun _ _ => rfl)
      fun _ => rfl
  | none =>
    by_cases hleast : least = 0
    · have hloop : Plainly _ _ (anyNumber greedy p.points p.ways p.isNullable) _ :=
        hp.anyNumber (hreads rfl) p.isNullable
      refine hloop.congr (fun i _ => ?_) ?_ (fun n k => ?_) fun k => ?_
      · exact ⟨0, Nat.le_of_eq hleast, fun m hm => absurd hm (Option.not_mem_none m), rfl⟩
      · rw [Pattern.points, if_pos hleast]
      · rw [Pattern.ways, if_pos hleast]
      · rw [Pattern.tries, hleast]
        rfl
    · have hloop : Plainly _ _ (oneOrMore greedy p.points p.ways) _ := hp.oneOrMore (hreads rfl)
      refine (hp.inTurn hloop (least - 1)).congr (fun i hi => hi.2.elim) ?_ (fun n k => ?_)
        fun k => ?_
      · rw [Pattern.points, if_neg hleast]
      · rw [Pattern.ways, if_neg hleast]
      · obtain ⟨count, rfl⟩ := Nat.exists_eq_succ_of_ne_zero hleast
        exact Plan.times_succ p.tries count _

theorem plainly {p : Pattern} (h : p.LoopsRead) :
    Plainly (fun i => p.Matches i 0) p.points p.ways p.tries := by
  induction p with
  | empty => exact Plainly.skip.congr (fun _ _ => rfl) rfl (fun _ _ => rfl) fun _ => rfl
  | literal t =>
    refine (Plainly.spell t).congr (fun i ht => ?_) rfl (fun _ _ => rfl) fun _ => rfl
    exact ht ▸ ⟨rfl, List.nil_prefix⟩
  | chars u s =>
    exact (Plainly.read s).congr (fun _ => False.elim) rfl (fun _ _ => rfl) fun _ => rfl
  | anchor a =>
    exact (Plainly.check a).congr (fun _ ha => ⟨rfl, ha⟩) rfl (fun _ _ => rfl) fun _ => rfl
  | group index p ih => exact ih h
  | cat p q ihp ihq =>
    exact ((ihp h.1).cat (ihq h.2)).congr (fun i hi => ⟨0, 0, rfl, hi⟩) rfl (fun _ _ => rfl)
      fun _ => rfl
  | alt p q ihp ihq =>
    exact ((ihp h.1).orElse (ihq h.2)).fork.congr (fun _ => id) (by rw [Pattern.points, Nat.add_assoc])
      (fun _ _ => rfl) fun _ => rfl
  | repeated least most greedy p ih => exact repeated_plainly (ih h.1) h.2

/-- Where loops read, the order of preference is that of plain backtracking. -/
theorem matchLengths_eq_tries {p : Pattern} (h : p.LoopsRead) (t : Text) :
    p.matchLengths t = p.tries (fun _ => [0]) ⟨none, t⟩ := by
  obtain ⟨m, hguided⟩ := plainly h
  exact hguided.same nofun ⟨fun _ _ _ => rfl, fun _ _ _ _ => rfl⟩

end Pattern
end Descent
