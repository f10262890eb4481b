import Descent.Proofs.Pattern.Meaning

/-! # Routes through a pattern

A route says what is read on the way through a pattern, and which side is taken of each choice. All
routes are compared with one another: at their first difference one takes the side that is preferred
there. A route is free if it reads between any two of its steps at one choice. Matching is a search
for the first of the free routes. -/
namespace Descent

inductive Step where
  | read
  /-- Takes a side of the choice with this number. -/
  | take (choice : Nat) (preferred : Bool)

abbrev Route := List Step

namespace Route

/-- The number of characters that are read. -/
def reads : Route → Nat
  | [] => 0
  | .read :: w => reads w + 1
  | .take _ _ :: w => reads w

/-- At their first difference, the first route takes the preferred side. -/
def Before (v w : Route) : Prop :=
  ∃ u n x y, v = u ++ .take n true :: x ∧ w = u ++ .take n false :: y

/-- Before every step at the choice something is read. -/
def ReadsBefore (n : Nat) (w : Route) : Prop := ∀ v b x, w = v ++ .take n b :: x → .read ∈ v

/-- Between two steps at one choice something is read. -/
def Free (w : Route) : Prop := ∀ u n b x, w = u ++ .take n b :: x → ReadsBefore n x

variable {u v w : Route} {s : Step} {n m : Nat} {b : Bool} {P : List Nat}

theorem reads_append (u v : Route) : reads (u ++ v) = reads u + reads v := by
  fun_induction reads u <;> simp_all [reads, Nat.add_right_comm]

theorem Before.cons (s : Step) (h : Before v w) : Before (s :: v) (s :: w) := by
  obtain ⟨u, n, x, y, rfl, rfl⟩ := h
  exact ⟨s :: u, n, x, y, rfl, rfl⟩

theorem before_take (n : Nat) (v w : Route) : Before (.take n true :: v) (.take n false :: w) :=
  ⟨[], n, v, w, rfl, rfl⟩

theorem Before.asymm (h : Before v w) : ¬ Before w v := by
  obtain ⟨u, n, x, y, rfl, rfl⟩ := h
  rintro ⟨u', n', x', y', hw, hv⟩
  induction u generalizing u' with
  | nil => cases u' <;> grind
  | cons s u ih =>
    cases u' with
    | nil => simp_all
    | cons s' u' => exact ih u' (List.cons.inj hw).2 (List.cons.inj hv).2

/-! ## Free routes step by step -/

/-- The route is free, given the choices that have been made since the last character. -/
def FreeFrom : List Nat → Route → Prop
  | _, [] => True
  | _, .read :: w => FreeFrom [] w
  | P, .take n _ :: w => n ∉ P ∧ FreeFrom (n :: P) w

theorem readsBefore_nil : ReadsBefore n [] := by simp [ReadsBefore]

theorem readsBefore_read : ReadsBefore n (.read :: w) := by
  intro v b x hv
  cases v with
  | nil => cases hv
  | cons s v => exact (List.cons.inj hv).1 ▸ List.mem_cons_self

theorem readsBefore_take : ReadsBefore n (.take m b :: w) ↔ n ≠ m ∧ ReadsBefore n w := by
  constructor
  · intro h
    refine ⟨?_, fun v c x hv => ?_⟩
    · rintro rfl
      exact absurd (h [] b w rfl) List.not_mem_nil
    · have hread := h (.take m b :: v) c x (congrArg (.take m b :: ·) hv)
      exact (List.mem_cons.1 hread).resolve_left nofun
  · rintro ⟨hne, hw⟩ v c x hv
    cases v with
    | nil => exact absurd (Step.take.inj (List.cons.inj hv).1).1.symm hne
    | cons s v => exact List.mem_cons_of_mem s (hw v c x (List.cons.inj hv).2)

theorem free_cons :
    Free (s :: w) ↔ Free w ∧ ∀ n b, s = .take n b → ReadsBefore n w := by
  constructor
  · intro h
    refine ⟨fun u n b x hw => h (s :: u) n b x (congrArg (s :: ·) hw), ?_⟩
    rintro n b rfl
    exact h [] n b w rfl
  · rintro ⟨hw, hs⟩ u n b x hu
    cases u with
    | nil => exact (List.cons.inj hu).2 ▸ hs n b (List.cons.inj hu).1
    | cons s' u => exact hw u n b x (List.cons.inj hu).2

theorem free_read : Free (.read :: w) ↔ Free w := by simp [free_cons]

theorem free_take : Free (.take n b :: w) ↔ Free w ∧ ReadsBefore n w := by simp [free_cons]

theorem freeFrom_iff : FreeFrom P w ↔ Free w ∧ ∀ n ∈ P, ReadsBefore n w := by
  fun_induction FreeFrom P w with
  | case1 => simp [Free, readsBefore_nil]
  | case2 P w ih => simp [ih, free_read, readsBefore_read]
  | case3 P n b w ih =>
    rw [ih, free_take, List.forall_mem_cons]
    simp only [readsBefore_take]
    constructor
    · rintro ⟨hn, hw, hbefore, hpassed⟩
      exact ⟨⟨hw, hbefore⟩, fun m hm => ⟨fun heq => hn (heq ▸ hm), hpassed m hm⟩⟩
    · rintro ⟨⟨hw, hbefore⟩, hpassed⟩
      exact ⟨fun hn => (hpassed n hn).1 rfl, hw, hbefore, fun m hm => (hpassed m hm).2⟩

theorem freeFrom_nil : FreeFrom [] w ↔ Free w := by simp [freeFrom_iff]

end Route

/-! ## Courses -/

/-- The routes that there are from a place on. -/
abbrev Course := Place → Route → Prop

namespace Course

def nothing : Course := fun _ w => w = []

def read (s : CharSet) : Course := fun i w => w = [.read] ∧ ∃ c ∈ i.ahead.head?, s.mem c

def check (a : Anchor) : Course := fun i w => w = [] ∧ a.holds i.look

def cat (T U : Course) : Course := fun i w => ∃ u v, w = u ++ v ∧ T i u ∧ U (i.past u.reads) v

/-- One of two; the first is preferred. -/
def choose (n : Nat) (T U : Course) : Course := fun i w =>
  (∃ v, w = .take n true :: v ∧ T i v) ∨ ∃ v, w = .take n false :: v ∧ U i v

/-- A turn or the way on without it, which is preferred if there is no greed. -/
def prefer (n : Nat) (greedy : Bool) (turn leave : Course) : Course :=
  if greedy then choose n turn leave else choose n leave turn

/-- Any number of turns. Before each, and before the end, there is the same choice. -/
inductive loop (n : Nat) (greedy : Bool) (turn : Course) : Course
  | leave {i : Place} : loop n greedy turn i [.take n (!greedy)]
  | again {i : Place} {u v : Route} : turn i u → loop n greedy turn (i.past u.reads) v →
      loop n greedy turn i (.take n greedy :: (u ++ v))

def spell : Text → Course
  | [] => nothing
  | c :: t => (read (.single c)).cat (spell t)

section Repetition

variable (greedy : Bool) (points : Nat) (body : Nat → Course)

/-- Copies of a part in a row, each with choices of its own from `n` on. -/
def inTurn : Nat → Nat → Course
  | 0, _ => nothing
  | count + 1, n => (body n).cat (inTurn count (n + points))

/-- Up to `count` copies, each of them with the choice to stop before it. -/
def atMost : Nat → Nat → Course
  | 0, _ => nothing
  | count + 1, n => prefer n greedy ((body (n + 1)).cat (atMost count (n + 1 + points))) nothing

/-- A first turn of a loop and then any number of others, which have the same choices. -/
def oneOrMore (n : Nat) : Course := (body n).cat (loop (n + points) greedy (body n))

def anyNumber (nullable : Bool) (n : Nat) : Course :=
  if nullable then prefer n greedy (oneOrMore greedy points body (n + 1)) nothing
  else loop (n + points) greedy (body n)

end Repetition

end Course

namespace Pattern

open Course

/-- The routes through a pattern whose choices are numbered from `n` on. If the empty text can be
the turn of a loop, there is first the choice of making any turn. -/
def routes : Pattern → Nat → Course
  | empty, _ => nothing
  | literal t, _ => spell t
  | chars _ s, _ => Course.read s
  | anchor a, _ => check a
  | group _ p, n => p.routes n
  | cat p q, n => (p.routes n).cat (q.routes (n + p.points))
  | alt p q, n => choose n (p.routes (n + 1)) (q.routes (n + 1 + p.points))
  | repeated least most greedy p, n => match most with
    | some most =>
      (Course.inTurn p.points p.routes least n).cat
        (Course.atMost greedy p.points p.routes (most - least) (n + least * p.points))
    | none =>
      if least = 0 then Course.anyNumber greedy p.points p.routes p.isNullable n
      else (Course.inTurn p.points p.routes (least - 1) n).cat
        (Course.oneOrMore greedy p.points p.routes (n + (least - 1) * p.points))

/-- Of what the pattern matches at the start of a text that is all there is, this is preferred: the
free route that comes before all others reads it. -/
def Prefers (p : Pattern) (s t : Text) : Prop :=
  ∃ w, p.routes 0 ⟨none, s⟩ w ∧ w.Free ∧ s.take w.reads = t ∧
    ∀ w', p.routes 0 ⟨none, s⟩ w' → w'.Free → w' ≠ w → w.Before w'

end Pattern

namespace Course

variable {T U K : Course} {n : Nat} {greedy : Bool}

theorem nothing_cat : nothing.cat K = K := by
  funext i w
  refine propext ⟨?_, fun hw => ⟨[], w, rfl, rfl, hw⟩⟩
  rintro ⟨_, w, rfl, rfl, hw⟩
  exact hw

theorem cat_nothing : T.cat nothing = T := by
  funext i w
  refine propext ⟨?_, fun hw => ⟨w, [], (List.append_nil w).symm, hw, rfl⟩⟩
  rintro ⟨w, _, rfl, hw, rfl⟩
  rwa [List.append_nil]

theorem read_cat_iff {s : CharSet} {i : Place} {w : Route} : ((read s).cat K) i w ↔
    ∃ v, w = .read :: v ∧ (∃ c ∈ i.ahead.head?, s.mem c) ∧ K (i.past 1) v := by
  constructor
  · rintro ⟨_, v, rfl, ⟨rfl, hc⟩, hv⟩
    exact ⟨v, rfl, hc, hv⟩
  · rintro ⟨v, rfl, hc, hv⟩
    exact ⟨[.read], v, rfl, ⟨rfl, hc⟩, hv⟩

theorem check_cat_iff {a : Anchor} {i : Place} {w : Route} :
    ((check a).cat K) i w ↔ a.holds i.look ∧ K i w := by
  constructor
  · rintro ⟨_, v, rfl, ⟨rfl, ha⟩, hv⟩
    exact ⟨ha, hv⟩
  · rintro ⟨ha, hw⟩
    exact ⟨[], w, rfl, ⟨rfl, ha⟩, hw⟩

theorem cat_cat : (T.cat U).cat K = T.cat (U.cat K) := by
  funext i w
  refine propext ⟨?_, ?_⟩
  · rintro ⟨_, z, rfl, ⟨u, v, rfl, hu, hv⟩, hz⟩
    rw [Route.reads_append, ← Place.past_past] at hz
    exact ⟨u, v ++ z, List.append_assoc u v z, hu, v, z, rfl, hv, hz⟩
  · rintro ⟨u, _, rfl, hu, v, z, rfl, hv, hz⟩
    rw [Place.past_past, ← Route.reads_append] at hz
    exact ⟨u ++ v, z, (List.append_assoc u v z).symm, ⟨u, v, rfl, hu, hv⟩, hz⟩

theorem choose_cat : (choose n T U).cat K = choose n (T.cat K) (U.cat K) := by
  funext i w
  refine propext ⟨?_, ?_⟩
  · rintro ⟨_, z, rfl, ⟨v, rfl, hv⟩ | ⟨v, rfl, hv⟩, hz⟩
    · exact .inl ⟨v ++ z, rfl, v, z, rfl, hv, hz⟩
    · exact .inr ⟨v ++ z, rfl, v, z, rfl, hv, hz⟩
  · rintro (⟨_, rfl, v, z, rfl, hv, hz⟩ | ⟨_, rfl, v, z, rfl, hv, hz⟩)
    · exact ⟨.take n true :: v, z, rfl, .inl ⟨v, rfl, hv⟩, hz⟩
    · exact ⟨.take n false :: v, z, rfl, .inr ⟨v, rfl, hv⟩, hz⟩

theorem prefer_cat : (prefer n greedy T U).cat K = prefer n greedy (T.cat K) (U.cat K) := by
  cases greedy with
  | true => exact choose_cat
  | false => exact choose_cat

theorem loop_eq : loop n greedy T = prefer n greedy (T.cat (loop n greedy T)) nothing := by
  funext i w
  refine propext ⟨?_, ?_⟩
  · intro hw
    cases hw with
    | leave =>
      cases greedy with
      | true => exact .inr ⟨[], rfl, rfl⟩
      | false => exact .inl ⟨[], rfl, rfl⟩
    | @again _ u v hu hv =>
      cases greedy with
      | true => exact .inl ⟨u ++ v, rfl, u, v, rfl, hu, hv⟩
      | false => exact .inr ⟨u ++ v, rfl, u, v, rfl, hu, hv⟩
  · intro hw
    cases greedy with
    | true =>
      rcases hw with ⟨_, rfl, u, v, rfl, hu, hv⟩ | ⟨_, rfl, rfl⟩
      · exact .again hu hv
      · exact .leave
    | false =>
      rcases hw with ⟨_, rfl, rfl⟩ | ⟨_, rfl, u, v, rfl, hu, hv⟩
      · exact .leave
      · exact .again hu hv

/-- Another turn, or what follows the loop. -/
theorem loop_cat : (loop n greedy T).cat K =
    prefer n greedy (T.cat ((loop n greedy T).cat K)) K := by
  have hturn : (loop n greedy T).cat K =
      (prefer n greedy (T.cat (loop n greedy T)) nothing).cat K := congrArg (·.cat K) loop_eq
  exact hturn.trans (by rw [prefer_cat, cat_cat, nothing_cat])

end Course

/-! ## Lists of routes -/

/-- The list has the lengths of the routes with the property, the preferred first. -/
def Lists (l : List Nat) (S : Route → Prop) : Prop :=
  ∃ ws : List Route, l = ws.map Route.reads ∧ ws.Pairwise Route.Before ∧ ∀ w, w ∈ ws ↔ S w

namespace Lists

variable {l l' : List Nat} {S S' : Route → Prop}

theorem congr (h : Lists l S) (hS : ∀ w, S' w ↔ S w) : Lists l S' := by
  obtain ⟨ws, hl, hws, hmem⟩ := h
  exact ⟨ws, hl, hws, fun w => (hmem w).trans (hS w).symm⟩

theorem none (h : ∀ w, ¬ S w) : Lists [] S :=
  ⟨[], rfl, .nil, fun w => ⟨fun hw => absurd hw List.not_mem_nil, fun hw => absurd hw (h w)⟩⟩

theorem read (h : Lists l S) : Lists (l.map (· + 1)) fun w => ∃ v, w = .read :: v ∧ S v := by
  obtain ⟨ws, rfl, hws, hmem⟩ := h
  refine ⟨ws.map (.read :: ·), ?_, ?_, fun w => ?_⟩
  · simp [Route.reads, Function.comp_def]
  · exact List.pairwise_map.2 (hws.imp fun h => h.cons .read)
  · simp only [List.mem_map, hmem, and_comm, eq_comm]

/-- All routes by the preferred side come first. -/
theorem choose (n : Nat) (h : Lists l S) (h' : Lists l' S') : Lists (l ++ l') fun w =>
    (∃ v, w = .take n true :: v ∧ S v) ∨ ∃ v, w = .take n false :: v ∧ S' v := by
  obtain ⟨vs, rfl, hvs, hmem⟩ := h
  obtain ⟨ws, rfl, hws, hmem'⟩ := h'
  refine ⟨vs.map (.take n true :: ·) ++ ws.map (.take n false :: ·), ?_, ?_, fun w => ?_⟩
  · simp [Route.reads, Function.comp_def]
  · refine List.pairwise_append.2 ⟨List.pairwise_map.2 (hvs.imp fun h => h.cons _),
      List.pairwise_map.2 (hws.imp fun h => h.cons _), ?_⟩
    intro v hv w hw
    obtain ⟨v, -, rfl⟩ := List.mem_map.1 hv
    obtain ⟨w, -, rfl⟩ := List.mem_map.1 hw
    exact Route.before_take n v w
  · simp only [List.mem_append, List.mem_map, hmem, hmem', and_comm, eq_comm]

/-- What is listed first is the length of the route that comes before all others. -/
theorem head_eq_some_iff (h : Lists l S) {n : Nat} :
    l.head? = some n ↔ ∃ w, S w ∧ w.reads = n ∧ ∀ w', S w' → w' ≠ w → w.Before w' := by
  obtain ⟨ws, rfl, hws, hmem⟩ := h
  cases ws with
  | nil =>
    have hnone : ∀ w, ¬ S w := fun w hw => absurd ((hmem w).2 hw) List.not_mem_nil
    simp [hnone]
  | cons v ws =>
    obtain ⟨hv, -⟩ := List.pairwise_cons.1 hws
    have hfirst : ∀ w, S w → w ≠ v → v.Before w := fun w hw hne =>
      hv w ((List.mem_cons.1 ((hmem w).2 hw)).resolve_left hne)
    constructor
    · intro hn
      exact ⟨v, (hmem v).1 List.mem_cons_self, Option.some.inj hn, hfirst⟩
    · rintro ⟨w, hw, rfl, hbefore⟩
      rcases Classical.em (v = w) with rfl | hne
      · rfl
      · have hwv : w.Before v := hbefore v ((hmem v).1 List.mem_cons_self) hne
        exact absurd (hfirst w hw (Ne.symm hne)) hwv.asymm

end Lists

/-! ## Ways list routes -/

/-- From a place on, ways have the lengths of the free routes, the preferred first. -/
def Way.Lists (k : Way) (K : Course) (i : Place) (P : List Nat) : Prop :=
  Descent.Lists (k i P) fun w => K i w ∧ w.FreeFrom P

/-- Ways list routes wherever a part can hand on to them from a place: there, with at least the same
points passed, or further on. -/
structure Way.ListsFrom (i : Place) (P : List Nat) (k : Way) (K : Course) : Prop where
  here : ∀ P', P ⊆ P' → k.Lists K i P'
  later : ∀ j P', j.ahead.length < i.ahead.length → k.Lists K j P'

namespace Way.ListsFrom

variable {i j : Place} {P P' : List Nat} {k : Way} {K : Course}

theorem mono (h : ListsFrom i P k K) (hP : P ⊆ P') : ListsFrom i P' k K :=
  ⟨fun _ hP' => h.here _ (List.Subset.trans hP hP'), h.later⟩

theorem further (h : ListsFrom i P k K) (hj : j.ahead.length < i.ahead.length) (P' : List Nat) :
    ListsFrom j P' k K :=
  ⟨fun P' _ => h.later j P' hj, fun j' P' hj' => h.later j' P' (Nat.lt_trans hj' hj)⟩

end Way.ListsFrom

/-- What hands on to ways that list routes lists the routes of a course in front of them. -/
structure Follows (T : Course) (ways : Way → Way) : Prop where
  lists : ∀ {k K i P}, Way.ListsFrom i P k K → (ways k).Lists (T.cat K) i P

namespace Follows

open Course

variable {T U K : Course} {f g : Way → Way} {k turn leave : Way} {i : Place} {P : List Nat}
variable {w : Route} {n count points : Nat} {greedy nullable : Bool}

/-! ### One law for each way to put parts together -/

theorem skip : Follows nothing fun k => k where
  lists hk := by
    rw [nothing_cat]
    exact hk.here _ (List.Subset.refl _)

theorem read (s : CharSet) : Follows (.read s) (.read s) := by
  refine ⟨fun {k K i P} hk => ?_⟩
  rw [Way.Lists, Way.read]
  simp only [read_cat_iff]
  cases hi : i.ahead with
  | nil =>
    refine .none ?_
    rintro w ⟨⟨v, -, ⟨c, hc, -⟩, -⟩, -⟩
    cases hc
  | cons c t =>
    have hlater : (i.past 1).ahead.length < i.ahead.length := by simp [Place.past, hi]
    dsimp only
    split
    · rename_i hs
      refine ((hk.later (i.past 1) [] hlater).read).congr fun w => ⟨?_, ?_⟩
      · rintro ⟨⟨v, rfl, -, hv⟩, hfree⟩
        exact ⟨v, rfl, hv, hfree⟩
      · rintro ⟨v, rfl, hv, hfree⟩
        exact ⟨⟨v, rfl, ⟨c, rfl, hs⟩, hv⟩, hfree⟩
    · rename_i hs
      refine .none ?_
      rintro w ⟨⟨v, -, ⟨d, hd, hds⟩, -⟩, -⟩
      cases hd
      exact hs hds

theorem check (a : Anchor) : Follows (.check a) (.check a) := by
  refine ⟨fun {k K i P} hk => ?_⟩
  rw [Way.Lists, Way.check]
  simp only [check_cat_iff]
  split
  · rename_i ha
    exact (hk.here P (List.Subset.refl P)).congr fun w =>
      and_congr_left fun _ => and_iff_right ha
  · rename_i ha
    exact .none fun w hw => ha hw.1.1

theorem cat (hT : Follows T f) (hU : Follows U g) : Follows (T.cat U) fun k => f (g k) where
  lists hk := by
    rw [cat_cat]
    exact hT.lists
      ⟨fun P' hP' => hU.lists (hk.mono hP'), fun j P' hj => hU.lists (hk.further hj P')⟩

theorem spell (t : Text) :
    Follows (.spell t) fun k => t.foldr (fun c k => .read (.single c) k) k := by
  induction t with
  | nil => exact skip
  | cons c t ih => exact (read (.single c)).cat ih

/-- Ways part at a choice unless they have been there. -/
theorem lists_choose (h : turn.Lists T i (n :: P)) (h' : leave.Lists U i (n :: P)) :
    (Way.pass n (turn.orElse leave)).Lists (choose n T U) i P := by
  rw [Way.Lists, Way.pass]
  split
  · rename_i hn
    refine .none ?_
    rintro w ⟨⟨v, rfl, -⟩ | ⟨v, rfl, -⟩, hfree⟩
    · exact hfree.1 hn
    · exact hfree.1 hn
  · rename_i hn
    refine (h.choose n h').congr fun w => ⟨?_, ?_⟩
    · rintro ⟨⟨v, rfl, hv⟩ | ⟨v, rfl, hv⟩, hfree⟩
      · exact .inl ⟨v, rfl, hv, hfree.2⟩
      · exact .inr ⟨v, rfl, hv, hfree.2⟩
    · rintro (⟨v, rfl, hv, hfree⟩ | ⟨v, rfl, hv, hfree⟩)
      · exact ⟨.inl ⟨v, rfl, hv⟩, hn, hfree⟩
      · exact ⟨.inr ⟨v, rfl, hv⟩, hn, hfree⟩

theorem lists_prefer (h : turn.Lists T i (n :: P)) (h' : leave.Lists U i (n :: P)) :
    (Way.pass n (.prefer greedy turn leave)).Lists (prefer n greedy T U) i P := by
  cases greedy with
  | true => exact lists_choose h h'
  | false => exact lists_choose h' h

theorem choose (hT : Follows T f) (hU : Follows U g) :
    Follows (.choose n T U) fun k => .pass n ((f k).orElse (g k)) where
  lists hk := by
    rw [choose_cat]
    exact lists_choose (hT.lists (hk.mono (List.subset_cons_self _ _)))
      (hU.lists (hk.mono (List.subset_cons_self _ _)))

theorem prefer (hT : Follows T f) :
    Follows (.prefer n greedy T nothing) fun k => .pass n (.prefer greedy (f k) k) where
  lists hk := by
    rw [prefer_cat, nothing_cat]
    exact lists_prefer (hT.lists (hk.mono (List.subset_cons_self _ _)))
      (hk.here _ (List.subset_cons_self _ _))

theorem loop_lists_of_mem {l : List Nat} (hn : n ∈ P) (hl : l = []) :
    Lists l fun w => ((loop n greedy T).cat K) i w ∧ w.FreeFrom P := by
  rw [loop_cat, hl]
  refine .none ?_
  cases greedy with
  | true =>
    rintro _ ⟨⟨v, rfl, -⟩ | ⟨v, rfl, -⟩, hfree⟩
    · exact hfree.1 hn
    · exact hfree.1 hn
  | false =>
    rintro _ ⟨⟨v, rfl, -⟩ | ⟨v, rfl, -⟩, hfree⟩
    · exact hfree.1 hn
    · exact hfree.1 hn

/-- A turn that comes back to its choice on a free route has read, so with as many turns as there
are characters all free routes of a loop are listed. -/
theorem turns (hT : Follows T f) {fuel : Nat} (hi : i.ahead.length ≤ fuel)
    (hk : Way.ListsFrom i P k K) :
    (Way.turns greedy n f k fuel).Lists ((loop n greedy T).cat K) i P := by
  induction fuel generalizing i P with
  | zero =>
    rw [Way.turns, loop_cat]
    refine lists_prefer (hT.lists ⟨fun P' hP' => ?_, fun j P' hj => by omega⟩)
      (hk.here _ (List.subset_cons_self _ _))
    exact loop_lists_of_mem (hP' List.mem_cons_self) rfl
  | succ fuel ih =>
    rw [Way.turns, loop_cat]
    refine lists_prefer (hT.lists ⟨fun P' hP' => ?_, fun j P' hj => ?_⟩)
      (hk.here _ (List.subset_cons_self _ _))
    · have hn : n ∈ P' := hP' List.mem_cons_self
      refine loop_lists_of_mem hn ?_
      cases fuel <;> exact if_pos hn
    · exact ih (by omega) (hk.further hj P')

theorem loop (hT : Follows T f) : Follows (.loop n greedy T) (.loop greedy n f) :=
  ⟨fun hk => hT.turns (Nat.le_refl _) hk⟩

/-! ### Repetition -/

variable {body : Nat → Course} {ways : Nat → Way → Way}

theorem inTurn (h : ∀ n, Follows (body n) (ways n)) (count n : Nat) :
    Follows (.inTurn points body count n) (Pattern.inTurn points ways count n) := by
  induction count generalizing n with
  | zero => exact skip
  | succ count ih => exact (h n).cat (ih (n + points))

theorem atMost (h : ∀ n, Follows (body n) (ways n)) (count n : Nat) :
    Follows (.atMost greedy points body count n) (Pattern.atMost greedy points ways count n) := by
  induction count generalizing n with
  | zero => exact skip
  | succ count ih => exact ((h (n + 1)).cat (ih (n + 1 + points))).prefer

theorem oneOrMore (h : ∀ n, Follows (body n) (ways n)) (n : Nat) :
    Follows (.oneOrMore greedy points body n) (Pattern.oneOrMore greedy points ways n) :=
  (h n).cat (h n).loop

theorem anyNumber (h : ∀ n, Follows (body n) (ways n)) (nullable : Bool) (n : Nat) :
    Follows (.anyNumber greedy points body nullable n)
      (Pattern.anyNumber greedy points ways nullable n) := by
  cases nullable with
  | true => exact (oneOrMore h (n + 1)).prefer
  | false => exact (h n).loop

end Follows

namespace Pattern

theorem follows (p : Pattern) (n : Nat) : Follows (p.routes n) (p.ways n) := by
  induction p generalizing n with
  | empty => exact .skip
  | literal t => exact .spell t
  | chars u s => exact .read s
  | anchor a => exact .check a
  | group index p ih => exact ih n
  | cat p q ihp ihq => exact (ihp n).cat (ihq _)
  | alt p q ihp ihq => exact (ihp (n + 1)).choose (ihq _)
  | repeated least most greedy p ih =>
    cases most with
    | some most => exact (Follows.inTurn ih least n).cat (.atMost ih (most - least) _)
    | none =>
      change Follows _ fun k => (repeated least none greedy p).ways n k
      by_cases hleast : least = 0
      · simp only [routes, ways, if_pos hleast]
        exact .anyNumber ih p.isNullable n
      · simp only [routes, ways, if_neg hleast]
        exact (Follows.inTurn ih (least - 1) n).cat (.oneOrMore ih _)

theorem lists_matchLengths (p : Pattern) (t : Text) :
    Lists (p.matchLengths t) fun w => p.routes 0 ⟨none, t⟩ w ∧ w.Free := by
  have hend : ∀ i P, Way.Lists (fun _ _ => [0]) Course.nothing i P := fun i P =>
    ⟨[[]], rfl, List.pairwise_singleton _ _, fun w => by
      rw [List.mem_singleton]
      exact ⟨fun hw => ⟨hw, hw ▸ trivial⟩, fun hw => hw.1⟩⟩
  have hall := (p.follows 0).lists (i := ⟨none, t⟩) (P := [])
    ⟨fun P' _ => hend _ P', fun j P' _ => hend j P'⟩
  rw [Course.cat_nothing] at hall
  exact hall.congr fun w => and_congr_right fun _ => Route.freeFrom_nil.symm

theorem prefers_iff {p : Pattern} {s t : Text} :
    p.Prefers s t ↔ (p.prefixes s).head? = some t := by
  rw [prefixes, List.head?_map, Option.map_eq_some_iff]
  simp only [(lists_matchLengths p s).head_eq_some_iff]
  constructor
  · rintro ⟨w, hw, hfree, ht, hfirst⟩
    exact ⟨w.reads, ⟨w, ⟨hw, hfree⟩, rfl, fun w' hw' => hfirst w' hw'.1 hw'.2⟩, ht⟩
  · rintro ⟨_, ⟨w, ⟨hw, hfree⟩, rfl, hfirst⟩, ht⟩
    exact ⟨w, hw, hfree, ht, fun w' hw' hfree' => hfirst w' ⟨hw', hfree'⟩⟩

end Pattern
end Descent
