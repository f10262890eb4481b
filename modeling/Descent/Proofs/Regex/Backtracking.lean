import Descent.Proofs.Regex.Matches

/-! # Matching by backtracking

The matches of an expression in order of preference, said by what is tried after what: each part
hands on the places it comes to, one after the other. Points at which ways part or turn are
numbered, and no way passes a point twice between two characters. -/
namespace Descent

/-- The numbers of characters that can be matched from a place on, the preferred first, given the
points that have been passed since the last character. -/
abbrev Way := Place → List Nat → List Nat

namespace Way

/-- Passes a point, unless the way has been there. -/
def pass (point : Nat) (k : Way) : Way := fun i passed =>
  if point ∈ passed then [] else k i (point :: passed)

/-- Reads one character of a set; after it, all points may be passed again. -/
def read (s : CharSet) (k : Way) : Way := fun i _ =>
  match i.ahead with
  | [] => []
  | c :: _ => if s.mem c then (k (i.past 1) []).map (· + 1) else []

def check (a : Anchor) (k : Way) : Way := fun i passed => if a.holds i.look then k i passed else []

/-- The ways of one before those of the other. -/
def orElse (k k' : Way) : Way := fun i passed => k i passed ++ k' i passed

/-- Another turn, or the way on without it; which is preferred depends on the greed. -/
def prefer (greedy : Bool) (turn leave : Way) : Way :=
  if greedy then turn.orElse leave else leave.orElse turn

theorem prefer_apply (greedy : Bool) (turn leave : Way) (i : Place) (P : List Nat) :
    prefer greedy turn leave i P = Regex.inOrder greedy (turn i P) (leave i P) := by
  cases greedy <;> rfl

/-- Turns of a loop, and the way on after each; the loop passes its point at every turn. A turn that
reads nothing does not come past it again, so there are no more turns than characters. -/
def turns (greedy : Bool) (point : Nat) (body : Way → Way) (k : Way) : Nat → Way
  | 0 => pass point (prefer greedy (body fun _ _ => []) k)
  | fuel + 1 => pass point (prefer greedy (body (turns greedy point body k fuel)) k)

def loop (greedy : Bool) (point : Nat) (body : Way → Way) (k : Way) : Way := fun i passed =>
  turns greedy point body k i.ahead.length i passed

end Way

namespace Regex

def ways : Regex → Way → Way
  | empty, k => k
  | chars s, k => .read s k
  | anchor a, k => .check a k
  | once label, k => .pass label k
  | cat a b, k => a.ways (b.ways k)
  | alt a b, k => (a.ways k).orElse (b.ways k)
  | again label greedy a, k => .loop greedy label a.ways k

/-- The lengths of the matches that a move before the given text begins. -/
def Move.lengths (t : Text) : Move → List Nat
  | .stop => [0]
  | .read s rest => match t with
    | [] => []
    | c :: t => if s.mem c then (Regex.lengths rest (some c) t).map (· + 1) else []

/-- The ways of a thread, as the moves at their ends tell them. -/
def threadWays (th : Thread) : Way := fun i passed =>
  (threadPaths i.look th passed).flatMap (Move.lengths i.ahead)

theorem lengths_eq (th : Thread) (b : Option Char) (t : Text) :
    lengths th b t = threadWays th ⟨b, t⟩ [] := by
  cases t with
  | nil =>
    rw [lengths, threadWays]
    refine congrArg (fun g => List.flatMap g _) (funext fun m => ?_)
    cases m <;> rfl
  | cons c t =>
    rw [lengths, threadWays]
    refine congrArg (fun g => List.flatMap g _) (funext fun m => ?_)
    cases m <;> rfl

variable {r : Regex} {k k' : Way} {i : Place} {P : List Nat} {rest : Thread}

/-- Two ways on do the same wherever an expression can hand on to them from a place: there, with at
least the same points passed, or further on. -/
def SameFrom (i : Place) (P : List Nat) (k k' : Way) : Prop :=
  (∀ P', P ⊆ P' → k i P' = k' i P') ∧
    ∀ j P', j.ahead.length < i.ahead.length → k j P' = k' j P'

theorem SameFrom.mono {P' : List Nat} (h : SameFrom i P k k') (hP : P ⊆ P') :
    SameFrom i P' k k' :=
  ⟨fun _ hP' => h.1 _ (List.Subset.trans hP hP'), h.2⟩

theorem SameFrom.later {j : Place} (h : SameFrom i P k k')
    (hj : j.ahead.length < i.ahead.length) (P' : List Nat) : SameFrom j P' k k' :=
  ⟨fun P' _ => h.2 j P' hj, fun j' P' hj' => h.2 j' P' (Nat.lt_trans hj' hj)⟩

theorem turns_congr {greedy : Bool} {point : Nat} {body : Way → Way} (fuel : Nat)
    (hbody : ∀ {k k' : Way} {i : Place} {P : List Nat},
      SameFrom i P k k' → body k i P = body k' i P)
    (h : SameFrom i P k k') :
    Way.turns greedy point body k fuel i P = Way.turns greedy point body k' fuel i P := by
  induction fuel generalizing i P with
  | zero =>
    rw [Way.turns, Way.turns, Way.pass, Way.pass, Way.prefer_apply, Way.prefer_apply,
      h.1 _ (List.subset_cons_self _ _)]
  | succ fuel ih =>
    have hturn : body (Way.turns greedy point body k fuel) i (point :: P) =
        body (Way.turns greedy point body k' fuel) i (point :: P) :=
      hbody ⟨fun P' hP => ih (h.mono (List.Subset.trans (List.subset_cons_self _ _) hP)),
        fun j P' hj => ih (h.later hj P')⟩
    rw [Way.turns, Way.turns, Way.pass, Way.pass, Way.prefer_apply, Way.prefer_apply,
      h.1 _ (List.subset_cons_self _ _), hturn]

theorem ways_congr (h : SameFrom i P k k') : r.ways k i P = r.ways k' i P := by
  induction r generalizing k k' i P with
  | empty => exact h.1 P (List.Subset.refl P)
  | chars s =>
    rw [ways, ways, Way.read, Way.read]
    cases hi : i.ahead with
    | nil => rfl
    | cons c t =>
      have hlater : (i.past 1).ahead.length < i.ahead.length := by simp [Place.past, hi]
      rw [h.2 _ _ hlater]
  | anchor a => rw [ways, ways, Way.check, Way.check, h.1 P (List.Subset.refl P)]
  | once label => rw [ways, ways, Way.pass, Way.pass, h.1 _ (List.subset_cons_self _ _)]
  | cat a b iha ihb =>
    exact iha ⟨fun P' hP => ihb (h.mono hP), fun j P' hj => ihb (h.later hj P')⟩
  | alt a b iha ihb => rw [ways, ways, Way.orElse, Way.orElse, iha h, ihb h]
  | again label greedy a ih => exact turns_congr _ (fun h => ih h) h

/-! ## The ways of threads -/

theorem threadWays_alt {a b : Regex} :
    threadWays (alt a b :: rest) = (threadWays (a :: rest)).orElse (threadWays (b :: rest)) := by
  funext i P
  exact List.flatMap_append

theorem threadWays_once {label : Nat} :
    threadWays (once label :: rest) = .pass label (threadWays rest) := by
  funext i P
  rw [Way.pass, threadWays, threadPaths, paths]
  split <;> rfl

theorem threadWays_anchor {a : Anchor} :
    threadWays (anchor a :: rest) = .check a (threadWays rest) := by
  funext i P
  rw [Way.check, threadWays, threadPaths, paths]
  split <;> rfl

theorem threadWays_chars {s : CharSet} :
    threadWays (chars s :: rest) = .read s (threadWays rest) := by
  funext i P
  rw [Way.read, threadWays, threadPaths, paths, List.flatMap_singleton]
  cases hi : i.ahead with
  | nil => rfl
  | cons c t => simp only [Move.lengths, lengths_eq, Place.past_one hi]

theorem threadWays_again_of_mem {label : Nat} {greedy : Bool} {a : Regex} (h : label ∈ P) :
    threadWays (again label greedy a :: rest) i P = [] := by
  rw [threadWays, threadPaths_again_of_mem h]
  rfl

theorem threadWays_again {label : Nat} {greedy : Bool} {a : Regex} :
    threadWays (again label greedy a :: rest) =
      .pass label (.prefer greedy (threadWays (a :: again label greedy a :: rest))
        (threadWays rest)) := by
  funext i P
  rw [Way.pass, threadWays, threadPaths, paths]
  split
  · rfl
  · -- behind an empty turn the loop is closed, as if nothing followed
    have hends : threadPaths i.look (a :: again label greedy a :: rest) (label :: P) =
        paths i.look a (again label greedy a :: rest) (fun _ => []) (label :: P) :=
      paths_congr fun P hP => threadPaths_again_of_mem (hP List.mem_cons_self)
    rw [Way.prefer_apply, threadWays, hends]
    cases greedy with
    | true => exact List.flatMap_append
    | false => exact List.flatMap_append

/-- With at least as many turns as characters left, all turns of a loop are there. -/
theorem turns_threadWays {label : Nat} {greedy : Bool} {a : Regex}
    (ha : ∀ rest, a.ways (threadWays rest) = threadWays (a :: rest)) {fuel : Nat}
    (hi : i.ahead.length ≤ fuel) :
    Way.turns greedy label a.ways (threadWays rest) fuel i P =
      threadWays (again label greedy a :: rest) i P := by
  induction fuel generalizing i P with
  | zero =>
    have hsame : SameFrom i (label :: P) (fun _ _ => [])
        (threadWays (again label greedy a :: rest)) :=
      ⟨fun P' hP => (threadWays_again_of_mem (hP List.mem_cons_self)).symm, fun _ _ hj => by omega⟩
    rw [threadWays_again, ← ha, Way.turns, Way.pass, Way.pass, Way.prefer_apply, Way.prefer_apply,
      ways_congr hsame]
  | succ fuel ih =>
    have hsame : SameFrom i (label :: P) (Way.turns greedy label a.ways (threadWays rest) fuel)
        (threadWays (again label greedy a :: rest)) := by
      refine ⟨fun P' hP => ?_, fun j P' hj => ih (by omega)⟩
      have hpassed := hP List.mem_cons_self
      rw [threadWays_again_of_mem hpassed]
      cases fuel <;> exact if_pos hpassed
    rw [threadWays_again, ← ha, Way.turns, Way.pass, Way.pass, Way.prefer_apply, Way.prefer_apply,
      ways_congr hsame]

/-- An expression hands on to the ways of what follows it. -/
theorem ways_threadWays (r : Regex) (rest : Thread) :
    r.ways (threadWays rest) = threadWays (r :: rest) := by
  induction r generalizing rest with
  | empty => rfl
  | chars s => exact threadWays_chars.symm
  | anchor a => exact threadWays_anchor.symm
  | once label => exact threadWays_once.symm
  | cat a b iha ihb =>
    rw [ways, ihb, iha]
    rfl
  | alt a b iha ihb => rw [ways, iha, ihb, threadWays_alt]
  | again label greedy a ih =>
    funext i P
    exact turns_threadWays ih (Nat.le_refl _)

theorem lengths_eq_ways (r : Regex) (b : Option Char) (t : Text) :
    lengths [r] b t = r.ways (fun _ _ => [0]) ⟨b, t⟩ [] := by
  rw [lengths_eq, ← ways_threadWays]
  rfl

end Regex
end Descent
