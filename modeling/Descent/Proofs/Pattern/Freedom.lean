import Descent.Proofs.Pattern.Plain
import Descent.Proofs.Pattern.Routes
import Mathlib.Data.List.Perm.Subperm

/-! # Where every route is free

Plain backtracking tries all routes in their order, if every turn of a loop reads. It comes to the
same matches as the search of the free routes does, and so there are no others. -/
namespace Descent

/-- Wherever what follows lists routes, the plan lists the routes of a course in front of them. The
course reads nothing only at places with `nothing`. -/
structure Enumerates (nothing : Place → Prop) (T : Course) (f : Plan → Plan) : Prop where
  lists : ∀ {k K i}, (nothing i → Lists (k i) (K i)) →
    (∀ j, j.ahead.length < i.ahead.length → Lists (k j) (K j)) → Lists (f k i) ((T.cat K) i)

namespace Enumerates

open Course

variable {nothing nothing' : Place → Prop} {T U K : Course} {f g : Plan → Plan} {k : Plan}
variable {i : Place} {n points : Nat} {greedy : Bool}

theorem congr (h : Enumerates nothing T f) (hnothing : ∀ i, nothing i → nothing' i)
    (hf : ∀ k, g k = f k) : Enumerates nothing' T g where
  lists hhere hlater := by
    rw [hf]
    exact h.lists (fun hi => hhere (hnothing _ hi)) hlater

theorem skip : Enumerates (fun _ => True) Course.nothing fun k => k where
  lists hhere _ := by
    rw [nothing_cat]
    exact hhere trivial

theorem read (s : CharSet) : Enumerates (fun _ => False) (.read s) (.read s) := by
  refine ⟨fun {k K i} _ hlater => ?_⟩
  rw [Plan.read]
  refine Lists.congr ?_ fun w => read_cat_iff
  cases hi : i.ahead with
  | nil =>
    refine .none ?_
    rintro w ⟨v, -, ⟨c, hc, -⟩, -⟩
    cases hc
  | cons c t =>
    have hnext : (i.past 1).ahead.length < i.ahead.length := by simp [Place.past, hi]
    dsimp only
    split
    · rename_i hs
      exact (hlater (i.past 1) hnext).read.congr fun w =>
        exists_congr fun v => and_congr_right fun _ => and_iff_right ⟨c, rfl, hs⟩
    · rename_i hs
      refine .none ?_
      rintro w ⟨v, -, ⟨d, hd, hds⟩, -⟩
      cases hd
      exact hs hds

theorem check (a : Anchor) : Enumerates (fun i => a.holds i.look) (.check a) (.check a) := by
  refine ⟨fun {k K i} hhere _ => ?_⟩
  rw [Plan.check]
  split
  · rename_i ha
    exact (hhere ha).congr fun w => check_cat_iff.trans (and_iff_right ha)
  · rename_i ha
    exact .none fun w hw => ha (check_cat_iff.1 hw).1

theorem cat (hT : Enumerates nothing T f) (hU : Enumerates nothing' U g) :
    Enumerates (fun i => nothing i ∧ nothing' i) (T.cat U) fun k => f (g k) where
  lists hhere hlater := by
    rw [cat_cat]
    refine hT.lists (fun hi => hU.lists (fun hi' => hhere ⟨hi, hi'⟩) hlater) fun j hj => ?_
    exact hU.lists (fun _ => hlater j hj) fun j' hj' => hlater j' (Nat.lt_trans hj' hj)

theorem choose (hT : Enumerates nothing T f) (hU : Enumerates nothing' U g) :
    Enumerates (fun i => nothing i ∨ nothing' i) (.choose n T U)
      fun k => (f k).orElse (g k) where
  lists hhere hlater := by
    rw [choose_cat]
    exact (hT.lists (fun hi => hhere (.inl hi)) hlater).choose n
      (hU.lists (fun hi => hhere (.inr hi)) hlater)

theorem prefer (hT : Enumerates nothing T f) :
    Enumerates (fun _ => True) (.prefer n greedy T Course.nothing)
      fun k => .prefer greedy (f k) k := by
  cases greedy with
  | true => exact (hT.choose skip).congr (fun _ _ => trivial) fun _ => rfl
  | false => exact (skip.choose hT).congr (fun _ _ => trivial) fun _ => rfl

theorem lists_prefer {turn leave : List Nat} (h : Lists turn (T i)) (h' : Lists leave (U i)) :
    Lists (Regex.inOrder greedy turn leave) (Course.prefer n greedy T U i) := by
  cases greedy with
  | true => exact h.choose n h'
  | false => exact h'.choose n h

/-- Where all turns read, there are no more of them than characters. -/
theorem upTo_lists (hT : Enumerates nothing T f) (hreads : ∀ i, ¬ nothing i) {fuel : Nat}
    (hi : i.ahead.length < fuel) (hhere : Lists (k i) (K i))
    (hlater : ∀ j, j.ahead.length < i.ahead.length → Lists (k j) (K j)) :
    Lists (Plan.upTo greedy f fuel k i) (((Course.loop n greedy T).cat K) i) := by
  induction fuel generalizing i with
  | zero => omega
  | succ fuel ih =>
    rw [loop_cat, Plan.upTo, Plan.prefer_apply]
    refine lists_prefer (hT.lists (fun hi => absurd hi (hreads _)) fun j hj => ?_) hhere
    exact ih (by omega) (hlater j hj) fun j' hj' => hlater j' (Nat.lt_trans hj' hj)

theorem loop (hT : Enumerates nothing T f) (hreads : ∀ i, ¬ nothing i) :
    Enumerates (fun _ => True) (.loop n greedy T) (.loop greedy f) where
  lists hhere hlater := hT.upTo_lists hreads (Nat.lt_succ_self _) (hhere trivial) hlater

theorem spell (t : Text) : Enumerates (fun _ => t = []) (.spell t)
    fun k => t.foldr (fun c k => .read (.single c) k) k := by
  induction t with
  | nil => exact skip.congr (fun _ _ => rfl) fun _ => rfl
  | cons c t ih => exact ((read (.single c)).cat ih).congr (fun _ hi => hi.1.elim) fun _ => rfl

/-! ## Repetition -/

variable {body : Nat → Course}

theorem inTurn (h : ∀ n, Enumerates nothing (body n) f) (count n : Nat) :
    Enumerates (fun i => count = 0 ∨ nothing i) (.inTurn points body count n)
      (.times f count) := by
  induction count generalizing n with
  | zero => exact skip.congr (fun _ _ => .inl rfl) fun _ => rfl
  | succ count ih => exact ((h n).cat (ih (n + points))).congr (fun _ hi => .inr hi.1) fun _ => rfl

theorem atMost (h : ∀ n, Enumerates nothing (body n) f) (count n : Nat) :
    Enumerates (fun _ => True) (.atMost greedy points body count n) (.upTo greedy f count) := by
  induction count generalizing n with
  | zero => exact skip
  | succ count ih => exact ((h (n + 1)).cat (ih (n + 1 + points))).prefer

theorem oneOrMore (h : ∀ n, Enumerates nothing (body n) f) (hreads : ∀ i, ¬ nothing i) (n : Nat) :
    Enumerates (fun _ => False) (.oneOrMore greedy points body n)
      fun k => f (.loop greedy f k) :=
  ((h n).cat ((h n).loop hreads)).congr (fun i hi => hreads i hi.1) fun _ => rfl

end Enumerates

namespace Pattern

variable {p : Pattern} {t : Text} {w : Route}

end Pattern
end Descent
