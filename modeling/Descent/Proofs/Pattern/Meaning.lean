import Descent.Pattern.Basic
import Descent.Proofs.Regex.Backtracking

/-! # What a pattern means

Which characters a pattern matches, and which of its matches are preferred, said of its syntax
tree. -/
namespace Descent

namespace Pattern

/-- The pattern matches the next `n` characters. -/
def Matches : Pattern → Place → Nat → Prop
  | empty, _, n => n = 0
  | literal t, i, n => n = t.length ∧ t <+: i.ahead
  | chars _ s, i, n => n = 1 ∧ ∃ c ∈ i.ahead.head?, s.mem c
  | anchor a, i, n => n = 0 ∧ a.holds i.look
  | group _ p, i, n => p.Matches i n
  | cat p q, i, n => ∃ m k, n = m + k ∧ p.Matches i m ∧ q.Matches (i.past m) k
  | alt p q, i, n => p.Matches i n ∨ q.Matches i n
  | repeated least most _ p, i, n =>
    ∃ times, least ≤ times ∧ (∀ m ∈ most, times ≤ max least m) ∧ Times p.Matches times i n

theorem Matches.le_length {p : Pattern} {i : Place} {n : Nat} (h : p.Matches i n) :
    n ≤ i.ahead.length := by
  induction p generalizing i n with
  | empty => exact h ▸ Nat.zero_le _
  | literal t => exact h.1 ▸ h.2.length_le
  | chars u s =>
    obtain ⟨rfl, c, hc, -⟩ := h
    exact List.length_pos_of_mem (List.mem_of_mem_head? hc)
  | anchor a => exact h.1 ▸ Nat.zero_le _
  | group index p ih => exact ih h
  | cat p q ihp ihq =>
    obtain ⟨m, k, rfl, hm, hk⟩ := h
    have hleft := ihp hm
    have hright := ihq hk
    simp only [Place.past, List.length_drop] at hright
    omega
  | alt p q ihp ihq => exact h.elim ihp ihq
  | repeated least most greedy p ih =>
    obtain ⟨times, -, -, h⟩ := h
    induction times generalizing i n with
    | zero => exact h ▸ Nat.zero_le _
    | succ times ihtimes =>
      obtain ⟨m, k, rfl, hm, hk⟩ := h
      have hleft := ih hm
      have hright := ihtimes hk
      simp only [Place.past, List.length_drop] at hright
      omega

/-! ## Order of preference -/

theorem add_succ_mul (n count points : Nat) :
    n + (count + 1) * points = n + points + count * points := by
  rw [Nat.succ_mul, Nat.add_comm (count * points), Nat.add_assoc]

section Order

variable (greedy : Bool) (points : Nat) (body : Nat → Way → Way)

/-- Copies of a part in a row, each with points of its own from `n` on. -/
def inTurn : Nat → Nat → Way → Way
  | 0, _, k => k
  | count + 1, n, k => body n (inTurn count (n + points) k)

/-- Up to `count` copies. At each there is the choice to go on without it and those behind it. -/
def atMost : Nat → Nat → Way → Way
  | 0, _, k => k
  | count + 1, n, k =>
    .pass n (.prefer greedy (body (n + 1) (atMost count (n + 1 + points) k)) k)

/-- A first turn of a loop and then any number of others, which come by the same points. -/
def oneOrMore (n : Nat) (k : Way) : Way := body n (.loop greedy (n + points) (body n) k)

/-- Any number of turns. If the empty text can be a turn, there is first the choice of making
any. -/
def anyNumber (nullable : Bool) (n : Nat) (k : Way) : Way :=
  if nullable then .pass n (.prefer greedy (oneOrMore greedy points body (n + 1) k) k)
  else .loop greedy (n + points) (body n) k

end Order

/-- How many points there are in a pattern at which ways part. -/
def points : Pattern → Nat
  | empty => 0
  | literal _ => 0
  | chars _ _ => 0
  | anchor _ => 0
  | group _ p => p.points
  | cat p q => p.points + q.points
  | alt p q => 1 + p.points + q.points
  | repeated least most _ p => match most with
    | some most =>
      least * p.points + (most - least) * (1 + p.points)
    | none =>
      if least = 0 then (if p.isNullable then p.points + 2 else p.points + 1)
      else (least - 1) * p.points + (p.points + 1)

/-- The ways through a pattern whose points are numbered from `n` on, in the order of preference:
the first branch of a choice before the second, more turns of a greedy repetition before fewer, and
fewer before more if it is lazy. -/
def ways : Pattern → Nat → Way → Way
  | empty, _, k => k
  | literal t, _, k => t.foldr (fun c k => .read (.single c) k) k
  | chars _ s, _, k => .read s k
  | anchor a, _, k => .check a k
  | group _ p, n, k => p.ways n k
  | cat p q, n, k => p.ways n (q.ways (n + p.points) k)
  | alt p q, n, k => .pass n ((p.ways (n + 1) k).orElse (q.ways (n + 1 + p.points) k))
  | repeated least most greedy p, n, k => match most with
    | some most =>
      inTurn p.points p.ways least n
        (atMost greedy p.points p.ways (most - least) (n + least * p.points) k)
    | none =>
      if least = 0 then anyNumber greedy p.points p.ways p.isNullable n k
      else inTurn p.points p.ways (least - 1) n
        (oneOrMore greedy p.points p.ways (n + (least - 1) * p.points) k)

/-- The numbers of characters that a pattern matches at the start of a text, the preferred first. -/
def matchLengths (p : Pattern) (t : Text) : List Nat := p.ways 0 (fun _ _ => [0]) ⟨none, t⟩ []

/-- What the pattern matches at the start of a text that is all there is, the preferred first. -/
def prefixes (p : Pattern) (t : Text) : List Text := (p.matchLengths t).map t.take

end Pattern

end Descent
