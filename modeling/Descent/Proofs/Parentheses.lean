import Descent.Proofs.Blanks
import Descent.Vocabulary.Mapping
import Mathlib.Data.List.TakeWhile

/-! # Nested parentheses

A rule that calls itself between parentheses counts how deep they are nested. It takes as many
closing parentheses as there are opening ones. If there are not enough, every level fails that has
been entered, and nothing is taken. -/
namespace Descent

open Unicode (isWhiteSpace)

namespace Text

/-- The text without its white space. -/
def visible (t : Text) : Text := t.filter (!isWhiteSpace ·)

/-- The number of parentheses that are opened at the start. -/
def openings (t : Text) : Nat := ((visible t).takeWhile (· == '(')).length

/-- The number of parentheses that are closed right after those. -/
def closings (t : Text) : Nat := (((visible t).dropWhile (· == '(')).takeWhile (· == ')')).length

variable {t v : Text} {k : Nat}

theorem visible_eq_openings (t : Text) :
    visible t = List.replicate (openings t) '(' ++ (visible t).dropWhile (· == '(') := by
  have hopenings : (visible t).takeWhile (· == '(') = List.replicate (openings t) '(' :=
    List.eq_replicate_of_mem fun x hx =>
      eq_of_beq (List.mem_takeWhile_imp (p := (· == '(')) hx)
  rw [← hopenings, List.takeWhile_append_dropWhile]

theorem replicate_prefix_iff {x : Char} :
    List.replicate k x <+: t ↔ k ≤ (t.takeWhile (· == x)).length := by
  induction k generalizing t with
  | zero => exact iff_of_true List.nil_prefix (Nat.zero_le _)
  | succ k ih =>
    cases t with
    | nil => simp [List.replicate_succ]
    | cons y t =>
      rw [List.replicate_succ, List.cons_prefix_cons, ih, List.takeWhile_cons]
      by_cases hy : y = x
      · simp [hy]
      · simp [hy, Ne.symm hy]

theorem visible_cons_blank {x : Char} (hx : isWhiteSpace x = true) :
    visible (x :: t) = visible t :=
  List.filter_cons_of_neg (by simp [hx])

theorem visible_cons {x : Char} (hx : isWhiteSpace x = false) :
    visible (x :: t) = x :: visible t :=
  List.filter_cons_of_pos (by simp [hx])

theorem visible_dropWhile (t : Text) : visible (t.dropWhile isWhiteSpace) = visible t := by
  induction t with
  | nil => rfl
  | cons x t ih =>
    cases hx : isWhiteSpace x with
    | true => rw [List.dropWhile_cons_of_pos hx, ih, visible_cons_blank hx]
    | false => rw [List.dropWhile_cons_of_neg (by simp [hx])]

theorem head?_dropWhile_blank (t : Text) :
    (t.dropWhile isWhiteSpace).head? = (visible t).head? := by
  induction t with
  | nil => rfl
  | cons x t ih =>
    cases hx : isWhiteSpace x with
    | true => rw [List.dropWhile_cons_of_pos hx, ih, visible_cons_blank hx]
    | false =>
      rw [List.dropWhile_cons_of_neg (by simp [hx]), visible_cons hx]
      rfl

theorem replicate_succ_prefix_iff {x : Char} :
    List.replicate (k + 1) x <+: List.replicate k x ++ v ↔ v.head? = some x := by
  rw [List.replicate_succ', List.prefix_append_right_inj, List.head?_eq_some_iff]
  exact exists_congr fun t => eq_comm

theorem count_blank (t : Text) : (t.takeWhile isWhiteSpace).count ')' = 0 := by
  refine List.count_eq_zero.2 fun h => ?_
  have hblank := List.mem_takeWhile_imp h
  revert hblank
  decide

end Text

namespace Cursor

open Text

/-- The cursor after the next character that is not white. -/
def afterNext (c : Cursor) : Cursor := c.skipped.past 1

variable {c : Cursor} {x : Char} {v : Text}

theorem visible_skipped (hc : c.skip = some .whiteSpace) :
    visible c.skipped.ahead = visible c.ahead := by
  rw [skipped_ahead_whiteSpace hc, visible_dropWhile]

theorem prefix_visible_iff (hc : c.skip = some .whiteSpace) :
    [x] <+: c.skipped.ahead ↔ (visible c.ahead).head? = some x := by
  rw [prefix_skipped_iff hc, head?_dropWhile_blank]

theorem skipped_ahead_eq (hc : c.skip = some .whiteSpace) (h : visible c.ahead = x :: v) :
    ∃ t, c.skipped.ahead = x :: t ∧ visible t = v := by
  obtain ⟨t, ht⟩ := (prefix_visible_iff hc).2 (congrArg List.head? h)
  have hx : isWhiteSpace x = false := by
    have hmem : x ∈ visible c.ahead := h ▸ List.mem_cons_self
    simpa using List.of_mem_filter hmem
  rw [← visible_skipped hc, ← ht, List.singleton_append, visible_cons hx] at h
  exact ⟨t, ht.symm, (List.cons.inj h).2⟩

theorem visible_afterNext (hc : c.skip = some .whiteSpace) (h : visible c.ahead = x :: v) :
    visible c.afterNext.ahead = v := by
  obtain ⟨t, ht, hv⟩ := skipped_ahead_eq hc h
  rw [afterNext, past_ahead, ht]
  exact hv

theorem afterNext_behind (hc : c.skip = some .whiteSpace) (h : visible c.ahead = x :: v) :
    c.afterNext.behind = c.behind ++ c.ahead.takeWhile isWhiteSpace ++ [x] := by
  obtain ⟨t, ht, -⟩ := skipped_ahead_eq hc h
  rw [← skipped_behind_whiteSpace hc]
  exact congrArg (c.skipped.behind ++ ·.take 1) ht

theorem afterNext_source (c : Cursor) : c.afterNext.source = c.source := by
  rw [afterNext, past_source, skipped, past_source]

/-- Up to the cursor `r`, parentheses have been closed `k` times, the last time right before it. -/
structure Closes (c r : Cursor) (k : Nat) : Prop where
  skip : r.skip = c.skip
  source : r.source = c.source
  count : r.behind.count ')' = c.behind.count ')' + k
  last : k ≠ 0 → r.behind.getLast? = some ')'

theorem closes_skipped (hc : c.skip = some .whiteSpace) : c.Closes c.skipped 0 where
  skip := rfl
  source := past_source c _
  count := by rw [skipped_behind_whiteSpace hc, List.count_append, count_blank]
  last h := absurd rfl h

/-- One more pair around those that are closed. -/
theorem Closes.around {r : Cursor} {k : Nat} {u : Text} (hc : c.skip = some .whiteSpace)
    (hopen : visible c.ahead = '(' :: u) (h : c.afterNext.Closes r k)
    (hclose : visible r.ahead = ')' :: v) : c.Closes r.afterNext (k + 1) where
  skip := h.skip
  source := by rw [afterNext_source, h.source, afterNext_source]
  count := by
    have hcount := h.count
    rw [afterNext_behind hc hopen] at hcount
    rw [afterNext_behind (h.skip.trans hc) hclose]
    simp [count_blank] at hcount ⊢
    omega
  last _ := by
    rw [afterNext_behind (h.skip.trans hc) hclose]
    exact List.getLast?_concat

end Cursor

namespace Grammar

open Text

/-- Parentheses around a rule, one deeper than it, or none. -/
def parens (name : String) : Grammar :=
  shared (either (map (Mapping.add 1) (between (literal ['(']) (rule name) (literal [')'])))
    (success (.int 0)))

/-- What the rule returns where `k` parentheses are opened before the visible text `u`: either they
are all closed, or it takes nothing. -/
inductive Nested (rules : Rules) (name : String) (c : Cursor) (k : Nat) (u : Text) : Prop where
  | closed (r : Cursor) : u = List.replicate k ')' ++ visible r.ahead → c.Closes r k →
    (parens name).Returns rules .parse c (.success (.int (Int64.ofNat k)) r) →
      Nested rules name c k u
  | unclosed : ¬ List.replicate k ')' <+: u →
    (parens name).Returns rules .parse c (.success (.int 0) c.skipped) → Nested rules name c k u

section Run

variable {rules : Rules} {name : String} {c d r : Cursor} {k : Nat} {n : Int64} {x : Char}
variable {u v : Text} {w : Value} {e : Failure}

theorem literal_reads (rules : Rules) (hc : c.skip = some .whiteSpace)
    (h : visible c.ahead = x :: v) :
    (literal [x]).Returns rules .parse c (.success (.text [x]) c.afterNext) := by
  have hnext : (c.ahead.dropWhile isWhiteSpace).head? = some x := by
    rw [head?_dropWhile_blank, h]
    rfl
  exact literal_yields_of_next rules hc hnext

theorem literal_misses (rules : Rules) (hc : c.skip = some .whiteSpace)
    (h : (visible c.ahead).head? ≠ some x) : (literal [x]).Fails rules c := by
  rw [← head?_dropWhile_blank] at h
  exact literal_fails rules hc h

/-- The rule stands for itself. -/
theorem rule_parses (hrule : rules name = parens name) {o : Outcome}
    (h : (parens name).Returns rules .parse c o) (hc : c.Steady) :
    (rule name).Returns rules .parse c o :=
  returns_parse.2 (.rule (hrule ▸ (returns_parse_skipped hc).2 h))

/-- If there are no parentheses around the rule, nothing is taken. -/
theorem parens_none (hd : d.skipped = d)
    (h : (between (literal ['(']) (rule name) (literal [')'])).Returns rules .apply d
      (.failure e)) :
    (parens name).Returns rules .apply d (.success (.int 0) d) := by
  have hmap := Returns.map (Mapping.add 1) ((returns_parse_settled hd).2 h)
  have hsuccess : (success (.int 0)).Returns rules .apply d (.success (.int 0) d) :=
    returns_success_iff.2 rfl
  exact .shared (.either_right ((returns_parse_settled hd).2 hmap)
    ((returns_parse_settled hd).2 hsuccess))

theorem parens_unopened (hc : c.skip = some .whiteSpace)
    (h : (visible c.ahead).head? ≠ some '(') :
    (parens name).Returns rules .parse c (.success (.int 0) c.skipped) := by
  have hsteady := Cursor.steady_whiteSpace hc
  obtain ⟨e, he⟩ := literal_misses rules hc h
  have hopen := (returns_parse_skipped hsteady).2 he
  have hright := Returns.keepRight_fails (b := rule name) hopen
  have hbetween := (returns_parse_settled hsteady.skipped_skipped).2 hright
  exact returns_parse.2 (parens_none hsteady.skipped_skipped (.keepLeft_fails hbetween))

/-- The failure of a parenthesis that is not closed takes back what is in front of it. -/
theorem parens_unclosed (hrule : rules name = parens name) (hc : c.skip = some .whiteSpace)
    (hopen : visible c.ahead = '(' :: v)
    (hinner : (parens name).Returns rules .parse c.afterNext (.success w r))
    (hr : r.skip = some .whiteSpace) (hmissing : (visible r.ahead).head? ≠ some ')') :
    (parens name).Returns rules .parse c (.success (.int 0) c.skipped) := by
  have hsteady := Cursor.steady_whiteSpace hc
  have hlazy := rule_parses hrule hinner (Cursor.steady_whiteSpace hc)
  obtain ⟨e, he⟩ := literal_misses rules hr hmissing
  have hleft := (returns_parse_skipped hsteady).2 (literal_reads rules hc hopen)
  have hright := (returns_parse_settled hsteady.skipped_skipped).2 (.keepRight hleft hlazy)
  exact returns_parse.2 (parens_none hsteady.skipped_skipped (.keepLeft_fails_right hright he))

/-- One pair more around what is closed. -/
theorem parens_around (hrule : rules name = parens name) (hc : c.skip = some .whiteSpace)
    (hopen : visible c.ahead = '(' :: u)
    (hinner : (parens name).Returns rules .parse c.afterNext (.success (.int n) r))
    (hr : r.skip = some .whiteSpace) (hclose : visible r.ahead = ')' :: v) :
    (parens name).Returns rules .parse c (.success (.int (n + 1)) r.afterNext) := by
  have hsteady := Cursor.steady_whiteSpace hc
  have hlazy := rule_parses hrule hinner (Cursor.steady_whiteSpace hc)
  have hleft := (returns_parse_skipped hsteady).2 (literal_reads rules hc hopen)
  have hright := (returns_parse_settled hsteady.skipped_skipped).2 (.keepRight hleft hlazy)
  have hbetween := Returns.keepLeft hright (literal_reads rules hr hclose)
  have hmap := Returns.map (Mapping.add 1)
    ((returns_parse_settled hsteady.skipped_skipped).2 hbetween)
  refine returns_parse.2 (.shared (.either_left ?_))
  exact (returns_parse_settled hsteady.skipped_skipped).2 hmap

/-- By induction on the parentheses that are opened: what a level returns decides whether the one
around it finds its own closed next. -/
theorem nested (hrule : rules name = parens name) (hc : c.skip = some .whiteSpace)
    (h : visible c.ahead = List.replicate k '(' ++ u) (hu : u.head? ≠ some '(') :
    Nested rules name c k u := by
  induction k generalizing c with
  | zero =>
    obtain rfl : visible c.ahead = u := h
    exact .closed c.skipped (Cursor.visible_skipped hc).symm (Cursor.closes_skipped hc)
      (parens_unopened hc hu)
  | succ k ih =>
    have hopen : visible c.ahead = '(' :: (List.replicate k '(' ++ u) := h
    have hinside := Cursor.visible_afterNext hc hopen
    cases ih (c := c.afterNext) hc hinside with
    | closed r hrest hcloses hinner =>
      have hr : r.skip = some .whiteSpace := hcloses.skip.trans hc
      by_cases hnext : (visible r.ahead).head? = some ')'
      · obtain ⟨v, hclose⟩ := List.head?_eq_some_iff.1 hnext
        refine .closed r.afterNext ?_ (hcloses.around hc hopen hclose) ?_
        · rw [hrest, hclose, Cursor.visible_afterNext hr hclose, List.replicate_succ',
            List.append_assoc]
          rfl
        · rw [Int64.ofNat_add]
          exact parens_around hrule hc hopen hinner hr hclose
      · refine .unclosed ?_ (parens_unclosed hrule hc hopen hinner hr hnext)
        rwa [hrest, replicate_succ_prefix_iff]
    | unclosed hmissing hinner =>
      refine .unclosed (fun h => hmissing ?_) (parens_unclosed hrule hc hopen hinner hc ?_)
      · exact (List.replicate_succ' (n := k) ▸ List.prefix_append _ _).trans h
      · -- the next level has been opened, so what comes next closes nothing
        rw [Cursor.visible_skipped (c := c.afterNext) hc, hinside]
        cases k with
        | zero => exact absurd List.nil_prefix hmissing
        | succ k => nofun

end Run

theorem skipped_start (text : Text) : (Cursor.start text).skipped =
    ⟨text.takeWhile isWhiteSpace, text.dropWhile isWhiteSpace, some .whiteSpace⟩ := by
  rw [Cursor.skipped, Cursor.skipCount_whiteSpace rfl]
  simp only [Cursor.past, Cursor.start, List.nil_append, Pattern.drop_length_takeWhile,
    ← List.prefix_iff_eq_take.1 (text.takeWhile_prefix isWhiteSpace)]

/-- The rule always succeeds. Where at least as many parentheses are closed right away as have been
opened, it counts them and ends after the last that it needs. Else it ends where it started. -/
theorem parens_returns {rules : Rules} {name : String} (hrule : rules name = parens name)
    (text : Text) :
    (1 ≤ openings text ∧ openings text ≤ closings text → ∃ r : Cursor, r.source = text ∧
      r.behind.count ')' = openings text ∧ r.behind.getLast? = some ')' ∧
      (parens name).Returns rules .parse (.start text)
        (.success (.int (Int64.ofNat (openings text))) r)) ∧
    (¬(1 ≤ openings text ∧ openings text ≤ closings text) →
      (parens name).Returns rules .parse (.start text) (.success (.int 0)
        ⟨text.takeWhile isWhiteSpace, text.dropWhile isWhiteSpace, some .whiteSpace⟩)) := by
  have hvisible := visible_eq_openings text
  have hu : ((visible text).dropWhile (· == '(')).head? ≠ some '(' := by
    intro h
    have hnot := (visible text).head?_dropWhile_not (· == '(')
    rw [h] at hnot
    cases hnot
  have hnested := nested hrule (c := .start text) rfl hvisible hu
  constructor
  · rintro ⟨hpos, hle⟩
    cases hnested with
    | closed r _ hcloses hreturns =>
      refine ⟨r, hcloses.source, ?_, hcloses.last (Nat.ne_of_gt hpos), hreturns⟩
      exact hcloses.count.trans (Nat.zero_add _)
    | unclosed hmissing _ => exact absurd (replicate_prefix_iff.2 hle) hmissing
  · intro h
    rw [← skipped_start]
    cases hnested with
    | closed _ hu _ _ =>
      have hle : openings text ≤ closings text :=
        replicate_prefix_iff.1 (hu ▸ List.prefix_append _ _)
      have hzero : openings text = 0 := by omega
      rw [hzero] at hvisible
      refine parens_unopened rfl ?_
      rwa [Cursor.start, hvisible]
    | unclosed _ hreturns => exact hreturns

/-- Two pairs with one parenthesis too many, and two with one too few. -/
theorem parens_returns_pairs :
    let rules : Rules := fun _ => parens "parens"
    rules "parens" = parens "parens" ∧
      (∃ r : Cursor, r.source = "( ( ) ) )".toList ∧ r.behind.count ')' = 2 ∧
        r.behind.getLast? = some ')' ∧
        (parens "parens").Returns rules .parse (.start "( ( ) ) )".toList)
          (.success (.int 2) r)) ∧
      (parens "parens").Returns rules .parse (.start " (()".toList)
        (.success (.int 0) ⟨[' '], "(()".toList, some .whiteSpace⟩) := by
  intro rules
  have hrule : rules "parens" = parens "parens" := rfl
  have hopenings : openings "( ( ) ) )".toList = 2 := by decide +kernel
  have hclosed := (parens_returns hrule "( ( ) ) )".toList).1 (by decide +kernel)
  have hunclosed := (parens_returns hrule " (()".toList).2 (by decide +kernel)
  rw [hopenings] at hclosed
  exact ⟨hrule, hclosed, hunclosed⟩

end Grammar
end Descent
