import Descent.Text.Basic
import Descent.Unicode.WhiteSpace
import Mathlib.Data.List.DropRight

/-! # Words

The words of a text are its longest pieces without white space. How much white space stands between
them, and whether any stands at the ends, does not show. -/
namespace Descent.Text

open Unicode (isWhiteSpace)

def words (t : Text) : List Text := (t.splitOnP isWhiteSpace).filter (!·.isEmpty)

variable {x : Char} {t t' : Text} {n : Nat}

theorem words_append_blank (hx : isWhiteSpace x = true) (u t : Text) :
    words (u ++ x :: t) = words u ++ words t := by
  rw [words, List.splitOnP_append_cons u t hx, List.filter_append]
  rfl

theorem words_cons_blank (hx : isWhiteSpace x = true) (t : Text) : words (x :: t) = words t :=
  words_append_blank hx [] t

theorem words_dropWhile (t : Text) : words (t.dropWhile isWhiteSpace) = words t := by
  induction t with
  | nil => rfl
  | cons x t ih =>
    cases hx : isWhiteSpace x with
    | true => rw [List.dropWhile_cons_of_pos hx, ih, words_cons_blank hx]
    | false => rw [List.dropWhile_cons_of_neg (by simp [hx])]

/-! ## The first word -/

/-- What stands before the first white space. -/
def word (t : Text) : Text := t.takeWhile (!isWhiteSpace ·)

def afterWord (t : Text) : Text := t.dropWhile (!isWhiteSpace ·)

theorem word_append_afterWord (t : Text) : word t ++ afterWord t = t :=
  List.takeWhile_append_dropWhile

theorem word_cons_blank (hx : isWhiteSpace x = true) (t : Text) : word (x :: t) = [] :=
  List.takeWhile_cons_of_neg (by simp [hx])

theorem word_cons (hx : isWhiteSpace x = false) (t : Text) : word (x :: t) = x :: word t :=
  List.takeWhile_cons_of_pos (by simp [hx])

theorem not_blank_of_mem_word (hx : x ∈ word t) : isWhiteSpace x = false := by
  simpa using List.mem_takeWhile_imp hx

theorem afterWord_cases (t : Text) :
    afterWord t = [] ∨ ∃ x rest, afterWord t = x :: rest ∧ isWhiteSpace x = true := by
  have hhead := t.head?_dropWhile_not (!isWhiteSpace ·)
  rw [← afterWord] at hhead
  cases hrest : afterWord t with
  | nil => exact .inl rfl
  | cons x rest =>
    rw [hrest] at hhead
    exact .inr ⟨x, rest, rfl, by simpa using hhead⟩

theorem words_append_afterWord (u t : Text) :
    words (u ++ afterWord t) = words u ++ words (afterWord t) := by
  rcases afterWord_cases t with h | ⟨x, rest, h, hx⟩
  · rw [h, List.append_nil]
    exact (List.append_nil _).symm
  · rw [h, words_append_blank hx, words_cons_blank hx]

theorem words_word (h : word t ≠ []) : words (word t) = [word t] := by
  rw [words, List.splitOnP_eq_singleton fun x hx => not_blank_of_mem_word hx]
  exact List.filter_cons_of_pos (by simpa using h)

/-- Behind a part of the first word, its other part is a word of its own. -/
theorem words_drop (hn : n ≤ (word t).length) :
    words (t.drop n) = words ((word t).drop n) ++ words (afterWord t) := by
  have h := congrArg (fun u => words (u.drop n)) (word_append_afterWord t)
  rw [← h, List.drop_append_of_le_length hn, words_append_afterWord]

theorem take_word (hn : n ≤ (word t).length) : (word t).take n = t.take n := by
  have h := congrArg (List.take n) (word_append_afterWord t)
  rw [← h, List.take_append_of_le_length hn]

/-- A text without white space is in front of another if it is in front of its first word. -/
theorem isPrefixOf_word {u : Text} (hu : ∀ x ∈ u, isWhiteSpace x = false) (t : Text) :
    u.isPrefixOf (word t) = u.isPrefixOf t := by
  induction u generalizing t with
  | nil => simp
  | cons y u ih =>
    obtain ⟨hy, hu⟩ := List.forall_mem_cons.1 hu
    cases t with
    | nil => rfl
    | cons x t =>
      cases hx : isWhiteSpace x with
      | true =>
        have hyx : y ≠ x := by
          rintro rfl
          exact Bool.false_ne_true (hy.symm.trans hx)
        simp [word_cons_blank hx, List.isPrefixOf_cons_cons, hyx]
      | false => rw [word_cons hx, List.isPrefixOf_cons_cons, List.isPrefixOf_cons_cons, ih hu]

/-! ## Texts that do not begin with white space -/

def Settled (t : Text) : Prop := t.dropWhile isWhiteSpace = t

theorem settled_dropWhile (t : Text) : Settled (t.dropWhile isWhiteSpace) :=
  List.dropWhile_idempotent _ _

theorem Settled.not_blank (h : Settled (x :: t)) : isWhiteSpace x = false := by
  cases hx : isWhiteSpace x with
  | false => rfl
  | true =>
    have hlength := congrArg List.length h
    rw [List.dropWhile_cons_of_pos hx, List.length_cons] at hlength
    have := (List.dropWhile_suffix isWhiteSpace (l := t)).length_le
    omega

theorem settled_iff : Settled t ↔ ∀ x ∈ t.head?, isWhiteSpace x = false := by
  cases t with
  | nil => exact iff_of_true rfl nofun
  | cons x t =>
    constructor
    · rintro h y ⟨⟩
      exact h.not_blank
    · intro h
      exact List.dropWhile_cons_of_neg (by simp [h x rfl])

theorem Settled.word_eq_nil (h : Settled t) : word t = [] ↔ t = [] := by
  cases t with
  | nil => exact iff_of_true rfl rfl
  | cons x t => simp [word_cons h.not_blank]

theorem Settled.words_eq (h : Settled t) (hne : t ≠ []) :
    words t = word t :: words (afterWord t) := by
  have hwords := words_append_afterWord (word t) t
  rwa [word_append_afterWord, words_word (mt h.word_eq_nil.1 hne)] at hwords

/-- Texts with the same words that begin with one begin with the same one. -/
theorem Settled.same_word (h : Settled t) (h' : Settled t') (hw : words t = words t') :
    word t = word t' ∧ words (afterWord t) = words (afterWord t') := by
  by_cases hne : t = []
  · by_cases hne' : t' = []
    · rw [hne, hne']
      exact ⟨rfl, rfl⟩
    · rw [h'.words_eq hne', hne] at hw
      cases hw
  · by_cases hne' : t' = []
    · rw [h.words_eq hne, hne'] at hw
      cases hw
    · rw [h.words_eq hne, h'.words_eq hne'] at hw
      exact List.cons.inj hw

end Descent.Text
