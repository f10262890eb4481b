/-! # Text measured in bytes

A text is a list of characters. Offsets into it count bytes of its UTF-8 form, so only some
offsets fall between characters: those at which the text can be cut. -/
namespace Descent

abbrev Text := List Char

namespace Text

/-- The number of bytes of the UTF-8 form. -/
def size : Text → Nat
  | [] => 0
  | c :: t => c.utf8Size + size t

/-- Cuts after the given number of bytes; there is nothing to return inside a character or past
the end. -/
def cut : Nat → Text → Option (Text × Text)
  | 0, t => some ([], t)
  | _ + 1, [] => none
  | n + 1, c :: t =>
    if c.utf8Size ≤ n + 1 then (cut (n + 1 - c.utf8Size) t).map fun (a, b) => (c :: a, b) else none

/-- The pieces between line feeds, at least one. -/
def lines : Text → List Text
  | [] => [[]]
  | c :: t =>
    if c = '\n' then [] :: lines t
    else match lines t with
      | [] => [[c]]
      | l :: ls => (c :: l) :: ls

@[simp] theorem size_nil : size [] = 0 := rfl
@[simp] theorem size_cons (c : Char) (t : Text) : size (c :: t) = c.utf8Size + size t := rfl

@[simp] theorem size_append (a b : Text) : size (a ++ b) = size a + size b := by
  induction a with
  | nil => simp
  | cons c a ih => simp [ih, Nat.add_assoc]

theorem cut_size_append (a b : Text) : cut (size a) (a ++ b) = some (a, b) := by
  induction a with
  | nil => rw [List.nil_append]; exact cut.eq_1 b
  | cons c a ih =>
    obtain ⟨n, hn⟩ : ∃ n, size (c :: a) = n + 1 :=
      ⟨c.utf8Size - 1 + size a, by have := c.utf8Size_pos; simp; omega⟩
    have hc : n + 1 - c.utf8Size = size a := by simp at hn; omega
    have hle : c.utf8Size ≤ n + 1 := by simp at hn; omega
    rw [hn, List.cons_append, cut, if_pos hle, hc, ih]
    rfl

theorem cut_eq_some {n : Nat} {t a b : Text} (h : cut n t = some (a, b)) :
    t = a ++ b ∧ size a = n := by
  fun_induction cut n t generalizing a b with
  | case1 t => simp_all
  | case2 => simp at h
  | case3 n c t hc ih =>
    obtain ⟨⟨x, y⟩, hx, hxy⟩ := Option.map_eq_some_iff.1 h
    obtain ⟨rfl, rfl⟩ := Prod.mk.inj hxy
    obtain ⟨rfl, hs⟩ := ih hx
    exact ⟨rfl, by rw [size_cons, hs]; omega⟩
  | case4 => simp at h

theorem cut_eq_some_iff {n : Nat} {t a b : Text} :
    cut n t = some (a, b) ↔ t = a ++ b ∧ size a = n :=
  ⟨cut_eq_some, fun ⟨h, hn⟩ => h ▸ hn ▸ cut_size_append a b⟩

end Text
end Descent
