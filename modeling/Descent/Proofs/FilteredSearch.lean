import Descent.Proofs.Matching
import Descent.Proofs.SkipSearch

/-! # Searches whose matches further ahead are dropped

A pattern can be held to the front of the text, or searched for in all of it where only a match at
the front counts. A search finds a match at the front before all others, and the first to be found
there is the one preferred there, so both ways come to the same. The leaves for numbers and for
addresses match at the front as such searches do. -/
namespace Descent

namespace Regex

/-- A match at the front is found if there is any. -/
theorem find_filter (r : Regex) (t : Text) :
    (r.find t).filter (·.1 = 0) = (r.atStart t).map fun n => (0, n) := by
  cases hs : r.atStart t with
  | some n =>
    rw [find_of_atStart hs]
    rfl
  | none =>
    refine Option.filter_eq_none_iff.2 ?_
    rintro ⟨i, n⟩ hfound hi
    obtain rfl : i = 0 := by simpa using hi
    have hfront := (found_at_front_iff hfound).1 rfl
    rw [hs] at hfront
    cases hfront

end Regex

/-- What a parser comes to that searches the text ahead and keeps a match at the front. -/
def Leaf.Matcher.searched (m : Matcher) (c : Cursor) : Outcome :=
  match (m.regex.find c.ahead).filter (·.1 = 0) with
  | some (_, n) => .success (.text (c.ahead.take n)) (c.past n)
  | none => .fail c (.noMatch m.expected) m.name

theorem Leaf.searched_eq (m : Matcher) (c : Cursor) :
    m.searched c = (answerMatch m c.ahead).outcome c := by
  rw [Matcher.searched, Regex.find_filter, answerMatch]
  cases m.regex.atStart c.ahead <;> rfl

namespace Pattern

variable {t u : Text} {held free : Regex}

/-- Held to the front, a pattern matches there just what it matches there by itself. -/
theorem atStart_held (hheld : compileAnchored t = .ok held) (hfree : compile t = .ok free) :
    held.atStart u = free.atStart u := by
  obtain ⟨p, hp, rfl⟩ := compileAs_eq_ok hfree
  obtain ⟨p', hp', rfl⟩ := compileAs_eq_ok hheld
  rw [atStart_toRegex, atStart_toRegex, matchLengths_anchored hp hp']

/-- It is found nowhere else, so its search needs no filter. -/
theorem find_held (hheld : compileAnchored t = .ok held) (hfree : compile t = .ok free) :
    held.find u = (free.find u).filter (·.1 = 0) := by
  rw [(held_of_compile hfree hheld).find_eq, Regex.find_filter, atStart_held hheld hfree]

end Pattern

/-! ## The leaves' own patterns -/

namespace Leaf

open Pattern

/-- The expression of a leaf matches at the front what a search for the pattern finds that is held
there. -/
def Spelled (pattern : Text) (r : Regex) : Prop :=
  ∃ held, compileAnchored pattern = .ok held ∧
    ∀ t, held.find t = (r.atStart t).map fun n => (0, n)

theorem spelled_of_read {pattern : Text} {p : Pattern} (hp : read pattern = .ok p)
    (hsize : (compileAnchored pattern).toOption.isSome) : Spelled pattern p.toRegex := by
  obtain ⟨held, hheld⟩ := Option.isSome_iff_exists.1 hsize
  have hheld := ok_of_toOption hheld
  obtain ⟨p', hp', rfl⟩ := compileAs_eq_ok hheld
  refine ⟨_, hheld, fun t => ?_⟩
  rw [(held_of_read hp hheld).find_eq, atStart_toRegex, atStart_toRegex,
    matchLengths_anchored hp hp']

theorem integer_spelled : Spelled "[+-]?[0-9]+".toList integerRegex :=
  spelled_of_read (ok_of_toOption (by decide +kernel)) (by decide +kernel)

theorem decimal_spelled :
    Spelled "[+-]?(?:[0-9]+(?:\\.[0-9]+)?|\\.[0-9]+)(?:[eE][+-]?[0-9]+)?".toList decimalRegex :=
  spelled_of_read (ok_of_toOption (by decide +kernel)) (by decide +kernel)

theorem email_spelled :
    Spelled "[A-Za-z0-9._%+-]+@[A-Za-z0-9-]+(?:\\.[A-Za-z0-9-]+)*\\.[A-Za-z]\x7b2,\x7d".toList
      emailRegex :=
  spelled_of_read (ok_of_toOption (by decide +kernel)) (by decide +kernel)

end Leaf

namespace Grammar

open Pattern

variable {pattern : Text} {held free : Regex}

theorem returns_searched (rules : Rules) (m : Leaf.Matcher) (c : Cursor) (o : Outcome) :
    (matching m).Returns rules .apply c o ↔ o = m.searched c := by
  rw [Leaf.searched_eq]
  constructor
  · exact fun h => h.unique (returns_matching rules c m)
  · rintro rfl
    exact returns_matching rules c m

/-- Parsers of one pattern, held to the front or filtered, have the same name and come to the same
outcome wherever they are entered, which is that of the search for either expression. -/
theorem filtered_agrees (hheld : compileAnchored pattern = .ok held)
    (hfree : compile pattern = .ok free) :
    let m : Leaf.Matcher := .ofPattern pattern held
    let m' : Leaf.Matcher := .ofPattern pattern free
    (matching m).name = (matching m').name ∧
      (∀ t, held.find t = (free.find t).filter (·.1 = 0)) ∧
      ∀ (rules : Rules) (c : Cursor) (o : Outcome),
        ((matching m).Returns rules .apply c o ↔ o = m.searched c) ∧
          ((matching m').Returns rules .apply c o ↔ o = m'.searched c) ∧
          ((matching m).Returns rules .apply c o ↔ (matching m').Returns rules .apply c o) ∧
          ((matching m).Returns rules .parse c o ↔ (matching m').Returns rules .parse c o) := by
  intro m m'
  have hsearched : ∀ c, m.searched c = m'.searched c := by
    intro c
    rw [Leaf.searched_eq, Leaf.searched_eq]
    simp only [m, m', Leaf.answerMatch, Leaf.Matcher.ofPattern, atStart_held hheld hfree]
  have hsame : ∀ rules c o,
      (matching m).Returns rules .apply c o ↔ (matching m').Returns rules .apply c o := by
    intro rules c o
    rw [returns_searched, returns_searched, hsearched]
  refine ⟨rfl, fun _ => find_held hheld hfree, fun rules c o =>
    ⟨returns_searched rules m c o, returns_searched rules m' c o, hsame rules c o, ?_⟩⟩
  rw [returns_parse, returns_parse]
  exact hsame rules c.skipped o

/-- A line start and a loop: the filter drops what is found behind the first character. -/
theorem filtered_agrees_lines :
    let p : Pattern := .alt (.cat (.anchor .lineStart) (.literal ['b']))
      (.repeated 1 none true (.literal ['a']))
    let held : Regex := .cat (.anchor .textStart) p.toRegex
    let m : Leaf.Matcher := .ofPattern "(?m)^b|a+".toList held
    let m' : Leaf.Matcher := .ofPattern "(?m)^b|a+".toList p.toRegex
    compileAnchored "(?m)^b|a+".toList = .ok held ∧ compile "(?m)^b|a+".toList = .ok p.toRegex ∧
      p.toRegex.find "xaa".toList = some (1, 2) ∧ held.find "xaa".toList = none ∧
      ∀ rules o, (matching m).Returns rules .parse (.start "xaa".toList) o ↔
        (matching m').Returns rules .parse (.start "xaa".toList) o := by
  intro p held m m'
  have hheld : compileAnchored "(?m)^b|a+".toList = .ok held := ok_of_toOption (by decide +kernel)
  have hfree : compile "(?m)^b|a+".toList = .ok p.toRegex := ok_of_toOption (by decide +kernel)
  have hfound : p.toRegex.find "xaa".toList = some (1, 2) := by decide +kernel
  obtain ⟨-, hfind, hreturns⟩ := filtered_agrees hheld hfree
  refine ⟨hheld, hfree, hfound, ?_, fun rules o => (hreturns rules _ o).2.2.2⟩
  rw [hfind, hfound]
  rfl

end Grammar
end Descent
