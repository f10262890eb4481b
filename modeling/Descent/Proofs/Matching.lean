import Descent.Proofs.Evaluation.Returns
import Descent.Proofs.Pattern.Freedom
import Descent.Proofs.Pattern.Normal

/-! # What parsers of patterns return

A pattern that is well formed by itself, held to the start, is a parser. It reads what the pattern
prefers among the prefixes of the text ahead that it matches, and fails if there are none. -/
namespace Descent

namespace Pattern

variable {p : Pattern} {t u : Text}

/-- Ways lead to the prefixes that the pattern matches. -/
theorem mem_prefixes : u ∈ p.prefixes t ↔ u <+: t ∧ p.Matches ⟨none, t⟩ u.length := by
  constructor
  · intro hu
    obtain ⟨n, hn, rfl⟩ := List.mem_map.1 hu
    have hmatch := mem_matchLengths.1 hn
    have hlength : (t.take n).length = n := List.length_take_of_le hmatch.le_length
    exact ⟨List.take_prefix n t, by rwa [hlength]⟩
  · rintro ⟨hstart, hmatch⟩
    have htake : t.take u.length = u := (List.prefix_iff_eq_take.1 hstart).symm
    exact List.mem_map.2 ⟨u.length, mem_matchLengths.2 hmatch, htake⟩

theorem Prefers.matched (h : p.Prefers t u) : u <+: t ∧ p.Matches ⟨none, t⟩ u.length :=
  mem_prefixes.1 (List.mem_of_mem_head? (prefers_iff.1 h))

/-- What a search held to the start finds is what the pattern prefers. -/
theorem atStart_anchored {r : Regex} (hp : read t = .ok p) (hr : compileAnchored t = .ok r) :
    (r.atStart u).map u.take = (p.prefixes u).head? := by
  obtain ⟨p', hp', rfl⟩ := compileAs_eq_ok hr
  rw [atStart_toRegex, matchLengths_anchored hp hp', prefixes, List.head?_map]

end Pattern

namespace Grammar

open Pattern

variable {pattern t : Text} {p : Pattern} {r : Regex} (rules : Rules) (c : Cursor)

theorem returns_matching (m : Leaf.Matcher) :
    (matching m).Returns rules .apply c ((Leaf.answerMatch m c.ahead).outcome c) :=
  returns_leaf rfl

theorem returns_preferred (hp : read pattern = .ok p) (hr : compileAnchored pattern = .ok r)
    (ht : (p.prefixes c.ahead).head? = some t) :
    ∃ d, c.forward (Text.size t) = .ok d ∧
      (matching (.ofPattern pattern r)).Returns rules .apply c (.success (.text t) d) := by
  rw [← atStart_anchored hp hr] at ht
  obtain ⟨n, hn, rfl⟩ := Option.map_eq_some_iff.1 ht
  refine ⟨c.past n, Cursor.forward_size_take, ?_⟩
  have houtcome := returns_matching rules c (.ofPattern pattern r)
  rwa [Leaf.answerMatch, Leaf.Matcher.ofPattern, hn] at houtcome

theorem returns_unmatched (hp : read pattern = .ok p) (hr : compileAnchored pattern = .ok r)
    (hnone : (p.prefixes c.ahead).head? = none) :
    (matching (.ofPattern pattern r)).Returns rules .apply c
      (.fail c (.noMatch s!"regex `{String.ofList pattern}`")
        s!"regex[{String.ofList pattern}]") := by
  rw [← atStart_anchored hp hr] at hnone
  have houtcome := returns_matching rules c (.ofPattern pattern r)
  rwa [Leaf.answerMatch, Leaf.Matcher.ofPattern, Option.map_eq_none_iff.1 hnone] at houtcome

end Grammar
end Descent
