import Descent.Proofs.Blanks
import Descent.Proofs.DerivedForms
import Mathlib.Data.List.TakeWhile

/-! # Lists of integers between commas

A list is read up to its last item. What stands behind is left as it is, be it white space, a comma
that no integer follows, or a comma with an integer that does not fit. -/
namespace Descent.Grammar

open Unicode (isWhiteSpace)

/-- The texts of a list. White space may stand in front of every item and in front of every comma. -/
inductive Listed : List Int64 → Text → Prop
  | single {gap : Text} {n : Int64} : (∀ x ∈ gap, isWhiteSpace x = true) →
    Listed [n] (gap ++ (toString n).toList)
  | cons {gap gap' t : Text} {n : Int64} {ns : List Int64} : (∀ x ∈ gap, isWhiteSpace x = true) →
    (∀ x ∈ gap', isWhiteSpace x = true) → Listed ns t →
    Listed (n :: ns) (gap ++ ((toString n).toList ++ (gap' ++ ',' :: t)))

/-- A list ends here: the last number does not go on, and behind a comma that comes next there is
no integer to be read. -/
structure ListEnds (rules : Rules) (c : Cursor) : Prop where
  digit : ∀ x ∈ c.ahead.head?, x.isDigit = false
  comma : ∀ gap rest, (∀ x ∈ gap, isWhiteSpace x = true) → c.ahead = gap ++ ',' :: rest →
    integer.Fails rules ⟨c.behind ++ (gap ++ [',']), rest, c.skip⟩

variable {rules : Rules} {c : Cursor} {ns : List Int64} {n : Int64} {gap gap' t tail : Text}

/-- A comma and an item, which are taken together or not at all. -/
def item : Grammar := keepRight (literal [',']) integer

theorem item_returns {o : Outcome} (hc : c.skip = some .whiteSpace) (h : c.ahead = gap ++ ',' :: t)
    (hgap : ∀ x ∈ gap, isWhiteSpace x = true)
    (hnext : integer.Returns rules .parse (c.past (gap.length + 1)) o) :
    item.Returns rules .apply c o := by
  have hcomma := literal_yields rules hc h hgap (by decide)
  exact hcomma.keepRight hnext

theorem ListEnds.item_fails (h : ListEnds rules c) (hc : c.skip = some .whiteSpace) :
    ∃ e, item.Returns rules .apply c (.failure e) := by
  by_cases hcomma : (c.ahead.dropWhile isWhiteSpace).head? = some ','
  · obtain ⟨rest, hrest⟩ := List.head?_eq_some_iff.1 hcomma
    have hahead : c.ahead = c.ahead.takeWhile isWhiteSpace ++ ',' :: rest := by
      rw [← hrest, List.takeWhile_append_dropWhile]
    have hblank : ∀ x ∈ c.ahead.takeWhile isWhiteSpace, isWhiteSpace x = true :=
      fun x hx => List.mem_takeWhile_imp hx
    obtain ⟨e, he⟩ := h.comma _ rest hblank hahead
    have hpast : c.past ((c.ahead.takeWhile isWhiteSpace).length + 1) =
        ⟨c.behind ++ (c.ahead.takeWhile isWhiteSpace ++ [',']), rest, c.skip⟩ := by
      rw [← Cursor.past_eq (by simpa using hahead)]
      simp
    exact ⟨e, item_returns hc hahead hblank (hpast ▸ he)⟩
  · obtain ⟨e, he⟩ := literal_fails rules hc hcomma
    exact ⟨e, he.keepRight_fails⟩

/-- The text of an integer is one spelling of it. -/
theorem integer_yields_text (hc : c.skip = some .whiteSpace)
    (h : c.ahead = gap ++ ((toString n).toList ++ t)) (hgap : ∀ x ∈ gap, isWhiteSpace x = true)
    (ht : ∀ x ∈ t.head?, x.isDigit = false) :
    integer.Yields rules c (.int n) (c.past (gap ++ (toString n).toList).length) :=
  integer_yields rules hc h hgap (Integer.signedDigits_repr n.toInt) ht

/-- One step: in front of a comma an item is read, and the next turn comes to what stands behind. -/
theorem item_step (hc : c.skip = some .whiteSpace)
    (h : c.ahead = gap ++ ((toString n).toList ++ (gap' ++ ',' :: t)))
    (hgap : ∀ x ∈ gap, isWhiteSpace x = true) (hgap' : ∀ x ∈ gap', isWhiteSpace x = true) :
    ∃ d, integer.Yields rules c (.int n) d ∧ ∀ o,
      integer.Returns rules .parse
        (c.past (gap ++ ((toString n).toList ++ (gap' ++ [',']))).length) o →
      item.Returns rules .apply d o := by
  have hfirst : integer.Yields rules c (.int n) (c.past (gap ++ (toString n).toList).length) :=
    integer_yields_text hc h hgap (Text.noDigit_blank_append hgap' (by decide))
  refine ⟨_, hfirst, fun o hnext => ?_⟩
  have hcomma : (c.past (gap ++ (toString n).toList).length).ahead = gap' ++ ',' :: t :=
    Cursor.ahead_past (by simpa using h)
  have hpast : (c.past (gap ++ (toString n).toList).length).past (gap'.length + 1) =
      c.past (gap ++ ((toString n).toList ++ (gap' ++ [',']))).length := by
    rw [Cursor.past_past]
    simp [Nat.add_assoc]
  rw [← hpast] at hnext
  exact item_returns hc hcomma hgap' hnext

/-- The first item and the turns of the loop behind it, by induction on the list. -/
theorem Listed.gathers (h : Listed ns t) (hc : c.skip = some .whiteSpace)
    (hahead : c.ahead = t ++ tail) (hend : ListEnds rules (c.past t.length)) :
    ∃ n ns' r, ns = n :: ns' ∧ integer.Yields rules c (.int n) r ∧
      item.Gathers rules .apply r (ns'.map .int) (c.past t.length) := by
  induction h generalizing c with
  | @single gap n hgap =>
    have hdigit : ∀ x ∈ tail.head?, x.isDigit = false := by
      rw [← Cursor.ahead_past hahead]
      exact hend.digit
    have hcut : c.ahead = gap ++ ((toString n).toList ++ tail) := by simpa using hahead
    have hstop := gathers_nil_iff.2 ⟨hend.item_fails hc, rfl⟩
    exact ⟨n, [], _, rfl, integer_yields_text hc hcut hgap hdigit, hstop⟩
  | @cons gap gap' t n ns hgap hgap' _ ih =>
    have hcut : c.ahead = gap ++ ((toString n).toList ++ (gap' ++ ',' :: (t ++ tail))) := by
      simpa using hahead
    obtain ⟨d, hfirst, hturn⟩ := item_step hc hcut hgap hgap'
    have hnext : (c.past (gap ++ ((toString n).toList ++ (gap' ++ [',']))).length).ahead =
        t ++ tail := Cursor.ahead_past (by simpa using hcut)
    have hlast : (c.past (gap ++ ((toString n).toList ++ (gap' ++ [',']))).length).past t.length =
        c.past (gap ++ ((toString n).toList ++ (gap' ++ ',' :: t))).length := by
      rw [Cursor.past_past]
      congr 1
      simp only [List.length_append, List.length_cons, List.length_nil]
      omega
    rw [← hlast] at hend ⊢
    obtain ⟨m, ms, r, rfl, hm, hms⟩ := ih (c := c.past _) hc hnext hend
    have hmore := gathers_cons_iff.2 ⟨r, hturn _ hm, hms⟩
    exact ⟨n, m :: ms, d, rfl, hfirst, hmore⟩

/-- All items are read, and nothing of what follows the last one. -/
theorem many1Sep_listed (h : Listed ns t) (hend : ListEnds rules ⟨t, tail, some .whiteSpace⟩) :
    (many1Sep integer (literal [','])).Returns rules .parse (.start (t ++ tail))
      (.success (.list (ns.map .int)) ⟨t, tail, some .whiteSpace⟩) := by
  have hpast : (Cursor.start (t ++ tail)).past t.length = ⟨t, tail, some .whiteSpace⟩ :=
    Cursor.past_eq rfl
  have hsteady : (Cursor.start (t ++ tail)).Steady := Cursor.steady_whiteSpace rfl
  obtain ⟨n, ns, r, rfl, hfirst, hmore⟩ := h.gathers (c := .start (t ++ tail)) rfl rfl (hpast ▸ hend)
  rw [hpast] at hmore
  rw [returns_many1Sep_parse_iff hsteady.skipped_skipped]
  exact .inl ⟨.int n, r, ns.map .int, _, hfirst, hmore, rfl⟩

/-- Behind the last item there is a comma, and an integer that does not fit. -/
theorem many1Sep_listed_tooLarge :
    let rules : Rules := fun _ => atEnd
    let t := " 1 ,\t-2".toList
    let tail := " ,9223372036854775808 x".toList
    Listed [1, -2] t ∧ ListEnds rules ⟨t, tail, some .whiteSpace⟩ ∧
      (many1Sep integer (literal [','])).Returns rules .parse (.start (t ++ tail))
        (.success (.list [.int 1, .int (-2)]) ⟨t, tail, some .whiteSpace⟩) := by
  intro rules t tail
  have hspace : ∀ x ∈ [' '], isWhiteSpace x = true := List.forall_mem_singleton.2 (by decide)
  have htab : ∀ x ∈ ['\t'], isWhiteSpace x = true := List.forall_mem_singleton.2 (by decide)
  have hlisted : Listed [1, -2] t :=
    @Listed.cons [' '] [' '] _ 1 [-2] hspace hspace (@Listed.single ['\t'] (-2) htab)
  have hend : ListEnds rules ⟨t, tail, some .whiteSpace⟩ := by
    constructor
    · rintro _ ⟨⟩
      rfl
    · intro gap rest hgap hrest
      have hhead : ∀ x ∈ (',' :: rest).head?, isWhiteSpace x = false := by
        rintro _ ⟨⟩
        decide
      have hdrop := Text.dropWhile_append hgap hhead
      rw [← hrest] at hdrop
      obtain rfl : "9223372036854775808 x".toList = rest := (List.cons.inj hdrop).2
      obtain ⟨hsigned, hvalue⟩ := Integer.signedDigits_repr 9223372036854775808
      have hlarge : 9223372036854775807 < Integer.value (Int.repr 9223372036854775808).toList := by
        rw [hvalue]
        decide
      have htext : "9223372036854775808 x".toList =
          (Int.repr 9223372036854775808).toList ++ [' ', 'x'] := by decide
      have hblank : ∀ x ∈ [' ', 'x'].head?, x.isDigit = false := by simp
      exact integer_fails_tooLarge rules (s := []) rfl htext nofun hsigned hlarge hblank
  exact ⟨hlisted, hend, many1Sep_listed hlisted hend⟩

end Descent.Grammar
