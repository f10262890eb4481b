import Descent.Proofs.Integers

/-! # What the decimal leaf reads

A sign or none, digits with a fraction or without, or a fraction alone, and an exponent or none.
Points and exponents without digits are left where they are. The leaf takes the longest of such
numbers, and each of them can be converted. -/
namespace Descent

/-! ## Decimal numbers -/

namespace Text

/-- A point and digits. -/
def Fraction (t : Text) : Prop := ∃ ds, t = '.' :: ds ∧ Digits ds

def Mantissa (t : Text) : Prop :=
  (∃ ds f, t = ds ++ f ∧ Digits ds ∧ (f = [] ∨ Fraction f)) ∨ Fraction t

def Exponent (t : Text) : Prop := ∃ x w, t = x :: w ∧ (x = 'e' ∨ x = 'E') ∧ SignedDigits w

def DecimalNumber (t : Text) : Prop :=
  ∃ s m e, t = s ++ (m ++ e) ∧ Sign s ∧ Mantissa m ∧ (e = [] ∨ Exponent e)

variable {m e k w : Text}

theorem SignedDigits.decimalNumber (h : SignedDigits w) : DecimalNumber w := by
  obtain ⟨s, ds, rfl, hs, hds⟩ := h
  refine ⟨s, ds, [], ?_, hs, .inl ⟨ds, [], (List.append_nil ds).symm, hds, .inl rfl⟩, .inl rfl⟩
  rw [List.append_nil]

theorem Mantissa.head (h : Mantissa m) : ∀ x ∈ (m ++ k).head?, x = '.' ∨ x.isDigit = true := by
  rcases h with ⟨ds, f, rfl, hds, -⟩ | ⟨ds, rfl, -⟩
  · obtain ⟨d, ds, rfl, hd, -⟩ := hds.exists_cons
    rintro _ ⟨⟩
    exact .inr hd
  · rintro _ ⟨⟩
    exact .inl rfl

/-- Digits end where an exponent or nothing follows. -/
theorem isDigit_exponent (h : e = [] ∨ Exponent e) : ∀ x ∈ e.head?, x.isDigit = false := by
  rcases h with rfl | ⟨x, w, rfl, rfl | rfl, -⟩
  · nofun
  · rintro _ ⟨⟩
    rfl
  · rintro _ ⟨⟩
    rfl

end Text

/-! ## Conversion -/

namespace Decimal

open Text

variable {negative : Bool} {s ds fs e k w : Text}

theorem splitSign_append (hs : Sign s) (hk : ∀ x ∈ k.head?, x = '.' ∨ x.isDigit = true) :
    ∃ negative, splitSign (s ++ k) = (negative, k) := by
  rcases hs with rfl | rfl | rfl
  · refine ⟨false, ?_⟩
    rw [List.nil_append, splitSign]
    · rintro t rfl
      exact absurd (hk '+' rfl) (by decide)
    · rintro t rfl
      exact absurd (hk '-' rfl) (by decide)
  · exact ⟨false, rfl⟩
  · exact ⟨true, rfl⟩

theorem isSome_exponent? (h : e = [] ∨ Exponent e) : (exponent? e).isSome := by
  rcases h with rfl | ⟨x, _, rfl, hx, s, ds, rfl, hs, hds⟩
  · rfl
  · obtain ⟨negative, hsplit⟩ := splitSign_append (k := ds) hs fun d hd =>
      .inr (hds.2 d (List.mem_of_mem_head? hd))
    have hall : (!ds.isEmpty && ds.all Char.isDigit) = true := by
      simpa [Digits, List.isEmpty_iff] using hds
    rw [exponent?, if_pos hx, hsplit]
    simp only [hall, if_true, Option.isSome_some]

theorem isSome_read?_whole (hw : splitSign w = (negative, ds ++ e)) (hds : Digits ds)
    (he : e = [] ∨ Exponent e) : (read? w).isSome := by
  have hexponent := isSome_exponent? he
  have hwhole : ds.isEmpty = false := by simpa using hds.1
  rw [read?, hw]
  dsimp only
  rw [takeWhile_append hds.2 (isDigit_exponent he), dropWhile_append hds.2 (isDigit_exponent he),
    hwhole]
  rcases he with rfl | ⟨x, w, rfl, rfl | rfl, -⟩
  all_goals simpa using hexponent

theorem isSome_read?_point (hw : splitSign w = (negative, ds ++ ('.' :: fs ++ e)))
    (hds : ∀ d ∈ ds, d.isDigit) (hfs : Digits fs) (he : e = [] ∨ Exponent e) :
    (read? w).isSome := by
  have hpoint : ∀ x ∈ ('.' :: fs ++ e).head?, x.isDigit = false := by
    rintro _ ⟨⟩
    rfl
  rw [read?, hw]
  dsimp only
  rw [takeWhile_append hds hpoint, dropWhile_append hds hpoint, List.cons_append]
  simp only [takeWhile_append hfs.2 (isDigit_exponent he),
    dropWhile_append hfs.2 (isDigit_exponent he)]
  rw [if_neg, Option.isSome_map]
  · exact isSome_exponent? he
  · simp [hfs.1]

/-- Every decimal number can be converted. -/
theorem isSome_read? (h : DecimalNumber w) : (read? w).isSome := by
  obtain ⟨s, m, e, rfl, hs, hm, he⟩ := h
  obtain ⟨negative, hsplit⟩ := splitSign_append hs (hm.head (k := e))
  rcases hm with ⟨ds, f, rfl, hds, rfl | ⟨fs, rfl, hfs⟩⟩ | ⟨fs, rfl, hfs⟩
  · rw [List.append_nil] at hsplit ⊢
    exact isSome_read?_whole hsplit hds he
  · rw [List.append_assoc] at hsplit ⊢
    exact isSome_read?_point hsplit hds.2 hfs he
  · have hnone : ∀ d ∈ ([] : Text), d.isDigit := nofun
    exact isSome_read?_point hsplit hnone hfs he

end Decimal

/-! ## The leaf -/

namespace Leaf

open Text

variable {t w : Text} {k : Plan}

/-- The letters of an exponent. -/
def exponentSet : CharSet := .ranges (['e', 'E'].map fun c => (c, c))

def fraction : Pattern := .cat (.literal ['.']) digits

def mantissa : Pattern := .alt (.cat digits (optional fraction)) fraction

def exponent : Pattern := .cat (.chars true exponentSet) integerPattern

theorem decimalPattern_eq :
    decimalPattern = .cat sign (.cat mantissa (optional exponent)) := rfl

theorem mem_exponentSet {c : Char} : exponentSet.mem c = true ↔ c = 'e' ∨ c = 'E' := by
  rw [exponentSet, mem_among, List.mem_pair]

theorem accepts_fraction : fraction.Accepts w ↔ Fraction w := by
  simp only [fraction, Pattern.Accepts, accepts_digits, Fraction]
  constructor
  · rintro ⟨_, ds, rfl, rfl, hds⟩
    exact ⟨ds, rfl, hds⟩
  · rintro ⟨ds, rfl, hds⟩
    exact ⟨_, ds, rfl, rfl, hds⟩

theorem accepts_exponent : exponent.Accepts w ↔ Exponent w := by
  constructor
  · rintro ⟨_, v, rfl, ⟨x, hx, rfl⟩, hv⟩
    exact ⟨x, v, rfl, mem_exponentSet.1 hx, accepts_integerPattern.1 hv⟩
  · rintro ⟨x, v, rfl, hx, hv⟩
    exact ⟨_, v, rfl, ⟨x, mem_exponentSet.2 hx, rfl⟩, accepts_integerPattern.2 hv⟩

theorem accepts_mantissa : mantissa.Accepts w ↔ Mantissa w := by
  refine or_congr (exists₂_congr fun u v => and_congr_right fun _ => ?_) accepts_fraction
  exact and_congr accepts_digits (Pattern.accepts_optional.trans (or_congr_right accepts_fraction))

theorem accepts_decimalPattern : decimalPattern.Accepts w ↔ DecimalNumber w := by
  constructor
  · rintro ⟨s, _, rfl, hs, m, e, rfl, hm, he⟩
    exact ⟨s, m, e, rfl, accepts_sign.1 hs, accepts_mantissa.1 hm,
      (Pattern.accepts_optional.1 he).imp_right accepts_exponent.1⟩
  · rintro ⟨s, m, e, rfl, hs, hm, he⟩
    exact ⟨s, _, rfl, accepts_sign.2 hs, m, e, rfl, accepts_mantissa.2 hm,
      Pattern.accepts_optional.2 (he.imp_right accepts_exponent.2)⟩

theorem isDigit_exponentSet {c : Char} (hc : exponentSet.mem c = true) : c.isDigit = false := by
  rcases mem_exponentSet.1 hc with rfl | rfl <;> rfl

theorem longest_exponent : ((optional exponent).tries fun _ => [0]).Longest :=
  integerPattern_takes.longest.read_orElse Plan.longest_done Plan.stops_done

theorem stops_exponent {s : CharSet} (hs : ∀ c, exponentSet.mem c → ¬ s.mem c) :
    ((optional exponent).tries fun _ => [0]).Stops s :=
  (Plan.stops_read hs).orElse Plan.stops_done

theorem stops_fraction {s : CharSet} (hs : s.mem '.' = false) : (fraction.tries k).Stops s := by
  refine Plan.stops_read fun c hc hsc => ?_
  rw [CharSet.mem_single.1 hc, hs] at hsc
  cases hsc

theorem longest_mantissa (hk : k.Longest) (hdigit : k.Stops digitSet)
    (hpoint : k.Stops (.single '.')) : (mantissa.tries k).Longest := by
  have hdigits := longest_digits hk hdigit
  have hoptional : ((optional fraction).tries k).Longest := hdigits.read_orElse hk hpoint
  have hstops : ((optional fraction).tries k).Stops digitSet :=
    (stops_fraction (by decide)).orElse hdigit
  exact (hoptional.loop hstops).read_orElse hdigits.read (stops_fraction (by decide))

theorem stops_mantissa {s : CharSet} (hdigit : ∀ c, s.mem c → c.isDigit = false)
    (hpoint : s.mem '.' = false) : (mantissa.tries k).Stops s :=
  (stops_digits hdigit).orElse (stops_fraction hpoint)

theorem decimalPattern_takes : decimalPattern.TakesLongest DecimalNumber where
  accepts _ := accepts_decimalPattern
  free := by
    rw [decimalPattern_eq]
    simp [Pattern.AnchorFree, sign, mantissa, optional, fraction, exponent, digits, among,
      integerPattern]
  loops := by
    rw [decimalPattern_eq]
    simp [Pattern.LoopsRead, Pattern.Matches, sign, mantissa, optional, fraction, exponent, digits,
      among, integerPattern]
  longest := by
    -- from the last part on: none begins with what the one in front of it repeats or may leave out
    have hdigit : ((optional exponent).tries fun _ => [0]).Stops digitSet := by
      refine stops_exponent fun c hc hdigit => ?_
      rw [mem_digitSet, isDigit_exponentSet hc] at hdigit
      cases hdigit
    have hpoint : ((optional exponent).tries fun _ => [0]).Stops (.single '.') := by
      refine stops_exponent fun c hc hpoint => ?_
      rw [CharSet.mem_single.1 hpoint] at hc
      cases hc
    have hmantissa := longest_mantissa longest_exponent hdigit hpoint
    exact hmantissa.read_orElse hmantissa (stops_mantissa (fun _ => isDigit_signSet) (by decide))

/-- Of a point or an exponent without digits nothing is taken. -/
example : ["5.", "1e", "1e+", ".e1", "-.5e-3x"].map (fun s => decimalRegex.atStart s.toList) =
    [some 1, some 1, some 1, none, some 6] := by
  decide +kernel

/-- The leaf takes the longest prefix that is a decimal number. -/
theorem answerDecimal_longest (hw : LongestPrefix DecimalNumber t w) :
    ∃ x, Decimal.read? w = some x ∧ answerDecimal t = .accepts (.float x.toFloat) w.length := by
  obtain ⟨x, hx⟩ := Option.isSome_iff_exists.1 (Decimal.isSome_read? hw.holds)
  have hmatch : decimalRegex.atStart t = some w.length :=
    decimalPattern_takes.atStart_of_longest hw
  refine ⟨x, hx, ?_⟩
  rw [answerDecimal, hmatch]
  simp only [← List.prefix_iff_eq_take.1 hw.start, hx]

theorem answerDecimal_none (h : ∀ w, DecimalNumber w → ¬ w <+: t) :
    answerDecimal t = .refuses .noDecimal "decimal" := by
  have hmatch : decimalRegex.atStart t = none := decimalPattern_takes.atStart_eq_none_iff.2 h
  rw [answerDecimal, hmatch]

end Leaf

namespace Grammar

open Text

variable {rules : Rules} {c : Cursor} {w : Text}

/-- The outcome of the leaf at `c`, by the longest decimal number ahead. -/
structure DecimalReading (rules : Rules) (c : Cursor) : Prop where
  succeeds : (∃ v d, decimal.Returns rules .apply c (.success v d)) ↔
    ∃ w, DecimalNumber w ∧ w <+: c.ahead
  longest : (∃ w, DecimalNumber w ∧ w <+: c.ahead) → ∃ w, LongestPrefix DecimalNumber c.ahead w
  reads : ∀ w, LongestPrefix DecimalNumber c.ahead w →
    ∃ x d, Decimal.read? w = some x ∧ c.forward (Text.size w) = .ok d ∧
      decimal.Returns rules .apply c (.success (.float x.toFloat) d)
  refuses : (¬∃ w, DecimalNumber w ∧ w <+: c.ahead) →
    decimal.Reports rules c "expected a decimal number"
  /-- What has been matched is always converted. -/
  converts : ∀ e, decimal.Returns rules .apply c (.failure e) → ∀ w, e.reason ≠ .badDecimal w
  asInteger : ∀ n, Leaf.integerPattern.Matches ⟨none, c.ahead⟩ n →
    ∃ v d, decimal.Returns rules .apply c (.success v d) ∧
      c.offset + Text.size (c.ahead.take n) ≤ d.offset

theorem returns_decimal (rules : Rules) (c : Cursor) :
    decimal.Returns rules .apply c ((Leaf.answerDecimal c.ahead).outcome c) :=
  returns_leaf rfl

theorem decimal_reads (rules : Rules) (hw : LongestPrefix DecimalNumber c.ahead w) :
    ∃ x, Decimal.read? w = some x ∧
      decimal.Returns rules .apply c (.success (.float x.toFloat) (c.past w.length)) := by
  obtain ⟨x, hx, hanswer⟩ := Leaf.answerDecimal_longest hw
  have hreturns := returns_decimal rules c
  rw [hanswer] at hreturns
  exact ⟨x, hx, hreturns⟩

theorem decimal_refuses (h : ¬∃ w, DecimalNumber w ∧ w <+: c.ahead) :
    decimal.Returns rules .apply c (.fail c .noDecimal "decimal") := by
  have hreturns := returns_decimal rules c
  rwa [Leaf.answerDecimal_none fun w hw hstart => h ⟨w, hw, hstart⟩] at hreturns

theorem decimal_succeeds_iff : (∃ v d, decimal.Returns rules .apply c (.success v d)) ↔
    ∃ w, DecimalNumber w ∧ w <+: c.ahead := by
  refine succeeds_iff_of_takes Leaf.decimalPattern_takes ?_ fun h => ⟨_, decimal_refuses h⟩
  intro w hw
  obtain ⟨x, -, hreturns⟩ := decimal_reads rules hw
  exact ⟨_, _, hreturns⟩

theorem decimal_converts {e : Failure} (he : decimal.Returns rules .apply c (.failure e)) :
    ∀ w, e.reason ≠ .badDecimal w := by
  have h : ¬∃ w, DecimalNumber w ∧ w <+: c.ahead := by
    intro h
    obtain ⟨v, d, hsuccess⟩ := decimal_succeeds_iff.2 h
    cases he.unique hsuccess
  cases he.unique (decimal_refuses h)
  nofun

/-- Signed digits are a decimal number, so the longest is at least as long. -/
theorem decimal_asInteger {n : Nat} (hn : Leaf.integerPattern.Matches ⟨none, c.ahead⟩ n) :
    ∃ v d, decimal.Returns rules .apply c (.success v d) ∧
      c.offset + Text.size (c.ahead.take n) ≤ d.offset := by
  obtain ⟨u, hu, hstart, rfl⟩ := (Pattern.matches_iff_accepts Leaf.integerPattern_takes.free).1 hn
  have hdecimal : DecimalNumber u := (Leaf.accepts_integerPattern.1 hu).decimalNumber
  obtain ⟨w, hw⟩ := Leaf.decimalPattern_takes.exists_longest ⟨u, hdecimal, hstart⟩
  obtain ⟨x, -, hreturns⟩ := decimal_reads rules hw
  refine ⟨_, _, hreturns, ?_⟩
  have hpast : (c.past u.length).offset ≤ ((c.past u.length).past (w.length - u.length)).offset :=
    Cursor.offset_le_past _ _
  rwa [Cursor.past_past, Nat.add_sub_cancel' (hw.length_le u hdecimal hstart),
    Cursor.past_offset] at hpast

theorem decimal_reading (rules : Rules) (c : Cursor) : DecimalReading rules c where
  succeeds := decimal_succeeds_iff
  longest := Leaf.decimalPattern_takes.exists_longest
  reads _ hw := by
    obtain ⟨x, hx, hreturns⟩ := decimal_reads rules hw
    exact ⟨x, _, hx, Cursor.forward_size_of_prefix hw.start, hreturns⟩
  refuses h := ⟨_, decimal_refuses h, rfl⟩
  converts _ he := decimal_converts he
  asInteger _ hn := decimal_asInteger hn

end Grammar
end Descent
