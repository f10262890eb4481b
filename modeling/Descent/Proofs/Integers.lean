import Descent.Proofs.Evaluation.Returns
import Descent.Proofs.Pattern.Longest
import Descent.Proofs.Regex.Reads

/-! # What the integer leaf reads

As many characters as make up a sign, or none, and digits. There may be any number of digits; what
they stand for decides whether the leaf succeeds or reports on which side the bounds are exceeded. -/
namespace Descent

open Unicode (isWhiteSpace)

theorem Leaf.mem_digitSet (c : Char) : digitSet.mem c = c.isDigit := by
  rw [Bool.eq_iff_iff, digitSet, CharSet.mem_range, Char.isDigit]
  simp [Char.le_def]

/-! ## Digits with a sign -/

namespace Text

/-- At least one digit and nothing else. -/
def Digits (t : Text) : Prop := t ≠ [] ∧ ∀ d ∈ t, d.isDigit

/-- A sign or nothing. -/
def Sign (t : Text) : Prop := t = [] ∨ t = ['+'] ∨ t = ['-']

def SignedDigits (t : Text) : Prop := ∃ s ds, t = s ++ ds ∧ Sign s ∧ Digits ds

variable {p : Char → Bool} {s ds t k w : Text}

theorem takeWhile_append (hs : ∀ x ∈ s, p x) (hk : ∀ x ∈ k.head?, p x = false) :
    (s ++ k).takeWhile p = s := by
  rw [List.takeWhile_append_of_pos hs]
  cases k with
  | nil => simp
  | cons x k => simp [hk x rfl]

theorem dropWhile_append (hs : ∀ x ∈ s, p x) (hk : ∀ x ∈ k.head?, p x = false) :
    (s ++ k).dropWhile p = k := by
  rw [List.dropWhile_append_of_pos hs]
  cases k with
  | nil => rfl
  | cons x k => simp [hk x rfl]

/-- White space is no digit. -/
theorem isDigit_of_isWhiteSpace {x : Char} (hx : isWhiteSpace x = true) : x.isDigit = false := by
  have hblank : Leaf.digitSet.mem x = false := CharSet.mem_of_isBlankless (by decide +kernel) hx
  rwa [Leaf.mem_digitSet] at hblank

theorem Digits.exists_cons (h : Digits ds) :
    ∃ d ds', ds = d :: ds' ∧ d.isDigit ∧ ∀ d ∈ ds', d.isDigit := by
  obtain ⟨d, ds', rfl⟩ := List.exists_cons_of_ne_nil h.1
  obtain ⟨hd, hds⟩ := List.forall_mem_cons.1 h.2
  exact ⟨d, ds', rfl, hd, hds⟩

theorem SignedDigits.exists_cons (h : SignedDigits w) :
    ∃ x t, w = x :: t ∧ (x = '+' ∨ x = '-' ∨ x.isDigit = true) := by
  obtain ⟨s, ds, rfl, rfl | rfl | rfl, hds⟩ := h
  · obtain ⟨d, ds, rfl, hd, -⟩ := hds.exists_cons
    exact ⟨d, ds, rfl, .inr (.inr hd)⟩
  · exact ⟨'+', ds, rfl, .inl rfl⟩
  · exact ⟨'-', ds, rfl, .inr (.inl rfl)⟩

theorem SignedDigits.head_not_blank (h : SignedDigits w) :
    ∀ x ∈ (w ++ k).head?, isWhiteSpace x = false := by
  obtain ⟨x, t, rfl, hx⟩ := h.exists_cons
  rintro _ ⟨⟩
  rcases hx with rfl | rfl | hx
  · decide
  · decide
  · exact Bool.eq_false_iff.2 fun h =>
      Bool.false_ne_true ((isDigit_of_isWhiteSpace h).symm.trans hx)

/-- Only the first character may be a sign. -/
theorem SignedDigits.isDigit_of_mem_tail (h : SignedDigits w) : ∀ x ∈ w.tail, x.isDigit := by
  obtain ⟨s, ds, rfl, rfl | rfl | rfl, hds⟩ := h
  · exact fun x hx => hds.2 x (List.mem_of_mem_tail hx)
  · exact hds.2
  · exact hds.2

/-- What stands in front of a character that is no digit cannot be made longer. -/
theorem SignedDigits.longestPrefix (h : SignedDigits w) (hk : ∀ x ∈ k.head?, x.isDigit = false) :
    LongestPrefix SignedDigits (w ++ k) w where
  holds := h
  start := List.prefix_append w k
  length_le u hu hstart := by
    refine Nat.le_of_not_lt fun hlt => ?_
    obtain ⟨v, rfl⟩ := List.prefix_of_prefix_length_le (List.prefix_append w k) hstart hlt.le
    obtain ⟨x, t, rfl, -⟩ := h.exists_cons
    cases v with
    | nil => simp at hlt
    | cons d v =>
      have hd : d.isDigit = true := hu.isDigit_of_mem_tail d (by simp)
      obtain ⟨k', hk'⟩ := (List.prefix_append_right_inj _).1 hstart
      have hfirst : d ∈ k.head? := by
        rw [← hk']
        rfl
      exact Bool.false_ne_true ((hk d hfirst).symm.trans hd)

end Text

namespace Integer

open Text

/-- What signed digits stand for. -/
def value : Text → Int
  | '-' :: ds => -Nat.ofDigitChars 10 ds 0
  | '+' :: ds => Nat.ofDigitChars 10 ds 0
  | ds => Nat.ofDigitChars 10 ds 0

variable {min max : Int} {ds w : Text}

theorem value_digits (hds : ∀ d ∈ ds, d.isDigit) : value ds = Nat.ofDigitChars 10 ds 0 := by
  rw [value.eq_def]
  split
  · cases hds '-' List.mem_cons_self
  · cases hds '+' List.mem_cons_self
  · rfl

theorem le_ofDigitChars (v : Nat) (ds : Text) : v ≤ Nat.ofDigitChars 10 ds v := by
  induction ds generalizing v with
  | nil => exact Nat.le_refl v
  | cons d ds ih =>
    rw [Nat.ofDigitChars_cons]
    have := ih (10 * v + (d.toNat - '0'.toNat))
    omega

/-- Away from zero upwards, digits are read unless that exceeds the upper bound. -/
theorem digits_up (hds : ∀ d ∈ ds, d.isDigit) (hmin : min ≤ 0) {v : Nat} (hv : v ≤ max) :
    digits min max false v ds = if (Nat.ofDigitChars 10 ds v : Int) ≤ max
      then .ok (Nat.ofDigitChars 10 ds v) else .error .tooLarge := by
  induction ds generalizing v with
  | nil => exact (if_pos hv).symm
  | cons d ds ih =>
    obtain ⟨hd, hds⟩ := List.forall_mem_cons.1 hds
    have hnext : (v : Int) * 10 + (d.toNat - '0'.toNat : Nat) =
        (10 * v + (d.toNat - '0'.toNat) : Nat) := by omega
    have hle := le_ofDigitChars (10 * v + (d.toNat - '0'.toNat)) ds
    rw [Nat.ofDigitChars_cons, digits, digit?, if_pos hd]
    simp only [Bool.false_eq_true, if_false, hnext]
    rw [if_neg (by omega)]
    split
    · rw [if_neg (by omega)]
    · exact ih hds (by omega)

theorem digits_down (hds : ∀ d ∈ ds, d.isDigit) (hmax : 0 ≤ max) {v : Nat} (hv : min ≤ -v) :
    digits min max true (-v) ds = if min ≤ -Nat.ofDigitChars 10 ds v
      then .ok (-Nat.ofDigitChars 10 ds v) else .error .tooSmall := by
  induction ds generalizing v with
  | nil => exact (if_pos hv).symm
  | cons d ds ih =>
    obtain ⟨hd, hds⟩ := List.forall_mem_cons.1 hds
    have hnext : (-v : Int) * 10 - (d.toNat - '0'.toNat : Nat) =
        -(10 * v + (d.toNat - '0'.toNat) : Nat) := by omega
    have hle := le_ofDigitChars (10 * v + (d.toNat - '0'.toNat)) ds
    rw [Nat.ofDigitChars_cons, digits, digit?, if_pos hd]
    simp only [if_true, hnext]
    split
    · rw [if_neg (by omega)]
    · rw [if_neg (by omega)]
      exact ih hds (by omega)

/-- Digits alone are read as they are. -/
theorem read_digits (hds : Digits ds) : read min max ds = digits min max false 0 ds := by
  obtain ⟨d, ds, rfl, hd, -⟩ := hds.exists_cons
  rw [read]
  all_goals
    intros
    simp_all

/-- All signed digits are read, unless what they stand for is out of bounds. -/
theorem read_signedDigits (hw : SignedDigits w) (hmin : min < 0) (hmax : 0 ≤ max) :
    read min max w = if max < value w then .error .tooLarge else
      if value w < min then .error .tooSmall else .ok (value w) := by
  have hup : ∀ {ds : Text}, Digits ds → digits min max false 0 ds =
      if max < (Nat.ofDigitChars 10 ds 0 : Int) then .error .tooLarge else
        if (Nat.ofDigitChars 10 ds 0 : Int) < min then .error .tooSmall else
          .ok (Nat.ofDigitChars 10 ds 0 : Int) := by
    intro ds hds
    refine (digits_up (v := 0) hds.2 hmin.le hmax).trans ?_
    by_cases h : (Nat.ofDigitChars 10 ds 0 : Int) ≤ max
    · rw [if_pos h, if_neg (by omega), if_neg (by omega)]
    · rw [if_neg h, if_pos (by omega)]
  obtain ⟨s, ds, rfl, rfl | rfl | rfl, hds⟩ := hw
  · rw [List.nil_append, value_digits hds.2, read_digits hds, hup hds]
  · rw [List.singleton_append, value, read, hup hds]
    exact hds.1
  · rw [List.singleton_append, value, read, if_pos hmin]
    · refine (digits_down (v := 0) hds.2 hmax hmin.le).trans ?_
      by_cases h : min ≤ -(Nat.ofDigitChars 10 ds 0 : Int)
      · rw [if_pos h, if_neg (by omega), if_neg (by omega)]
      · rw [if_neg h, if_neg (by omega), if_pos (by omega)]
    · exact hds.1

theorem read64_signedDigits (hw : SignedDigits w) :
    read64 w = if 9223372036854775807 < value w then .error .tooLarge else
      if value w < -9223372036854775808 then .error .tooSmall else .ok (Int64.ofInt (value w)) := by
  rw [read64, read_signedDigits hw (by decide) (by decide), apply_ite (Except.map Int64.ofInt),
    apply_ite (Except.map Int64.ofInt)]
  rfl

theorem read64_eq_ok_iff (hw : SignedDigits w) {n : Int64} :
    read64 w = .ok n ↔ n.toInt = value w := by
  have hle := n.toInt_lt
  have hge := n.le_toInt
  rw [read64_signedDigits hw]
  split
  · exact ⟨nofun, fun h => by omega⟩
  · split
    · exact ⟨nofun, fun h => by omega⟩
    · constructor
      · intro h
        cases h
        exact Int64.toInt_ofInt_of_le (by omega) (by omega)
      · rintro h
        rw [← h, Int64.ofInt_toInt]

theorem read64_eq_tooLarge_iff (hw : SignedDigits w) :
    read64 w = .error .tooLarge ↔ 9223372036854775807 < value w := by
  rw [read64_signedDigits hw]
  split
  · exact iff_of_true rfl ‹_›
  · refine iff_of_false ?_ ‹_›
    split <;> nofun

theorem read64_eq_tooSmall_iff (hw : SignedDigits w) :
    read64 w = .error .tooSmall ↔ value w < -9223372036854775808 := by
  rw [read64_signedDigits hw]
  split
  · exact iff_of_false nofun (by omega)
  · split
    · exact iff_of_true rfl ‹_›
    · exact iff_of_false nofun ‹_›

/-! ## The text of an integer -/

theorem digits_toDigits (n : Nat) : Digits (Nat.toDigits 10 n) :=
  ⟨Nat.toDigits_ne_nil, fun _ => Nat.isDigit_of_mem_toDigits (by decide) (by decide)⟩

/-- The text of an integer is made of signed digits that stand for it. -/
theorem signedDigits_repr (n : Int) : SignedDigits n.repr.toList ∧ value n.repr.toList = n := by
  rw [Int.repr_eq_if]
  split
  · rw [Nat.toList_repr]
    refine ⟨⟨[], _, rfl, .inl rfl, digits_toDigits _⟩, ?_⟩
    rw [value_digits (digits_toDigits _).2, Nat.ofDigitChars_ten_toDigits]
    omega
  · rw [String.toList_append, Nat.toList_repr, show "-".toList = ['-'] from rfl]
    refine ⟨⟨['-'], _, rfl, .inr (.inr rfl), digits_toDigits _⟩, ?_⟩
    rw [List.singleton_append, value, Nat.ofDigitChars_ten_toDigits]
    omega

end Integer

/-! ## The leaf -/

namespace Leaf

open Text

variable {t w : Text} {k : Plan}

theorem mem_among {cs : List Char} {c : Char} :
    (CharSet.ranges (cs.map fun c => (c, c))).mem c = true ↔ c ∈ cs := by
  rw [CharSet.mem_ranges]
  constructor
  · rintro ⟨r, hr, hfirst, hlast⟩
    obtain ⟨d, hd, rfl⟩ := List.mem_map.1 hr
    rwa [Char.le_antisymm hlast hfirst]
  · exact fun hc => ⟨(c, c), List.mem_map.2 ⟨c, hc, rfl⟩, Char.le_refl c, Char.le_refl c⟩

/-- The characters of a sign. -/
def signSet : CharSet := .ranges (['+', '-'].map fun c => (c, c))

theorem mem_signSet {c : Char} : signSet.mem c = true ↔ c = '+' ∨ c = '-' := by
  rw [signSet, mem_among, List.mem_pair]

theorem accepts_digits : digits.Accepts w ↔ Digits w := by
  rw [digits, Pattern.accepts_repeated_chars, Digits, ← List.length_pos_iff]
  simp only [mem_digitSet]
  rfl

theorem accepts_sign : sign.Accepts w ↔ Sign w := by
  rw [sign, optional, Pattern.accepts_optional, Sign]
  refine or_congr_right ⟨?_, ?_⟩
  · rintro ⟨c, hc, rfl⟩
    simpa using mem_signSet.1 hc
  · rintro (rfl | rfl)
    · exact ⟨'+', mem_signSet.2 (.inl rfl), rfl⟩
    · exact ⟨'-', mem_signSet.2 (.inr rfl), rfl⟩

theorem accepts_integerPattern : integerPattern.Accepts w ↔ SignedDigits w := by
  simp only [integerPattern, Pattern.Accepts, accepts_sign, accepts_digits, SignedDigits]

theorem longest_digits (hk : k.Longest) (hs : k.Stops digitSet) : (digits.tries k).Longest :=
  (hk.loop hs).read

theorem stops_digits {s : CharSet} (hs : ∀ c, s.mem c → c.isDigit = false) :
    (digits.tries k).Stops s := by
  refine Plan.stops_read fun c hc hsc => ?_
  rw [mem_digitSet, hs c hsc] at hc
  cases hc

theorem isDigit_signSet {c : Char} (hc : signSet.mem c = true) : c.isDigit = false := by
  rcases mem_signSet.1 hc with rfl | rfl <;> rfl

theorem integerPattern_takes : integerPattern.TakesLongest SignedDigits where
  accepts _ := accepts_integerPattern
  free := ⟨trivial, trivial⟩
  loops := ⟨⟨trivial, nofun⟩, trivial, fun _ _ h => nomatch h.1⟩
  longest :=
    have hdigits := longest_digits Plan.longest_done Plan.stops_done
    hdigits.read_orElse hdigits (stops_digits fun _ => isDigit_signSet)

/-- The leaf takes the longest prefix of signed digits, and reads all of it. -/
theorem answerInteger_longest (hw : LongestPrefix SignedDigits t w) :
    answerInteger t = match Integer.read64 w with
      | .ok n => .accepts (.int n) w.length
      | .error e => .refuses (.badInteger w e) "integer" := by
  have hmatch : integerRegex.atStart t = some w.length :=
    integerPattern_takes.atStart_of_longest hw
  have htake : t.take w.length = w := (List.prefix_iff_eq_take.1 hw.start).symm
  rw [answerInteger, hmatch]
  cases hread : Integer.read64 w with
  | ok n => simp only [htake, hread]
  | error e => simp only [htake, hread]

theorem answerInteger_none (h : ∀ w, SignedDigits w → ¬ w <+: t) :
    answerInteger t = .refuses .noInteger "integer" := by
  have hmatch : integerRegex.atStart t = none := integerPattern_takes.atStart_eq_none_iff.2 h
  rw [answerInteger, hmatch]

end Leaf

namespace Grammar

open Text

/-- The parser fails right where it was entered, under its own name and with the message. -/
def Reports (rules : Rules) (g : Grammar) (c : Cursor) (message : String) : Prop :=
  ∃ reason : Reason, g.Returns rules .apply c (.fail c reason g.name) ∧ reason.message = message

variable {rules : Rules} {c : Cursor} {w : Text} {n : Int64}

/-- What reads the longest prefix of a kind, and fails where there is none, succeeds where there is
one. -/
theorem succeeds_iff_of_takes {g : Grammar} {p : Pattern} {P : Text → Prop} (hp : p.TakesLongest P)
    (hreads : ∀ w, LongestPrefix P c.ahead w → ∃ v d, g.Returns rules .apply c (.success v d))
    (hrefuses : (¬∃ w, P w ∧ w <+: c.ahead) → ∃ e, g.Returns rules .apply c (.failure e)) :
    (∃ v d, g.Returns rules .apply c (.success v d)) ↔ ∃ w, P w ∧ w <+: c.ahead := by
  constructor
  · rintro ⟨v, d, hsuccess⟩
    by_contra h
    obtain ⟨e, he⟩ := hrefuses h
    cases hsuccess.unique he
  · intro h
    obtain ⟨w, hw⟩ := hp.exists_longest h
    exact hreads w hw

theorem returns_integer (rules : Rules) (c : Cursor) :
    integer.Returns rules .apply c ((Leaf.answerInteger c.ahead).outcome c) :=
  returns_leaf rfl

/-- What the leaf does with the longest prefix of signed digits. -/
theorem returns_integer_iff (hw : LongestPrefix SignedDigits c.ahead w) {o : Outcome} :
    integer.Returns rules .apply c o ↔ o = match Integer.read64 w with
      | .ok n => .success (.int n) (c.past w.length)
      | .error e => .fail c (.badInteger w e) "integer" := by
  have hreturns := returns_integer rules c
  have houtcome : (Leaf.answerInteger c.ahead).outcome c = match Integer.read64 w with
      | .ok n => .success (.int n) (c.past w.length)
      | .error e => .fail c (.badInteger w e) "integer" := by
    rw [Leaf.answerInteger_longest hw]
    cases Integer.read64 w <;> rfl
  rw [houtcome] at hreturns
  exact ⟨fun h => h.unique hreturns, fun h => h ▸ hreturns⟩

/-- How a refusal of the signed digits `w` reads. -/
def refusal (w : Text) (problem : String) : String :=
  "invalid integer `" ++ String.ofList w ++ "`: " ++ problem

/-- The outcome of the leaf at `c`, by the longest prefix of signed digits ahead and what it stands
for. -/
structure IntegerReading (rules : Rules) (c : Cursor) : Prop where
  longest : (∃ w, SignedDigits w ∧ w <+: c.ahead) → ∃ w, LongestPrefix SignedDigits c.ahead w
  absent : integer.Reports rules c "expected an integer" ↔ ¬∃ w, SignedDigits w ∧ w <+: c.ahead
  inRange : ∀ w, LongestPrefix SignedDigits c.ahead w →
    ((∃ (n : Int64) (d : Cursor), n.toInt = Integer.value w ∧ c.forward (Text.size w) = .ok d ∧
        integer.Returns rules .apply c (.success (.int n) d)) ↔
      -9223372036854775808 ≤ Integer.value w ∧ Integer.value w ≤ 9223372036854775807)
  tooLarge : ∀ w, LongestPrefix SignedDigits c.ahead w →
    (integer.Reports rules c (refusal w "number too large to fit in target type") ↔
        9223372036854775807 < Integer.value w)
  tooSmall : ∀ w, LongestPrefix SignedDigits c.ahead w →
    (integer.Reports rules c (refusal w "number too small to fit in target type") ↔
        Integer.value w < -9223372036854775808)
  /-- The text of an integer is read back, if skipping leaves it there. -/
  ofText : ∀ (n : Int64) (tail : Text), c.ahead = (toString n).toList ++ tail →
    (∀ x ∈ tail.head?, x.isDigit = false) → ∀ mode : Mode,
      mode = .apply ∨ c.skip = none ∨ c.skip = some .whiteSpace →
        ∃ d, integer.Returns rules mode c (.success (.int n) d) ∧ d.ahead = tail

theorem integer_inRange_iff (hw : LongestPrefix SignedDigits c.ahead w) :
    (∃ (n : Int64) (d : Cursor), n.toInt = Integer.value w ∧ c.forward (Text.size w) = .ok d ∧
        integer.Returns rules .apply c (.success (.int n) d)) ↔
      -9223372036854775808 ≤ Integer.value w ∧ Integer.value w ≤ 9223372036854775807 := by
  constructor
  · rintro ⟨n, d, hn, -, -⟩
    have hle := n.toInt_lt
    have hge := n.le_toInt
    omega
  · rintro ⟨hge, hle⟩
    have hn : (Int64.ofInt (Integer.value w)).toInt = Integer.value w :=
      Int64.toInt_ofInt_of_le hge (by omega)
    refine ⟨_, _, hn, Cursor.forward_size_of_prefix hw.start, (returns_integer_iff hw).2 ?_⟩
    rw [(Integer.read64_eq_ok_iff hw.holds).2 hn]

theorem message_inj {e e' : IntegerError} (h : e.message = e'.message) : e = e' := by
  revert h
  cases e <;> cases e' <;> decide

theorem refusal_ne {problem : String} : refusal w problem ≠ "expected an integer" := by
  intro h
  replace h : "invalid integer `" ++ String.ofList w ++ "`: " ++ problem = "expected an integer" := h
  have hfirst := congrArg (fun s : String => s.toList.head?) h
  have hi : "invalid integer `".toList.head? = some 'i' := by decide
  have he : "expected an integer".toList.head? = some 'e' := by decide
  simp only [String.toList_append, List.head?_append] at hfirst
  rw [hi, he, Option.some_or, Option.some_or, Option.some_or] at hfirst
  cases hfirst

/-- Reports on signed digits are refusals. -/
theorem reports_integer_iff (hw : LongestPrefix SignedDigits c.ahead w) {message : String} :
    integer.Reports rules c message ↔
      ∃ e, Integer.read64 w = .error e ∧ refusal w e.message = message := by
  constructor
  · rintro ⟨reason, hreason, hmessage⟩
    have houtcome := (returns_integer_iff hw).1 hreason
    cases he : Integer.read64 w with
    | ok n =>
      rw [he] at houtcome
      cases houtcome
    | error e =>
      rw [he] at houtcome
      cases houtcome
      exact ⟨e, rfl, hmessage⟩
  · rintro ⟨e, he, hmessage⟩
    refine ⟨.badInteger w e, (returns_integer_iff hw).2 ?_, hmessage⟩
    rw [he]
    rfl

theorem reports_error_iff (hw : LongestPrefix SignedDigits c.ahead w) (e : IntegerError) :
    integer.Reports rules c (refusal w e.message) ↔ Integer.read64 w = .error e := by
  rw [reports_integer_iff hw]
  constructor
  · rintro ⟨e', he', hmessage⟩
    rwa [← message_inj ((String.append_right_inj _).1 hmessage)]
  · exact fun he => ⟨e, he, rfl⟩

theorem integer_absent_iff : integer.Reports rules c "expected an integer" ↔
    ¬∃ w, SignedDigits w ∧ w <+: c.ahead := by
  constructor
  · intro h hsome
    obtain ⟨w, hw⟩ := Leaf.integerPattern_takes.exists_longest hsome
    obtain ⟨e, -, hmessage⟩ := (reports_integer_iff hw).1 h
    exact refusal_ne hmessage
  · intro h
    have hreturns := returns_integer rules c
    rw [Leaf.answerInteger_none fun w hw hstart => h ⟨w, hw, hstart⟩] at hreturns
    exact ⟨.noInteger, hreturns, rfl⟩

/-- White space in front of signed digits is all that is skipped. -/
theorem skipped_of_signedDigits {k : Text} (hw : SignedDigits w) (hahead : c.ahead = w ++ k)
    (hskip : c.skip = none ∨ c.skip = some .whiteSpace) : c.skipped = c := by
  rcases hskip with hnone | hwhite
  · exact Cursor.skipped_of_skip_none hnone
  · have htake : (w ++ k).takeWhile isWhiteSpace = [] :=
      takeWhile_append (s := []) nofun hw.head_not_blank
    rw [Cursor.skipped, Cursor.skipCount_whiteSpace hwhite, hahead, htake, List.length_nil,
      Cursor.past_zero]

theorem returns_integer_ofText {tail : Text} (hahead : c.ahead = (toString n).toList ++ tail)
    (htail : ∀ x ∈ tail.head?, x.isDigit = false) {mode : Mode}
    (hmode : mode = .apply ∨ c.skip = none ∨ c.skip = some .whiteSpace) :
    ∃ d, integer.Returns rules mode c (.success (.int n) d) ∧ d.ahead = tail := by
  obtain ⟨hsigned, hvalue⟩ :
      SignedDigits (toString n).toList ∧ Integer.value (toString n).toList = n.toInt :=
    Integer.signedDigits_repr n.toInt
  have hw : LongestPrefix SignedDigits c.ahead (toString n).toList :=
    hahead ▸ hsigned.longestPrefix htail
  have happly : integer.Returns rules .apply c
      (.success (.int n) (c.past (toString n).toList.length)) := by
    rw [returns_integer_iff hw, (Integer.read64_eq_ok_iff hsigned).2 hvalue.symm]
  refine ⟨_, ?_, by rw [Cursor.past_ahead, hahead, List.drop_left]⟩
  cases mode with
  | apply => exact happly
  | parse =>
    refine returns_parse.2 ?_
    rwa [skipped_of_signedDigits hsigned hahead (hmode.resolve_left nofun)]

theorem integer_reading (rules : Rules) (c : Cursor) : IntegerReading rules c where
  longest := Leaf.integerPattern_takes.exists_longest
  absent := integer_absent_iff
  inRange _ hw := integer_inRange_iff hw
  tooLarge _ hw := (reports_error_iff hw .tooLarge).trans (Integer.read64_eq_tooLarge_iff hw.holds)
  tooSmall _ hw := (reports_error_iff hw .tooSmall).trans (Integer.read64_eq_tooSmall_iff hw.holds)
  ofText _ _ hahead htail _ hmode := returns_integer_ofText hahead htail hmode

end Grammar
end Descent
