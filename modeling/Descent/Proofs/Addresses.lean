import Descent.Proofs.Evaluation.Returns
import Descent.Proofs.Integers

/-! # What the leaf for addresses reads

A local part, and behind the sign labels with points between them, of which the last is made of
letters. How many labels there are shows only at their end: the repetition of labels gives back
those behind which no last one is left. Still the longest address is preferred, since a label more
is longer than all the letters that could have stood in its place. -/
namespace Descent

namespace Text

/-! ## Addresses -/

def LocalPart (t : Text) : Prop :=
  t ≠ [] ∧ ∀ x ∈ t, x.isAlphanum = true ∨ x ∈ ['.', '_', '%', '+', '-']

def Label (t : Text) : Prop := t ≠ [] ∧ ∀ x ∈ t, x.isAlphanum = true ∨ x = '-'

def TopLevel (t : Text) : Prop := 2 ≤ t.length ∧ ∀ x ∈ t, x.isAlpha = true

/-- A local part, labels and a last label of letters. There is a label in front of the last one. -/
def Address (t : Text) : Prop :=
  ∃ (part label : Text) (labels : List Text) (top : Text),
    t = part ++ '@' :: (label ++ (labels.flatMap ('.' :: ·) ++ '.' :: top)) ∧
      LocalPart part ∧ Label label ∧ (∀ l ∈ labels, Label l) ∧ TopLevel top

end Text

namespace Leaf

open Text

variable {t w : Text} {k : Plan} {c : Char}

theorem isAlpha_eq (c : Char) : c.isAlpha =
    (decide ('A' ≤ c ∧ c ≤ 'Z') || ('a' ≤ c && c ≤ 'z')) := rfl

theorem mem_letterSet : letterSet.mem c = true ↔ c.isAlpha = true := by
  simp [letterSet, CharSet.mem_ranges, isAlpha_eq]

/-- Letters, digits and a few other characters. -/
theorem mem_alphanum (cs : List Char) :
    (CharSet.ranges ([('A', 'Z'), ('a', 'z'), ('0', '9')] ++ cs.map fun c => (c, c))).mem c = true ↔
      c.isAlphanum = true ∨ c ∈ cs := by
  have hcs : (CharSet.ranges (cs.map fun c => (c, c))).mem c = true ↔ c ∈ cs := mem_among
  rw [← hcs, CharSet.mem_ranges, CharSet.mem_ranges]
  simp [Char.isAlphanum, isAlpha_eq, Char.isDigit, Char.le_def, or_assoc]

theorem mem_labelSet : labelSet.mem c = true ↔ c.isAlphanum = true ∨ c = '-' := by
  have h : labelSet.mem c = true ↔ c.isAlphanum = true ∨ c ∈ ['-'] := mem_alphanum ['-']
  simpa using h

theorem mem_localSet :
    localSet.mem c = true ↔ c.isAlphanum = true ∨ c ∈ ['.', '_', '%', '+', '-'] :=
  mem_alphanum ['.', '_', '%', '+', '-']

/-! ## The pattern -/

/-- Characters of a set in a row. -/
def several (least : Nat) (s : CharSet) : Pattern := .repeated least none true (.chars true s)

/-- A label with the point in front of it. -/
def further : Pattern := .cat (.literal ['.']) (several 1 labelSet)

def furthers : Pattern := .repeated 0 none true further

/-- The last label with its point. -/
def topLevel : Pattern := .cat (.literal ['.']) (several 2 letterSet)

theorem emailPattern_eq : emailPattern = .cat (several 1 localSet) (.cat (.literal ['@'])
    (.cat (several 1 labelSet) (.cat furthers topLevel))) := rfl

theorem accepts_several {least : Nat} {s : CharSet} :
    (several least s).Accepts w ↔ least ≤ w.length ∧ ∀ x ∈ w, s.mem x = true :=
  Pattern.accepts_repeated_chars

theorem accepts_localPart : (several 1 localSet).Accepts w ↔ LocalPart w := by
  rw [accepts_several, LocalPart, ← List.length_pos_iff]
  simp only [mem_localSet]
  rfl

theorem accepts_label : (several 1 labelSet).Accepts w ↔ Label w := by
  rw [accepts_several, Label, ← List.length_pos_iff]
  simp only [mem_labelSet]
  rfl

theorem accepts_further : further.Accepts w ↔ ∃ l, w = '.' :: l ∧ Label l := by
  simp [further, Pattern.Accepts, accepts_label]

theorem accepts_topLevel : topLevel.Accepts w ↔ ∃ l, w = '.' :: l ∧ TopLevel l := by
  simp [topLevel, Pattern.Accepts, accepts_several, mem_letterSet, TopLevel]

theorem accepts_furthers : furthers.Accepts w ↔
    ∃ labels : List Text, w = labels.flatMap ('.' :: ·) ∧ ∀ l ∈ labels, Label l := by
  simp only [furthers, Pattern.Accepts, accepts_further]
  constructor
  · rintro ⟨us, rfl, -, -, hus⟩
    induction us with
    | nil => exact ⟨[], rfl, by simp⟩
    | cons u us ih =>
      obtain ⟨⟨l, rfl, hl⟩, hrest⟩ := List.forall_mem_cons.1 hus
      obtain ⟨labels, hflatten, hlabels⟩ := ih hrest
      exact ⟨l :: labels, by simp [hflatten], List.forall_mem_cons.2 ⟨hl, hlabels⟩⟩
  · rintro ⟨labels, rfl, hlabels⟩
    refine ⟨labels.map ('.' :: ·), List.flatMap_def, Nat.zero_le _, by simp, ?_⟩
    intro u hu
    obtain ⟨l, hl, rfl⟩ := List.mem_map.1 hu
    exact ⟨l, rfl, hlabels l hl⟩

theorem accepts_emailPattern : emailPattern.Accepts w ↔ Address w := by
  simp only [emailPattern_eq, Pattern.Accepts, accepts_localPart, accepts_label, accepts_furthers,
    accepts_topLevel]
  constructor
  · rintro ⟨part, _, rfl, hpart, _, _, rfl, rfl, label, _, rfl, hlabel, _, _, rfl,
      ⟨labels, rfl, hlabels⟩, top, rfl, htop⟩
    exact ⟨part, label, labels, top, rfl, hpart, hlabel, hlabels, htop⟩
  · rintro ⟨part, label, labels, top, rfl, hpart, hlabel, hlabels, htop⟩
    exact ⟨part, _, rfl, hpart, ['@'], _, rfl, rfl, label, _, rfl, hlabel, _, _, rfl,
      ⟨labels, rfl, hlabels⟩, top, rfl, htop⟩

/-! ## What is preferred -/

def pointSet : CharSet := .single '.'

theorem not_mem_labelSet_of_point (h : pointSet.mem c = true) : ¬ labelSet.mem c = true := by
  rw [CharSet.mem_single.1 h]
  decide

theorem mem_labelSet_of_letter (h : letterSet.mem c = true) : labelSet.mem c = true := by
  rw [mem_letterSet] at h
  simp [mem_labelSet, Char.isAlphanum, h]

theorem longest_several {s : CharSet} (hk : k.Longest) (hs : k.Stops s) :
    ((several 1 s).tries k).Longest :=
  (hk.loop hs).read

theorem longest_topLevel : (topLevel.tries fun _ => [0]).Longest := by
  have hletters := Plan.longest_done.loop (s := letterSet) Plan.stops_done
  exact hletters.read.read.read

theorem longest_further (hk : k.Longest) (hopens : k.Opens pointSet) :
    (further.tries k).Longest :=
  (longest_several hk (hopens.stops fun _ => not_mem_labelSet_of_point)).read

/-- A label is read up to the next point, which the letters of a last label do not go past. -/
theorem topLevel_le_further (hopens : k.Opens pointSet) {i : Place} {m n : Nat}
    (hm : m ∈ further.tries k i) (hn : n ∈ (topLevel.tries fun _ => [0]) i) : n ≤ m := by
  have hrest : k.Covers labelSet := hopens.covers fun _ => not_mem_labelSet_of_point
  have hlabel : ((several 1 labelSet).tries k).Covers labelSet :=
    (hrest.loop labelSet).read labelSet
  have hletter : ∀ c, letterSet.mem c → labelSet.mem c := fun _ => mem_labelSet_of_letter
  have hletters : ((several 2 letterSet).tries fun _ => [0]).Within labelSet :=
    ((Plan.within_done.loop hletter).read hletter).read hletter
  exact hlabel.read_le hletters hm hn

theorem longest_furthers : (furthers.tries (topLevel.tries fun _ => [0])).Longest ∧
    (furthers.tries (topLevel.tries fun _ => [0])).Opens pointSet :=
  longest_topLevel.loop_of_le (Plan.opens_read _ _) (fun _ => Plan.opens_read _ _)
    fun _ hk hopens => ⟨longest_further hk hopens, fun _ _ hm _ hn =>
      topLevel_le_further hopens hm hn⟩

theorem emailPattern_takes : emailPattern.TakesLongest Address where
  accepts _ := accepts_emailPattern
  free := by
    simp [emailPattern_eq, Pattern.AnchorFree, several, furthers, further, topLevel]
  loops := by
    simp only [emailPattern_eq, Pattern.LoopsRead, Pattern.Matches, several, furthers, further,
      topLevel]
    simp
    intro i n hn
    omega
  longest := by
    obtain ⟨hfurthers, hopens⟩ := longest_furthers
    have hlabels := longest_several hfurthers (hopens.stops fun _ => not_mem_labelSet_of_point)
    -- the sign is no character of a local part
    have hsign : ∀ c, (CharSet.single '@').mem c → ¬ localSet.mem c := by
      intro c hc
      rw [CharSet.mem_single.1 hc]
      decide
    exact longest_several hlabels.read (Plan.stops_read hsign)

/-- The address ends behind the last point that letters follow, even within a label. -/
example : ["a.b+c@x.y.example.com1.z", "a@b.c1.d", "a@b..com", "a@b.com.", "a@-.co-m.x"].map
    (fun s => emailRegex.atStart s.toList) = [some 21, none, none, some 7, some 6] := by
  decide +kernel

theorem answerEmail_longest (hw : LongestPrefix Address t w) :
    answerMatch email t = .accepts (.text w) w.length := by
  have hmatch : emailRegex.atStart t = some w.length := emailPattern_takes.atStart_of_longest hw
  have htake : t.take w.length = w := (List.prefix_iff_eq_take.1 hw.start).symm
  simp [answerMatch, email, hmatch, htake]

theorem answerEmail_none (h : ∀ w, Address w → ¬ w <+: t) :
    answerMatch email t = .refuses (.noMatch "an email address") "email" := by
  have hmatch : emailRegex.atStart t = none := emailPattern_takes.atStart_eq_none_iff.2 h
  simp [answerMatch, email, hmatch]

end Leaf

namespace Grammar

open Text

variable {rules : Rules} {c : Cursor} {w : Text}

/-- The outcome of the leaf at `c`, by the longest address ahead. -/
structure EmailReading (rules : Rules) (c : Cursor) : Prop where
  succeeds : (∃ v d, email.Returns rules .apply c (.success v d)) ↔ ∃ w, Address w ∧ w <+: c.ahead
  longest : (∃ w, Address w ∧ w <+: c.ahead) → ∃ w, LongestPrefix Address c.ahead w
  reads : ∀ w, LongestPrefix Address c.ahead w →
    ∃ d, c.forward (Text.size w) = .ok d ∧ email.Returns rules .apply c (.success (.text w) d)
  refuses : (¬∃ w, Address w ∧ w <+: c.ahead) →
    email.Reports rules c "input does not match an email address"

theorem returns_email (rules : Rules) (c : Cursor) :
    email.Returns rules .apply c ((Leaf.answerMatch Leaf.email c.ahead).outcome c) :=
  returns_leaf rfl

theorem email_reads (rules : Rules) (hw : LongestPrefix Address c.ahead w) :
    email.Returns rules .apply c (.success (.text w) (c.past w.length)) := by
  have hreturns := returns_email rules c
  rwa [Leaf.answerEmail_longest hw] at hreturns

theorem email_refuses (rules : Rules) (h : ¬∃ w, Address w ∧ w <+: c.ahead) :
    email.Returns rules .apply c (.fail c (.noMatch "an email address") "email") := by
  have hreturns := returns_email rules c
  rwa [Leaf.answerEmail_none fun w hw hstart => h ⟨w, hw, hstart⟩] at hreturns

theorem email_succeeds_iff : (∃ v d, email.Returns rules .apply c (.success v d)) ↔
    ∃ w, Address w ∧ w <+: c.ahead :=
  succeeds_iff_of_takes Leaf.emailPattern_takes (fun _ hw => ⟨_, _, email_reads rules hw⟩)
    fun h => ⟨_, email_refuses rules h⟩

theorem email_reading (rules : Rules) (c : Cursor) : EmailReading rules c where
  succeeds := email_succeeds_iff
  longest := Leaf.emailPattern_takes.exists_longest
  reads w hw := ⟨_, Cursor.forward_size_of_prefix hw.start, email_reads rules hw⟩
  refuses h := ⟨_, email_refuses rules h, by decide⟩

end Grammar
end Descent
