import Descent.Leaf
import Descent.Proofs.Regex.Search

/-! # Expressions that look at nothing but what they read

An expression without anchors does not see what stands around its match. A character that none of
its sets holds ends a match as the end of the text does. So white space ends the numbers and
addresses that leaves read. -/
namespace Descent

namespace Regex

/-- There are no anchors, and all sets pass the test. -/
def readsOnly (p : CharSet → Bool) : Regex → Bool
  | empty => true
  | chars s => p s
  | anchor _ => false
  | once _ => true
  | cat a b => a.readsOnly p && b.readsOnly p
  | alt a b => a.readsOnly p && b.readsOnly p
  | again _ _ a => a.readsOnly p

/-- All that reads passes the test, and what is to follow reads only what passes. -/
def Frontier.ReadsOnly (p : CharSet → Bool) (f : Frontier) : Prop :=
  ∀ s rest, .read s rest ∈ f.moves → p s = true ∧ ∀ r ∈ rest, r.readsOnly p = true

variable {p : CharSet → Bool} {r : Regex} {rest : Thread} {alive : List Thread} {x : Char}

theorem explore_look (hr : r.readsOnly p) (l l' : Look) : explore l r = explore l' r := by
  induction r with
  | empty | chars | once => rfl
  | anchor => cases hr
  | cat a b iha ihb | alt a b iha ihb =>
    obtain ⟨ha, hb⟩ := Bool.and_eq_true_iff.1 hr
    funext rest next
    rw [explore, explore, iha ha, ihb hb]
  | again label greedy a ih =>
    funext rest next
    rw [explore, explore, ih hr]

theorem exploreThread_look (hr : ∀ r ∈ rest, r.readsOnly p = true) (l l' : Look) :
    exploreThread l rest = exploreThread l' rest := by
  induction rest with
  | nil => rfl
  | cons r rest ih =>
    obtain ⟨hr, hrest⟩ := List.forall_mem_cons.1 hr
    rw [exploreThread, exploreThread, ih hrest, explore_look hr l l']

/-- Nothing around the position decides what moves there are. -/
theorem moves_look (h : ∀ th ∈ alive, ∀ r ∈ th, r.readsOnly p = true) (l l' : Look) :
    moves l alive = moves l' alive := by
  have hfold : ∀ f : Frontier, alive.foldl (fun f t => exploreThread l t f) f =
      alive.foldl (fun f t => exploreThread l' t f) f := by
    induction alive with
    | nil => exact fun _ => rfl
    | cons th alive ih =>
      obtain ⟨hth, halive⟩ := List.forall_mem_cons.1 h
      intro f
      rw [List.foldl_cons, List.foldl_cons, exploreThread_look hth l l', ih halive]
  rw [moves, moves, hfold]

namespace Frontier.ReadsOnly

variable {f : Frontier} {next : Frontier → Frontier}

theorem pass {label : Nat} (hnext : ∀ f : Frontier, f.ReadsOnly p → (next f).ReadsOnly p)
    (hf : f.ReadsOnly p) : (Frontier.pass label next f).ReadsOnly p := by
  rw [Frontier.pass]
  split
  · exact hf
  · exact hnext _ hf

theorem explore {l : Look} (hr : r.readsOnly p) (hrest : ∀ r ∈ rest, r.readsOnly p = true)
    (hnext : ∀ f : Frontier, f.ReadsOnly p → (next f).ReadsOnly p) (hf : f.ReadsOnly p) :
    (explore l r rest next f).ReadsOnly p := by
  induction r generalizing rest next f with
  | empty => exact hnext f hf
  | chars s =>
    intro s' rest' hm
    rcases List.mem_cons.1 hm with hm | hm
    · cases hm
      exact ⟨hr, hrest⟩
    · exact hf s' rest' hm
  | anchor => cases hr
  | once label => exact pass hnext hf
  | cat a b iha ihb =>
    obtain ⟨ha, hb⟩ := Bool.and_eq_true_iff.1 hr
    exact iha ha (List.forall_mem_cons.2 ⟨hb, hrest⟩) (fun _ hf => ihb hb hrest hnext hf) hf
  | alt a b iha ihb =>
    obtain ⟨ha, hb⟩ := Bool.and_eq_true_iff.1 hr
    exact ihb hb hrest hnext (iha ha hrest hnext hf)
  | again label greedy a ih =>
    have hturn : ∀ f : Frontier, f.ReadsOnly p →
        (Regex.explore l a (again label greedy a :: rest) id f).ReadsOnly p :=
      fun _ hf => ih hr (List.forall_mem_cons.2 ⟨hr, hrest⟩) (fun _ hf => hf) hf
    rw [Regex.explore]
    refine pass (fun f hf => ?_) hf
    cases greedy with
    | true => exact hnext _ (hturn f hf)
    | false => exact hturn _ (hnext f hf)

theorem exploreThread {l : Look} (hrest : ∀ r ∈ rest, r.readsOnly p = true) (hf : f.ReadsOnly p) :
    (exploreThread l rest f).ReadsOnly p := by
  induction rest generalizing f with
  | nil =>
    intro s rest hm
    rcases List.mem_cons.1 hm with hm | hm
    · cases hm
    · exact hf s rest hm
  | cons r rest ih =>
    obtain ⟨hr, hrest⟩ := List.forall_mem_cons.1 hrest
    exact explore hr hrest (fun _ hf => ih hrest hf) hf

end Frontier.ReadsOnly

theorem readsOnly_of_mem_moves {l : Look} {s : CharSet}
    (h : ∀ th ∈ alive, ∀ r ∈ th, r.readsOnly p = true) (hm : .read s rest ∈ moves l alive) :
    p s = true ∧ ∀ r ∈ rest, r.readsOnly p = true := by
  have hfold : ∀ f : Frontier, f.ReadsOnly p →
      (alive.foldl (fun f t => exploreThread l t f) f).ReadsOnly p := by
    clear hm
    induction alive with
    | nil => exact fun _ hf => hf
    | cons th alive ih =>
      obtain ⟨hth, halive⟩ := List.forall_mem_cons.1 h
      exact fun f hf => ih halive _ (hf.exploreThread hth)
  exact hfold {} (fun _ _ hm => nomatch hm) s rest (List.mem_reverse.1 hm)

/-- What no set holds is as good as the end of the text. -/
theorem scan_append_cons (hx : ∀ s, p s = true → s.mem x = false) (w t : Text)
    (h : ∀ th ∈ alive, ∀ r ∈ th, r.readsOnly p = true) (b : Option Char) :
    scan alive b (w ++ x :: t) = scan alive b w := by
  induction w generalizing alive b with
  | nil =>
    cases alive with
    | nil => simp [scan]
    | cons th alive =>
      have hnone : survivors x (moves ⟨b, some x⟩ (th :: alive)) = [] := by
        refine List.eq_nil_iff_forall_not_mem.2 fun rest hrest => ?_
        obtain ⟨s, hm, hs⟩ := mem_survivors hrest
        exact Bool.false_ne_true ((hx s (readsOnly_of_mem_moves h hm).1).symm.trans hs)
      rw [List.nil_append, scan, scan, hnone, scan, moves_look h ⟨b, some x⟩ ⟨b, none⟩]
      all_goals simp
  | cons c w ih =>
    cases alive with
    | nil => simp [scan]
    | cons th alive =>
      have hnext : ∀ rest ∈ survivors c (moves ⟨b, some c⟩ (th :: alive)),
          ∀ r ∈ rest, r.readsOnly p = true := by
        intro rest hrest
        obtain ⟨s, hm, -⟩ := mem_survivors hrest
        exact (readsOnly_of_mem_moves h hm).2
      rw [List.cons_append, scan, scan, ih hnext]
      all_goals simp

end Regex

/-! ## White space -/

namespace Unicode

/-- All white space there is. -/
def blanks : List Char :=
  whiteSpace.flatMap fun (first, last) => (List.range' first (last + 1 - first)).map Char.ofNat

theorem mem_blanks {c : Char} (h : isWhiteSpace c = true) : c ∈ blanks := by
  obtain ⟨⟨first, last⟩, hr, hfirst, hlast⟩ := Ranges.exists_mem h
  refine List.mem_flatMap.2 ⟨_, hr, List.mem_map.2 ⟨c.toNat, ?_, Char.ofNat_toNat c⟩⟩
  rw [List.mem_range'_1]
  omega

end Unicode

def CharSet.isBlankless (s : CharSet) : Bool := Unicode.blanks.all fun c => !s.mem c

theorem CharSet.mem_of_isBlankless {s : CharSet} (hs : s.isBlankless = true) {c : Char}
    (hc : Unicode.isWhiteSpace c = true) : s.mem c = false := by
  simpa using List.all_eq_true.1 hs c (Unicode.mem_blanks hc)

namespace Regex

/-- What matches is not empty and has no white space in it. -/
structure Solid (r : Regex) : Prop where
  reads : r.readsOnly CharSet.isBlankless = true
  stop : (moves ⟨none, none⟩ [[r]]).contains .stop = false

namespace Solid

variable {r : Regex} (hr : r.Solid) {t : Text} {n : Nat}
include hr

theorem moves_eq (l : Look) : moves l [[r]] = moves ⟨none, none⟩ [[r]] :=
  moves_look (p := CharSet.isBlankless) (by simpa using hr.reads) l _

theorem atStart_pos (h : r.atStart t = some n) : 0 < n := by
  rw [atStart] at h
  cases t with
  | nil =>
    rw [scan, hr.stop] at h
    · cases h
    · simp
  | cons c t =>
    rw [scan, hr.moves_eq, hr.stop] at h
    · split at h
      · cases h
        exact Nat.succ_pos _
      · cases h
    · simp

/-- White space and what follows it make no difference. -/
theorem atStart_append_blank {x : Char} (hx : Unicode.isWhiteSpace x = true) (w t : Text) :
    r.atStart (w ++ x :: t) = r.atStart w :=
  scan_append_cons (fun _ hs => CharSet.mem_of_isBlankless hs hx) w t
    (by simpa using hr.reads) none

end Solid
end Regex

namespace Leaf

theorem integerRegex_solid : integerRegex.Solid :=
  ⟨by decide +kernel, by decide +kernel⟩

theorem decimalRegex_solid : decimalRegex.Solid :=
  ⟨by decide +kernel, by decide +kernel⟩

theorem emailRegex_solid : emailRegex.Solid :=
  ⟨by decide +kernel, by decide +kernel⟩

end Leaf
end Descent
