import Descent.Proofs.Regex.Search

/-! # Ways through an expression

The ways from a position to its next moves, in the order in which backtracking tries them: the first
branch of a choice before the second, another turn of a greedy loop before its end. A way passes no
label twice. A search does less: it passes no label twice on all ways together. It comes to the same
preferred match, since what has been passed without success offers nothing to a later way either. -/
namespace Descent.Regex

/-- Another turn of a greedy loop is preferred to its end. -/
def inOrder {α : Type} (greedy : Bool) (turn leave : List α) : List α :=
  if greedy then turn ++ leave else leave ++ turn

theorem mem_inOrder {α : Type} {greedy : Bool} {turn leave : List α} {x : α} :
    x ∈ inOrder greedy turn leave ↔ x ∈ turn ∨ x ∈ leave := by
  cases greedy with
  | true => exact List.mem_append
  | false => exact List.mem_append.trans or_comm

/-- The moves at the ends of all ways through an expression that `rest` follows, the preferred way
first; `next` gives those through `rest`. The labels passed on the way are kept. A turn of a loop
that reads nothing would come back to a label that has been passed. -/
def paths (l : Look) : Regex → Thread → (List Nat → List Move) → List Nat → List Move
  | empty, _, next, passed => next passed
  | chars s, rest, _, _ => [.read s rest]
  | anchor a, _, next, passed => if a.holds l then next passed else []
  | once label, _, next, passed => if label ∈ passed then [] else next (label :: passed)
  | cat a b, rest, next, passed => paths l a (b :: rest) (paths l b rest next) passed
  | alt a b, rest, next, passed => paths l a rest next passed ++ paths l b rest next passed
  | again label greedy a, rest, next, passed =>
    if label ∈ passed then []
    else inOrder greedy (paths l a (again label greedy a :: rest) (fun _ => []) (label :: passed))
      (next (label :: passed))

def threadPaths (l : Look) : Thread → List Nat → List Move
  | [] => fun _ => [.stop]
  | r :: rest => paths l r rest (threadPaths l rest)

/-- The lengths of all matches of a thread, given the character before the text, in the order of the
ways to them. -/
def lengths : Thread → Option Char → Text → List Nat
  | th, before, [] => (threadPaths ⟨before, none⟩ th []).flatMap fun
    | .stop => [0]
    | .read _ _ => []
  | th, before, c :: t => (threadPaths ⟨before, some c⟩ th []).flatMap fun
    | .stop => [0]
    | .read s rest => if s.mem c then (lengths rest (some c) t).map (· + 1) else []

/-! ## Labels and what follows them -/

/-- The labels of an expression that `rest` follows, each with the thread that starts there. -/
def sites : Regex → Thread → List (Nat × Thread)
  | empty, _ => []
  | chars _, _ => []
  | anchor _, _ => []
  | once label, rest => [(label, once label :: rest)]
  | cat a b, rest => sites a (b :: rest) ++ sites b rest
  | alt a b, rest => sites a rest ++ sites b rest
  | again label greedy a, rest =>
    (label, again label greedy a :: rest) :: sites a (again label greedy a :: rest)

def threadSites : Thread → List (Nat × Thread)
  | [] => []
  | r :: rest => sites r rest ++ threadSites rest

/-- A label stands for one thread only. -/
def Unambiguous (S : List (Nat × Thread)) : Prop :=
  ∀ label th th', (label, th) ∈ S → (label, th') ∈ S → th = th'

/-- Labels of which each stands for one thread, together with all labels that follow. -/
structure Consistent (S : List (Nat × Thread)) : Prop where
  unambiguous : Unambiguous S
  closed : ∀ label th, (label, th) ∈ S → threadSites th ⊆ S

variable {l : Look} {r : Regex} {rest th : Thread} {next next' : List Nat → List Move}
variable {P P' : List Nat} {S : List (Nat × Thread)} {m : Move} {n label : Nat} {greedy : Bool}

theorem threadSites_of_mem_sites (h : (n, th) ∈ sites r rest) :
    threadSites th ⊆ threadSites (r :: rest) := by
  induction r generalizing rest with
  | empty | chars | anchor => cases h
  | once label =>
    cases List.mem_singleton.1 h
    exact List.Subset.refl _
  | cat a b iha ihb =>
    have hcat : threadSites (cat a b :: rest) = threadSites (a :: b :: rest) :=
      List.append_assoc _ _ _
    rw [hcat]
    rcases List.mem_append.1 h with h | h
    · exact iha h
    · exact List.Subset.trans (ihb h) (List.subset_append_right _ _)
  | alt a b iha ihb =>
    rcases List.mem_append.1 h with h | h
    · have := iha h
      simp only [threadSites, sites] at this ⊢
      grind
    · have := ihb h
      simp only [threadSites, sites] at this ⊢
      grind
  | again label greedy a ih =>
    rcases List.mem_cons.1 h with h | h
    · cases h
      exact List.Subset.refl _
    · refine List.Subset.trans (ih h) (List.append_subset.2 ⟨?_, List.Subset.refl _⟩)
      exact List.Subset.trans (List.subset_cons_self _ _) (List.subset_append_left _ _)

/-- The labels of a thread are all that can be met from there. -/
theorem closed_threadSites (th₀ : Thread) (label : Nat) (th : Thread)
    (h : (label, th) ∈ threadSites th₀) : threadSites th ⊆ threadSites th₀ := by
  induction th₀ with
  | nil => cases h
  | cons r rest ih =>
    rcases List.mem_append.1 h with h | h
    · exact threadSites_of_mem_sites h
    · exact List.Subset.trans (ih h) (List.subset_append_right _ _)

theorem threadPaths_again_of_mem {a : Regex} (h : n ∈ P) :
    threadPaths l (again n greedy a :: rest) P = [] := by
  rw [threadPaths, paths, if_pos h]

/-- What has been passed only grows on the way. -/
theorem paths_congr (h : ∀ P', P ⊆ P' → next P' = next' P') :
    paths l r rest next P = paths l r rest next' P := by
  induction r generalizing rest next next' P with
  | empty => exact h P (List.Subset.refl P)
  | chars s => rfl
  | anchor a => rw [paths, paths, h P (List.Subset.refl P)]
  | once label => rw [paths, paths, h _ (List.subset_cons_self label P)]
  | cat a b iha ihb =>
    exact iha fun P' hP => ihb fun P'' hP' => h P'' (List.Subset.trans hP hP')
  | alt a b iha ihb => rw [paths, paths, iha h, ihb h]
  | again label greedy a ih => rw [paths, paths, h _ (List.subset_cons_self label P)]

/-- Who has passed less has more ways. -/
theorem paths_mono (hnext : ∀ P P', P ⊆ P' → next P' ⊆ next P) (h : P ⊆ P') :
    paths l r rest next P' ⊆ paths l r rest next P := by
  induction r generalizing rest next P P' with
  | empty => exact hnext P P' h
  | chars s => exact List.Subset.refl _
  | anchor a =>
    rw [paths, paths]
    split
    · exact hnext P P' h
    · exact List.nil_subset _
  | once label =>
    rw [paths, paths]
    split
    · exact List.nil_subset _
    · rename_i hlabel
      rw [if_neg fun hP => hlabel (h hP)]
      exact hnext _ _ (List.cons_subset_cons label h)
  | cat a b iha ihb => exact iha (fun P P' hP => ihb hnext hP) h
  | alt a b iha ihb =>
    exact List.append_subset.2 ⟨List.Subset.trans (iha hnext h) (List.subset_append_left _ _),
      List.Subset.trans (ihb hnext h) (List.subset_append_right _ _)⟩
  | again label greedy a ih =>
    rw [paths, paths]
    split
    · exact List.nil_subset _
    · rename_i hlabel
      rw [if_neg fun hP => hlabel (h hP)]
      have hturn : paths l a (again label greedy a :: rest) (fun _ => []) (label :: P') ⊆
          paths l a (again label greedy a :: rest) (fun _ => []) (label :: P) :=
        ih (fun _ _ _ => List.Subset.refl _) (List.cons_subset_cons label h)
      have hleave := hnext _ _ (List.cons_subset_cons label h)
      exact fun m hm => mem_inOrder.2 ((mem_inOrder.1 hm).imp (@hturn m) (@hleave m))

theorem threadPaths_mono (th : Thread) (h : P ⊆ P') :
    threadPaths l th P' ⊆ threadPaths l th P := by
  induction th generalizing P P' with
  | nil => exact List.Subset.refl _
  | cons r rest ih => exact paths_mono (fun _ _ hP => ih hP) h

/-- A way either avoids a label or leads on from there. -/
theorem paths_split {start : Thread} (hsites : ∀ th, (n, th) ∈ sites r rest → th = start)
    (hfollow : ∀ P', P ⊆ P' → next P' = threadPaths l rest P')
    (hmono : ∀ P P', P ⊆ P' → next P' ⊆ next P)
    (hnext : ∀ P', P ⊆ P' → ∀ m ∈ next P', m ∈ next (n :: P') ∨ m ∈ threadPaths l start P')
    (hm : m ∈ paths l r rest next P) :
    m ∈ paths l r rest next (n :: P) ∨ m ∈ threadPaths l start P := by
  induction r generalizing rest next P m with
  | empty => exact hnext P (List.Subset.refl P) m hm
  | chars s => exact .inl hm
  | anchor a =>
    rw [paths] at hm ⊢
    split at hm
    · rw [if_pos ‹_›]
      exact hnext P (List.Subset.refl P) m hm
    · cases hm
  | once label =>
    by_cases hlabel : label = n
    · -- The way starts at the label itself.
      subst hlabel
      have hstart := hsites _ List.mem_cons_self
      rw [paths_congr hfollow] at hm
      rw [← hstart]
      exact .inr hm
    · rw [paths] at hm ⊢
      split at hm
      · cases hm
      · rename_i hP
        rw [if_neg (by simp [hlabel, hP])]
        refine (hnext _ (List.subset_cons_self label P) m hm).imp (fun h => ?_) fun h => ?_
        · exact hmono _ _ (by grind) h
        · exact threadPaths_mono start (List.subset_cons_self label P) h
  | cat a b iha ihb =>
    refine iha (fun th h => hsites th (List.mem_append_left _ h)) ?_ ?_ ?_ hm
    · exact fun P' hP => paths_congr fun P'' hP' => hfollow P'' (List.Subset.trans hP hP')
    · exact fun P P' hP => paths_mono hmono hP
    · exact fun P' hP m hm => ihb (fun th h => hsites th (List.mem_append_right _ h))
        (fun P'' hP' => hfollow P'' (List.Subset.trans hP hP')) hmono
        (fun P'' hP' => hnext P'' (List.Subset.trans hP hP')) hm
  | alt a b iha ihb =>
    rw [paths] at hm ⊢
    rcases List.mem_append.1 hm with hm | hm
    · have ha := iha (fun th h => hsites th (List.mem_append_left _ h)) hfollow hmono hnext hm
      exact ha.imp_left (List.mem_append_left _)
    · have hb := ihb (fun th h => hsites th (List.mem_append_right _ h)) hfollow hmono hnext hm
      exact hb.imp_left (List.mem_append_right _)
  | again label greedy a ih =>
    by_cases hlabel : label = n
    · subst hlabel
      have hstart := hsites _ List.mem_cons_self
      rw [paths_congr hfollow] at hm
      rw [← hstart]
      exact .inr hm
    · rw [paths] at hm ⊢
      split at hm
      · cases hm
      · rename_i hP
        rw [if_neg (by simp [hlabel, hP])]
        have hturn : ∀ m ∈ paths l a (again label greedy a :: rest) (fun _ => []) (label :: P),
            m ∈ paths l a (again label greedy a :: rest) (fun _ => []) (label :: n :: P) ∨
              m ∈ threadPaths l start P := by
          intro m hm
          have hsplit := ih (fun th h => hsites th (List.mem_cons_of_mem _ h))
            (fun P' hP' => (threadPaths_again_of_mem (hP' List.mem_cons_self)).symm)
            (fun _ _ _ => List.Subset.refl _) (fun _ _ _ h => nomatch h) hm
          refine hsplit.imp (fun h => ?_) fun h => ?_
          · exact paths_mono (fun _ _ _ => List.Subset.refl _) (by grind) h
          · exact threadPaths_mono start (List.subset_cons_self label P) h
        have hleave : ∀ m ∈ next (label :: P), m ∈ next (label :: n :: P) ∨
            m ∈ threadPaths l start P := by
          intro m hm
          refine (hnext _ (List.subset_cons_self label P) m hm).imp (fun h => ?_) fun h => ?_
          · exact hmono _ _ (by grind) h
          · exact threadPaths_mono start (List.subset_cons_self label P) h
        rcases mem_inOrder.1 hm with hm | hm
        · exact (hturn m hm).imp_left fun h => mem_inOrder.2 (.inl h)
        · exact (hleave m hm).imp_left fun h => mem_inOrder.2 (.inr h)

theorem threadPaths_split {start : Thread} (hsites : ∀ th', (n, th') ∈ threadSites th → th' = start)
    (hm : m ∈ threadPaths l th P) :
    m ∈ threadPaths l th (n :: P) ∨ m ∈ threadPaths l start P := by
  induction th generalizing P m with
  | nil => exact .inl hm
  | cons r rest ih =>
    exact paths_split (fun th' h => hsites th' (List.mem_append_left _ h)) (fun _ _ => rfl)
      (fun _ _ hP => threadPaths_mono rest hP)
      (fun P' _ m hm => ih (fun th' h => hsites th' (List.mem_append_right _ h)) hm) hm

/-! ## The search -/

section Search

variable {β : Type} (good : Move → Option β)

/-- The first success among the moves found so far. -/
def Frontier.best (f : Frontier) : Option β := f.moves.reverse.findSome? good

/-- What has been passed off the current way offers no success to it. -/
def Frontier.Exhausted (l : Look) (S : List (Nat × Thread)) (P : List Nat) (f : Frontier) : Prop :=
  ∀ label th, (label, th) ∈ S → f.passed.testBit label → label ∉ P →
    (threadPaths l th P).findSome? good = none

/-- The state of a search that has come along the way `P`. -/
structure Frontier.Along (l : Look) (S : List (Nat × Thread)) (P : List Nat) (f : Frontier) :
    Prop where
  passed : ∀ label ∈ P, f.passed.testBit label
  exhausted : f.best good = none → f.Exhausted good l S P

/-- A part of the search that has come along the way `P` finds what the moves offer and leaves
nothing behind. -/
def Searches (l : Look) (S : List (Nat × Thread)) (P : List Nat) (search : Frontier → Frontier)
    (ms : List Move) : Prop :=
  ∀ f : Frontier, f.Along good l S P →
    (search f).Along good l S P ∧ (search f).best good = (f.best good).or (ms.findSome? good)

variable {good} {f : Frontier} {search search' : Frontier → Frontier}

theorem Frontier.best_add : (f.add m).best good = (f.best good).or (good m) := by
  simp [best, add, List.findSome?_append]

theorem Frontier.testBit_pass {i : Nat} :
    (f.passed ||| 1 <<< n).testBit i = (f.passed.testBit i || decide (n = i)) := by
  rw [Nat.testBit_or, Nat.one_shiftLeft, Nat.testBit_two_pow]

theorem findSome?_of_subset {ms ms' : List Move} (h : ms ⊆ ms')
    (hnone : ms'.findSome? good = none) : ms.findSome? good = none :=
  List.findSome?_eq_none_iff.2 fun m hm => List.findSome?_eq_none_iff.1 hnone m (h hm)

theorem Searches.id : Searches good l S P id [] :=
  fun _ hf => ⟨hf, (Option.or_none).symm⟩

theorem Searches.comp {ms ms' : List Move} (h : Searches good l S P search ms)
    (h' : Searches good l S P search' ms') :
    Searches good l S P (search' ∘ search) (ms ++ ms') := by
  intro f hf
  obtain ⟨hmid, hbest⟩ := h f hf
  obtain ⟨hend, hbest'⟩ := h' _ hmid
  refine ⟨hend, ?_⟩
  rw [Function.comp_apply, hbest', hbest, List.findSome?_append, Option.or_assoc]

theorem Searches.inOrder {ms ms' : List Move} (greedy : Bool)
    (h : Searches good l S P search ms) (h' : Searches good l S P search' ms') :
    Searches good l S P (if greedy then search' ∘ search else search ∘ search')
      (inOrder greedy ms ms') := by
  cases greedy with
  | true => exact h.comp h'
  | false => exact h'.comp h

/-- Where a way has come to a label, those off the way have less to offer. -/
theorem Frontier.Along.cons (hf : f.Along good l S P) :
    ({ f with passed := f.passed ||| 1 <<< n } : Frontier).Along good l S (n :: P) := by
  refine ⟨fun i hi => ?_, fun hbest i thi hi hbit hP => ?_⟩
  · rw [testBit_pass]
    rcases List.mem_cons.1 hi with rfl | hi
    · simp
    · simp [hf.passed i hi]
  · obtain ⟨hin, hiP⟩ := not_or.1 (mt List.mem_cons.2 hP)
    rw [testBit_pass, Bool.or_eq_true_iff] at hbit
    have hbit' := hbit.resolve_right fun h => hin (of_decide_eq_true h).symm
    exact findSome?_of_subset (threadPaths_mono thi (List.subset_cons_self n P))
      (hf.exhausted hbest i thi hi hbit' hiP)

/-- Back from a label that has offered nothing, none of those passed behind it offers more: their
successes would have to come by the label. -/
theorem Frontier.Along.back (hS : Consistent S) (hn : (n, th) ∈ S)
    (hf : f.Along good l S (n :: P))
    (hnone : f.best good = none → (threadPaths l th P).findSome? good = none) :
    f.Along good l S P := by
  refine ⟨fun i hi => hf.passed i (List.mem_cons_of_mem n hi), fun hbest i thi hi hbit hP => ?_⟩
  by_cases hin : i = n
  · subst hin
    rw [hS.unambiguous i thi th hi hn]
    exact hnone hbest
  · have hsites : ∀ th', (n, th') ∈ threadSites thi → th' = th := fun th' h =>
      hS.unambiguous n th' th (hS.closed i thi hi h) hn
    have hi' := hf.exhausted hbest i thi hi hbit (by simp [hin, hP])
    refine List.findSome?_eq_none_iff.2 fun m hm => ?_
    rcases threadPaths_split hsites hm with hm | hm
    · exact List.findSome?_eq_none_iff.1 hi' m hm
    · exact List.findSome?_eq_none_iff.1 (hnone hbest) m hm

/-- A label that has been passed offers nothing more; else it is added to the way. -/
theorem Searches.pass {ms : List Move} (hS : Consistent S) (hn : (n, th) ∈ S)
    (hmem : n ∈ P → threadPaths l th P = []) (hms : n ∉ P → threadPaths l th P = ms)
    (h : Searches good l S (n :: P) search ms) :
    Searches good l S P (Frontier.pass n search) (threadPaths l th P) := by
  intro f hf
  rw [Frontier.pass]
  split
  · rename_i hbit
    -- passed before: on this way, which ends here, or off it, where success would have been found
    refine ⟨hf, ?_⟩
    cases hbest : f.best good with
    | some x => rfl
    | none =>
      have hnone : (threadPaths l th P).findSome? good = none := by
        by_cases hP : n ∈ P
        · rw [hmem hP]
          rfl
        · exact hf.exhausted hbest n th hn hbit hP
      rw [hnone]
      rfl
  · rename_i hbit
    obtain ⟨hend, hbest⟩ := h _ hf.cons
    rw [hms fun hP => hbit (hf.passed n hP)]
    refine ⟨hend.back hS hn fun hnone => ?_, hbest⟩
    rw [hms fun hP => hbit (hf.passed n hP)]
    rw [hbest] at hnone
    exact (Option.or_eq_none_iff.1 hnone).2

/-- What holds of the search of what follows, on every way to it, holds of the search before. -/
theorem explore_searches (hS : Consistent S) (hr : sites r rest ⊆ S)
    (hfollow : ∀ P', P ⊆ P' → next P' = threadPaths l rest P')
    (hsearch : ∀ P', P ⊆ P' → Searches good l S P' search (next P')) :
    Searches good l S P (explore l r rest search) (paths l r rest next P) := by
  induction r generalizing rest next search P with
  | empty => exact hsearch P (List.Subset.refl P)
  | chars s =>
    intro f hf
    have hbest : (f.add (.read s rest)).best good = _ := Frontier.best_add
    refine ⟨⟨hf.passed, fun h => hf.exhausted ?_⟩, ?_⟩
    · rw [explore, hbest] at h
      exact (Option.or_eq_none_iff.1 h).1
    · rw [explore, hbest]
      simp [paths]
  | anchor a =>
    rw [explore, paths]
    cases ha : a.holds l with
    | true => exact hsearch P (List.Subset.refl P)
    | false => exact .id
  | once label =>
    rw [paths_congr hfollow]
    refine .pass hS (hr List.mem_cons_self) (fun hP => if_pos hP) (fun hP => ?_)
      (hsearch _ (List.subset_cons_self label P))
    rw [hfollow _ (List.subset_cons_self label P)]
    exact if_neg hP
  | cat a b iha ihb =>
    obtain ⟨ha, hb⟩ := List.append_subset.1 hr
    refine iha ha
      (fun P' hP => paths_congr fun P'' hP' => hfollow P'' (List.Subset.trans hP hP')) ?_
    exact fun P' hP => ihb hb (fun P'' hP' => hfollow P'' (List.Subset.trans hP hP'))
      fun P'' hP' => hsearch P'' (List.Subset.trans hP hP')
  | alt a b iha ihb =>
    obtain ⟨ha, hb⟩ := List.append_subset.1 hr
    exact (iha ha hfollow hsearch).comp (ihb hb hfollow hsearch)
  | again label greedy a ih =>
    obtain ⟨hlabel, ha⟩ := List.cons_subset.1 hr
    -- a turn that reads nothing comes back to the label, so it is followed by no search at all
    have hturn : Searches good l S (label :: P)
        (explore l a (again label greedy a :: rest) id)
        (paths l a (again label greedy a :: rest) (fun _ => []) (label :: P)) :=
      ih ha (fun P' hP => (threadPaths_again_of_mem (hP List.mem_cons_self)).symm) fun _ _ => .id
    rw [paths_congr hfollow]
    refine .pass hS hlabel threadPaths_again_of_mem (fun hP => ?_)
      (hturn.inOrder greedy (hsearch _ (List.subset_cons_self label P)))
    rw [hfollow _ (List.subset_cons_self label P)]
    exact if_neg hP

theorem exploreThread_searches (hS : Consistent S) (hth : threadSites th ⊆ S) :
    Searches good l S P (exploreThread l th) (threadPaths l th P) := by
  induction th generalizing P with
  | nil =>
    intro f hf
    have hbest : (f.add .stop).best good = _ := Frontier.best_add
    refine ⟨⟨hf.passed, fun h => hf.exhausted ?_⟩, ?_⟩
    · rw [exploreThread, hbest] at h
      exact (Option.or_eq_none_iff.1 h).1
    · rw [exploreThread, hbest]
      simp [threadPaths]
  | cons r rest ih =>
    obtain ⟨hr, hrest⟩ := List.append_subset.1 hth
    exact explore_searches hS hr (fun _ _ => rfl) fun _ _ => ih hrest

/-- All threads together come to the success of the first that has one. -/
theorem findSome?_moves (hS : Consistent S) {alive : List Thread}
    (halive : ∀ th ∈ alive, threadSites th ⊆ S) :
    (moves l alive).findSome? good =
      alive.findSome? fun th => (threadPaths l th []).findSome? good := by
  -- between threads no way is under way, so all that has been passed is exhausted
  have hfold : ∀ f : Frontier, f.Along good l S [] →
      (alive.foldl (fun f th => exploreThread l th f) f).best good =
        (f.best good).or (alive.findSome? fun th => (threadPaths l th []).findSome? good) := by
    induction alive with
    | nil => exact fun f _ => Option.or_none.symm
    | cons th alive ih =>
      obtain ⟨hth, halive⟩ := List.forall_mem_cons.1 halive
      intro f hf
      obtain ⟨hmid, hbest⟩ := exploreThread_searches hS hth f hf
      rw [List.foldl_cons, ih halive _ hmid, hbest, List.findSome?_cons, Option.or_assoc]
      cases (threadPaths l th []).findSome? good <;> rfl
  have hstart : ({} : Frontier).Along good l S [] :=
    ⟨nofun, fun _ _ _ _ hbit _ => absurd hbit (by simp)⟩
  exact hfold {} hstart

end Search

/-! ## Matches -/

theorem sites_of_mem_paths {s : CharSet} {rest' : Thread} (hr : sites r rest ⊆ S)
    (hrest : threadSites rest ⊆ S)
    (hnext : ∀ P, .read s rest' ∈ next P → threadSites rest' ⊆ S)
    (hm : .read s rest' ∈ paths l r rest next P) : threadSites rest' ⊆ S := by
  induction r generalizing rest next P with
  | empty => exact hnext P hm
  | chars s' =>
    cases List.mem_singleton.1 hm
    exact hrest
  | anchor a =>
    rw [paths] at hm
    split at hm
    · exact hnext P hm
    · cases hm
  | once label =>
    rw [paths] at hm
    split at hm
    · cases hm
    · exact hnext _ hm
  | cat a b iha ihb =>
    obtain ⟨ha, hb⟩ := List.append_subset.1 hr
    exact iha ha (List.append_subset.2 ⟨hb, hrest⟩) (fun P hm => ihb hb hrest hnext hm) hm
  | alt a b iha ihb =>
    obtain ⟨ha, hb⟩ := List.append_subset.1 hr
    rcases List.mem_append.1 hm with hm | hm
    · exact iha ha hrest hnext hm
    · exact ihb hb hrest hnext hm
  | again label greedy a ih =>
    rw [paths] at hm
    split at hm
    · cases hm
    · rcases mem_inOrder.1 hm with hm | hm
      · exact ih (List.cons_subset.1 hr).2 (List.append_subset.2 ⟨hr, hrest⟩)
          (fun _ h => absurd h List.not_mem_nil) hm
      · exact hnext _ hm

theorem sites_of_mem_threadPaths {s : CharSet} (hth : threadSites th ⊆ S)
    (hm : .read s rest ∈ threadPaths l th P) : threadSites rest ⊆ S := by
  induction th generalizing P with
  | nil => cases List.mem_singleton.1 hm
  | cons r rest' ih =>
    obtain ⟨hr, hrest⟩ := List.append_subset.1 hth
    exact sites_of_mem_paths hr hrest (fun _ hm => ih hrest hm) hm

/-- The length of the preferred match that a move before the given text leads to. -/
def Move.goal (t : Text) : Move → Option Nat
  | .stop => some 0
  | .read s rest => match t with
    | [] => none
    | c :: t => if s.mem c then ((lengths rest (some c) t).head?).map (· + 1) else none

theorem head?_lengths (th : Thread) (b : Option Char) (t : Text) :
    (lengths th b t).head? = (threadPaths ⟨b, t.head?⟩ th []).findSome? (Move.goal t) := by
  cases t with
  | nil =>
    rw [lengths, List.head?_flatMap]
    refine congrArg (fun g => List.findSome? g _) (funext fun m => ?_)
    cases m <;> rfl
  | cons c t =>
    rw [lengths, List.head?_flatMap]
    refine congrArg (fun g => List.findSome? g _) (funext fun m => ?_)
    cases m with
    | stop => rfl
    | read s rest => cases hs : s.mem c <;> simp [Move.goal, hs]

theorem findSome?_goal_nil (ms : List Move) :
    ms.findSome? (Move.goal []) = if ms.contains .stop then some 0 else none := by
  induction ms with
  | nil => rfl
  | cons m ms ih =>
    cases m with
    | stop => rfl
    | read s rest =>
      rw [List.findSome?_cons, ih]
      simp [Move.goal]

/-- Among moves, those that read on are preferred to a stop behind them. -/
theorem findSome?_goal_cons (c : Char) (t : Text) (ms : List Move) :
    ms.findSome? (Move.goal (c :: t)) =
      match (survivors c ms).findSome? fun th => (lengths th (some c) t).head? with
      | some n => some (n + 1)
      | none => if ms.contains .stop then some 0 else none := by
  induction ms with
  | nil => rfl
  | cons m ms ih =>
    cases m with
    | stop => rfl
    | read s rest =>
      rw [List.findSome?_cons, ih, survivors]
      cases hs : s.mem c with
      | false => simp [Move.goal, hs]
      | true =>
        cases h : (lengths rest (some c) t).head? with
        | none => simp [Move.goal, hs, h]
        | some n => simp [Move.goal, hs, h]

theorem mem_moves (hS : Consistent S) {alive : List Thread}
    (halive : ∀ th ∈ alive, threadSites th ⊆ S) (hm : m ∈ moves l alive) :
    ∃ th ∈ alive, m ∈ threadPaths l th [] := by
  -- a search that looks for this move alone
  let good : Move → Option Move := fun m' => if m' = m then some m' else none
  have hsome : ((moves l alive).findSome? good).isSome :=
    List.findSome?_isSome_iff.2 ⟨m, hm, by simp [good]⟩
  rw [findSome?_moves hS halive] at hsome
  obtain ⟨th, hth, hsome⟩ := List.findSome?_isSome_iff.1 hsome
  obtain ⟨m', hm', hgood⟩ := List.findSome?_isSome_iff.1 hsome
  refine ⟨th, hth, ?_⟩
  by_cases h : m' = m
  · exact h ▸ hm'
  · simp [good, h] at hgood

theorem findSome?_lengths (hS : Consistent S) {alive : List Thread}
    (halive : ∀ th ∈ alive, threadSites th ⊆ S) (b : Option Char) (t : Text) :
    alive.findSome? (fun th => (lengths th b t).head?) =
      (moves ⟨b, t.head?⟩ alive).findSome? (Move.goal t) := by
  rw [findSome?_moves hS halive]
  exact congrArg (fun g => alive.findSome? g) (funext fun th => head?_lengths th b t)

/-- The search finds the first match of the first thread that has one. -/
theorem scan_eq (hS : Consistent S) {alive : List Thread}
    (halive : ∀ th ∈ alive, threadSites th ⊆ S) (b : Option Char) (t : Text) :
    scan alive b t = alive.findSome? fun th => (lengths th b t).head? := by
  induction t generalizing alive b with
  | nil =>
    rw [findSome?_lengths hS halive, findSome?_goal_nil]
    cases alive with
    | nil => rfl
    | cons th alive =>
      rw [scan]
      · rfl
      · simp
  | cons c t ih =>
    rw [findSome?_lengths hS halive, findSome?_goal_cons]
    cases alive with
    | nil => rfl
    | cons th alive =>
      have hrest : ∀ th' ∈ survivors c (moves ⟨b, some c⟩ (th :: alive)), threadSites th' ⊆ S := by
        intro th' hth'
        obtain ⟨s, hm, -⟩ := mem_survivors hth'
        obtain ⟨th₀, hth₀, hm⟩ := mem_moves hS halive hm
        exact sites_of_mem_threadPaths (halive th₀ hth₀) hm
      rw [scan, ih hrest]
      · rfl
      · simp

/-- What is found at the start of a text is the first of all matches. -/
theorem atStart_eq (hr : Unambiguous (threadSites [r])) (t : Text) :
    r.atStart t = (lengths [r] none t).head? := by
  rw [atStart, scan_eq ⟨hr, closed_threadSites [r]⟩ (by simp)]
  simp

end Descent.Regex
