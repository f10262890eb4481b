import Descent.Proofs.Blanks
import Descent.Proofs.Numeral
import Descent.Vocabulary.Mapping

/-! # Arithmetic expressions

Sums of products of integers and of sums in parentheses, parsed by one loop at each of the two
levels. The loops fold from the left what they read, so every spelling of an expression that has the
parentheses that precedence and associativity ask for is read as the value of that expression. -/
namespace Descent.Arithmetic

open Cursor (ahead_past ahead_past_cons)
open Text (noDigit_blank_append)
open Unicode (isWhiteSpace)

inductive Operator where
  | plus | minus | times | divide
deriving DecidableEq

inductive Expr where
  | number (n : Int64)
  | operation (op : Operator) (a b : Expr)

/-- What an expression is made of, from the innermost on. -/
inductive Level where
  | factor | term | expr
deriving DecidableEq

namespace Operator

def symbol : Operator → Char
  | plus => '+'
  | minus => '-'
  | times => '*'
  | divide => '/'

def level : Operator → Level
  | plus | minus => .expr
  | times | divide => .term

/-- Integers wrap, and a quotient by zero is zero. -/
def wrapping : Operator → Int64 → Int64 → Int64
  | plus, a, b => a + b
  | minus, a, b => a - b
  | times, a, b => a * b
  | divide, a, b => a / b

theorem isWhiteSpace_symbol (op : Operator) : isWhiteSpace op.symbol = false := by
  cases op <;> decide

theorem isDigit_symbol (op : Operator) : op.symbol.isDigit = false := by
  cases op <;> rfl

end Operator

/-- The value from the bottom up, for any meaning of the operators. -/
def Expr.value (apply : Operator → Int64 → Int64 → Int64) : Expr → Int64
  | number n => n
  | operation op a b => apply op (a.value apply) (b.value apply)

/-! ## Spellings -/

def Blank (s : Text) : Prop := ∀ x ∈ s, isWhiteSpace x = true

instance (s : Text) : Decidable (Blank s) := List.decidableBAll _ s

/-- The texts that spell an expression as a part of the given level. White space may stand before
every token. Operands on the left are of the level of the operator, those on the right of the level
below. -/
inductive Spelled : Level → Expr → Text → Prop
  | number {s w : Text} {n : Int64} : Blank s → Numeral w n → Spelled .factor (.number n) (s ++ w)
  | group {s t s' : Text} {e : Expr} : Blank s → Spelled .expr e t → Blank s' →
    Spelled .factor e (s ++ '(' :: (t ++ (s' ++ [')'])))
  | factor {t : Text} {e : Expr} : Spelled .factor e t → Spelled .term e t
  | term {t : Text} {e : Expr} : Spelled .term e t → Spelled .expr e t
  | product {op : Operator} {a b : Expr} {t s u : Text} : op.level = .term → Spelled .term a t →
    Blank s → Spelled .factor b u → Spelled .term (.operation op a b) (t ++ (s ++ op.symbol :: u))
  | sum {op : Operator} {a b : Expr} {t s u : Text} : op.level = .expr → Spelled .expr a t →
    Blank s → Spelled .term b u → Spelled .expr (.operation op a b) (t ++ (s ++ op.symbol :: u))

/-! ## The grammar -/

section Grammar

/-- An operator of a level, given by the two symbols there are, and an operand. -/
def step (x y : Char) (operand : Grammar) : Grammar :=
  .both (.either (.literal [x]) (.literal [y])) operand

def chain (fold : Value → Value) (name : String) (x y : Char) (operand : Grammar) : Grammar :=
  .shared (.named name (.map fold (.both operand (.many (step x y operand)))))

def factor : Grammar :=
  .shared (.named "factor"
    (.either .integer (.between (.literal ['(']) (.rule "expr") (.literal [')']))))

def term (fold : Value → Value) : Grammar := chain fold "term" '*' '/' factor

def expr (fold : Value → Value) : Grammar := chain fold "expr" '+' '-' (term fold)

/-- An operator with its right operand, as a chain hands it over. -/
def stepValue (s : Operator × Int64) : Value := .pair (.text [s.1.symbol]) (.int s.2)

def foldSteps (apply : Operator → Int64 → Int64 → Int64) (n : Int64)
    (steps : List (Operator × Int64)) : Int64 :=
  steps.foldl (fun v s => apply s.1 v s.2) n

/-- The mapping is a left fold of the operators over what a chain has read. -/
def Folds (apply : Operator → Int64 → Int64 → Int64) (fold : Value → Value) : Prop :=
  ∀ n steps, fold (.pair (.int n) (.list (steps.map stepValue))) = .int (foldSteps apply n steps)

theorem foldFrom_steps (n : Int64) (steps : List (Operator × Int64)) :
    Mapping.foldFrom (.int n) (steps.map stepValue) =
      some (.int (foldSteps Operator.wrapping n steps)) := by
  induction steps generalizing n with
  | nil => rfl
  | cons s steps ih =>
    obtain ⟨op, m⟩ := s
    have hop : Mapping.operate [op.symbol] (.int n) (.int m) = some (.int (op.wrapping n m)) := by
      cases op <;> rfl
    rw [List.map_cons, stepValue, Mapping.foldFrom, hop]
    exact ih _

theorem folds_fold : Folds Operator.wrapping Mapping.fold := by
  intro n steps
  rw [Mapping.fold, foldFrom_steps]
  rfl

end Grammar

/-! ## Reading tokens -/

variable {c : Cursor} {s t u k : Text} {x y : Char}

section Tokens

variable (rules : Rules)

theorem reads_literal (hc : c.skip = some .whiteSpace) (h : c.ahead = s ++ x :: t) (hs : Blank s)
    (hx : isWhiteSpace x = false) :
    (Grammar.literal [x]).Reads rules c (.text [x]) (c.past (s.length + 1)) :=
  ⟨_, Grammar.literal_yields rules hc h hs hx, rfl⟩

/-- The first character that is not white, if any. -/
def next (k : Text) : Option Char := (k.dropWhile isWhiteSpace).head?

theorem next_blank_append (hs : Blank s) (hx : isWhiteSpace x = false) :
    next (s ++ x :: t) = some x :=
  Text.head?_dropWhile_append hs hx

theorem next_blank (hs : Blank s) : next s = none := by
  have hnil : (s ++ []).dropWhile isWhiteSpace = [] := List.dropWhile_append_of_pos hs
  rw [List.append_nil] at hnil
  rw [next, hnil]
  rfl

theorem noDigit_blank (hs : Blank s) : ∀ x ∈ s.head?, x.isDigit = false :=
  fun x hx => Text.isDigit_of_isWhiteSpace (hs x (List.mem_of_mem_head? hx))

theorem integer_reads {w : Text} {n : Int64} (hc : c.skip = some .whiteSpace)
    (h : c.ahead = s ++ (w ++ k)) (hs : Blank s) (hw : Numeral w n)
    (hk : ∀ x ∈ k.head?, x.isDigit = false) :
    Grammar.integer.Reads rules c (.int n) (c.past (s ++ w).length) :=
  ⟨_, Grammar.integer_yields rules hc h hs hw.signedDigits hk, rfl⟩

theorem integer_fails (hc : c.skip = some .whiteSpace) (h : c.ahead = s ++ x :: t) (hs : Blank s)
    (hx : isWhiteSpace x = false) (hsign : x ≠ '+' ∧ x ≠ '-')
    (hdigit : x.isDigit = false) :
    ∃ e, Grammar.integer.Returns rules .parse c (.failure e) := by
  have hskip := Cursor.skipped_blank hc h hs (by simpa using hx)
  have hleaf : Grammar.integer.Returns rules .apply c.skipped _ := Grammar.returns_leaf rfl
  rw [hskip, ahead_past h, Leaf.answerInteger_refuses hsign hdigit] at hleaf
  exact ⟨_, Grammar.returns_parse.2 (hskip ▸ hleaf)⟩

end Tokens

/-! ## Chains -/

section Chain

variable {rules : Rules} {apply : Operator → Int64 → Int64 → Int64} {fold : Value → Value}
variable {operand : Grammar}
variable {name : String} {op : Operator} {n v w : Int64} {d m : Cursor}

/-- Up to `d`, the chain from `c` on has the given value, and it may go on there. -/
def Opens (rules : Rules) (apply : Operator → Int64 → Int64 → Int64) (x y : Char)
    (operand : Grammar) (c : Cursor) (v : Int64) (d : Cursor) : Prop :=
  ∃ n steps i, operand.Reads rules c (.int n) (c.past i) ∧ foldSteps apply n steps = v ∧
    ∀ more e, (step x y operand).Loops rules d more e →
      (step x y operand).Loops rules (c.past i) (steps.map stepValue ++ more) e

theorem Opens.single {i : Nat} (h : operand.Reads rules c (.int v) (c.past i)) :
    Opens rules apply x y operand c v (c.past i) :=
  ⟨v, [], i, h, rfl, fun _ _ he => he⟩

/-- One more operator and operand. -/
theorem Opens.extend (h : Opens rules apply x y operand c v m)
    (hstep : (step x y operand).Reads rules m (stepValue (op, w)) d) :
    Opens rules apply x y operand c (apply op v w) d := by
  obtain ⟨n, steps, i, hn, rfl, hloop⟩ := h
  refine ⟨n, steps ++ [(op, w)], i, hn, ?_, fun more e he => ?_⟩
  · simp [foldSteps]
  · have hmore := hloop _ e (.more hstep he)
    simpa using hmore

/-- Where no operator follows, a chain ends. -/
theorem Opens.close (hc : c.skip = some .whiteSpace) (hfold : Folds apply fold)
    (h : Opens rules apply x y operand c v d)
    (hd : ∃ e, (step x y operand).Returns rules .parse d (.failure e)) :
    (chain fold name x y operand).Reads rules c (.int v) d := by
  obtain ⟨n, steps, i, hn, rfl, hloop⟩ := h
  obtain ⟨e, he⟩ := hd
  have hsteady := Cursor.steady_whiteSpace hc
  have hsteps := hloop [] d (.stop he)
  rw [List.append_nil] at hsteps
  have hboth := hn.both hsteady (.many (hsteady.past i) hsteps)
  have hmap := hboth.map hsteady fold
  rw [hfold] at hmap
  exact (hmap.named name).shared

theorem step_fails (hd : d.skip = some .whiteSpace) (hx : next d.ahead ≠ some x)
    (hy : next d.ahead ≠ some y) : ∃ e, (step x y operand).Returns rules .parse d (.failure e) := by
  obtain ⟨e, he⟩ := Grammar.literal_fails rules hd hx
  obtain ⟨e', he'⟩ := Grammar.literal_fails rules hd hy
  have hsteady := Cursor.steady_whiteSpace hd
  have heither := ((Grammar.returns_parse_skipped hsteady).2 he).either_right
    ((Grammar.returns_parse_skipped hsteady).2 he')
  have hboth := ((Grammar.returns_parse_skipped hsteady).2
    (Grammar.returns_parse.2 heither)).both_fails (b := operand)
  exact ⟨e', Grammar.returns_parse.2 hboth⟩

theorem step_reads (hd : d.skip = some .whiteSpace) (h : d.ahead = s ++ op.symbol :: u)
    (hs : Blank s) (hop : op.symbol = x ∨ op.symbol = y)
    (hw : operand.Reads rules (d.past (s.length + 1)) (.int w) m) :
    (step x y operand).Reads rules d (stepValue (op, w)) m := by
  have hsteady := Cursor.steady_whiteSpace hd
  have hlit : (Grammar.either (.literal [x]) (.literal [y])).Reads rules d (.text [op.symbol])
      (d.past (s.length + 1)) := by
    have hread := reads_literal rules hd h hs op.isWhiteSpace_symbol
    by_cases hx : op.symbol = x
    · rw [hx] at hread ⊢
      exact hread.either_left hsteady
    · obtain rfl := hop.resolve_left hx
      have hnext : next d.ahead ≠ some x := by
        rw [h, next_blank_append hs op.isWhiteSpace_symbol]
        exact fun hxy => hx (Option.some.inj hxy)
      obtain ⟨e, he⟩ := Grammar.literal_fails rules hd hnext
      exact hread.either_right hsteady he
  exact hlit.both hsteady hw

end Chain

/-! ## Expressions -/

variable {rules : Rules} {apply : Operator → Int64 → Int64 → Int64} {fold : Value → Value}
variable {e : Expr}

theorem symbol_term {op : Operator} (h : op.level = .term) :
    op.symbol = '*' ∨ op.symbol = '/' := by
  cases op with
  | plus | minus => cases h
  | times => exact .inl rfl
  | divide => exact .inr rfl

theorem symbol_expr {op : Operator} (h : op.level = .expr) :
    op.symbol = '+' ∨ op.symbol = '-' := by
  cases op with
  | plus => exact .inl rfl
  | minus => exact .inr rfl
  | times | divide => cases h

/-- What follows does not go on with a product. -/
def NoProduct (k : Text) : Prop := next k ≠ some '*' ∧ next k ≠ some '/'

/-- What follows does not go on with a sum. -/
def NoSum (k : Text) : Prop := next k ≠ some '+' ∧ next k ≠ some '-'

/-- The parser of a level reads a text as a value, whatever stands behind that does not belong to
the last operand. The chain of the level itself may go on. -/
def Understood (rules : Rules) (apply : Operator → Int64 → Int64 → Int64) (fold : Value → Value)
    (l : Level) (v : Int64) (t : Text) : Prop :=
  ∀ c k, c.skip = some .whiteSpace → c.ahead = t ++ k → (∀ x ∈ k.head?, x.isDigit = false) →
    match l with
    | .factor => factor.Reads rules c (.int v) (c.past t.length)
    | .term => Opens rules apply '*' '/' factor c v (c.past t.length)
    | .expr => NoProduct k → Opens rules apply '+' '-' (term fold) c v (c.past t.length)

theorem Understood.term {v : Int64} (hfold : Folds apply fold)
    (h : Understood rules apply fold .term v t) (hc : c.skip = some .whiteSpace)
    (hk : c.ahead = t ++ k) (hdigit : ∀ x ∈ k.head?, x.isDigit = false) (hnext : NoProduct k) :
    (term fold).Reads rules c (.int v) (c.past t.length) := by
  refine (h c k hc hk hdigit).close hc hfold (step_fails hc ?_ ?_)
  · rw [ahead_past hk]
    exact hnext.1
  · rw [ahead_past hk]
    exact hnext.2

theorem Understood.expr {v : Int64} (hfold : Folds apply fold)
    (h : Understood rules apply fold .expr v t) (hc : c.skip = some .whiteSpace)
    (hk : c.ahead = t ++ k) (hdigit : ∀ x ∈ k.head?, x.isDigit = false) (hproduct : NoProduct k)
    (hsum : NoSum k) : (expr fold).Reads rules c (.int v) (c.past t.length) := by
  refine (h c k hc hk hdigit hproduct).close hc hfold (step_fails hc ?_ ?_)
  · rw [ahead_past hk]
    exact hsum.1
  · rw [ahead_past hk]
    exact hsum.2

theorem understood_number {w : Text} {n : Int64} (hs : Blank s) (hw : Numeral w n) :
    Understood rules apply fold .factor n (s ++ w) := by
  intro c k hc hk hdigit
  rw [List.append_assoc] at hk
  have hint := integer_reads rules hc hk hs hw hdigit
  exact ((hint.either_left (Cursor.steady_whiteSpace hc)).named "factor").shared

theorem understood_group {v : Int64} {s' : Text} (hfold : Folds apply fold)
    (hrules : rules "expr" = expr fold) (hs : Blank s) (ht : Understood rules apply fold .expr v t)
    (hs' : Blank s') :
    Understood rules apply fold .factor v (s ++ '(' :: (t ++ (s' ++ [')']))) := by
  intro c k hc hk _
  replace hk : c.ahead = s ++ '(' :: (t ++ (s' ++ ')' :: k)) := by simpa using hk
  have hinner := ahead_past_cons hk
  have hclosed : next (s' ++ ')' :: k) = some ')' := next_blank_append hs' (by decide)
  have hopen := reads_literal rules hc hk hs (by decide)
  have hexpr := ht.expr hfold (c := c.past (s.length + 1)) hc hinner
    (noDigit_blank_append hs' (by decide)) ⟨by simp [hclosed], by simp [hclosed]⟩
    ⟨by simp [hclosed], by simp [hclosed]⟩
  rw [← hrules] at hexpr
  have hclose := reads_literal rules (c := (c.past (s.length + 1)).past t.length) hc
    (ahead_past hinner) hs' (by decide)
  have hsteady := Cursor.steady_whiteSpace hc
  have hbetween := (hopen.keepRight hsteady (hexpr.rule (hsteady.past _))).keepLeft hsteady hclose
  -- the first branch, a number, has to be refused at the parenthesis
  obtain ⟨e, he⟩ := integer_fails rules hc hk hs (by decide) (by decide) (by decide)
  have hfactor := ((hbetween.either_right hsteady he).named "factor").shared
  rw [Cursor.past_past, Cursor.past_past] at hfactor
  have hlength : s.length + 1 + (t.length + (s'.length + 1)) =
      (s ++ '(' :: (t ++ (s' ++ [')']))).length := by
    simp only [List.length_append, List.length_cons, List.length_nil]
    omega
  rw [hlength] at hfactor
  exact hfactor

/-- A left operand, an operator of its level and a right operand, which ends there. -/
theorem opens_operation {op : Operator} {operand : Grammar} {v w : Int64}
    (hc : c.skip = some .whiteSpace) (hk : c.ahead = t ++ (s ++ op.symbol :: (u ++ k)))
    (hs : Blank s) (hop : op.symbol = x ∨ op.symbol = y)
    (hleft : Opens rules apply x y operand c v (c.past t.length))
    (hright : ∀ d : Cursor, d.skip = some .whiteSpace → d.ahead = u ++ k →
      operand.Reads rules d (.int w) (d.past u.length)) :
    Opens rules apply x y operand c (apply op v w)
      (c.past (t ++ (s ++ op.symbol :: u)).length) := by
  have hsymbol := ahead_past hk
  have hoperand := hright ((c.past t.length).past (s.length + 1)) hc (ahead_past_cons hsymbol)
  have hstep := hleft.extend (step_reads hc hsymbol hs hop hoperand)
  rw [Cursor.past_past, Cursor.past_past] at hstep
  have hlength : t.length + (s.length + 1 + u.length) = (t ++ (s ++ op.symbol :: u)).length := by
    simp only [List.length_append, List.length_cons]
    omega
  rwa [hlength] at hstep

/-- By induction on the spelling. -/
theorem Spelled.understood {l : Level} (h : Spelled l e t) (hfold : Folds apply fold)
    (hrules : rules "expr" = expr fold) :
    Understood rules apply fold l (e.value apply) t := by
  induction h with
  | number hs hw => exact understood_number hs hw
  | group hs _ hs' ih => exact understood_group hfold hrules hs ih hs'
  | factor _ ih => exact fun c k hc hk hdigit => .single (ih c k hc hk hdigit)
  | term _ ih =>
    exact fun c k hc hk hdigit hnext => .single (ih.term hfold hc hk hdigit hnext)
  | @product op a b t s u hop _ hs _ iha ihb =>
    intro c k hc hk hdigit
    replace hk : c.ahead = t ++ (s ++ op.symbol :: (u ++ k)) := by simpa using hk
    have hleft := iha c _ hc hk (noDigit_blank_append hs op.isDigit_symbol)
    exact opens_operation hc hk hs (symbol_term hop) hleft
      fun d hd hu => ihb d k hd hu hdigit
  | @sum op a b t s u hop _ hs _ iha ihb =>
    intro c k hc hk hdigit hproduct
    replace hk : c.ahead = t ++ (s ++ op.symbol :: (u ++ k)) := by simpa using hk
    -- the left operand is a sum, whose last product ends at the operator
    have hnext : NoProduct (s ++ op.symbol :: (u ++ k)) := by
      rw [NoProduct, next_blank_append hs op.isWhiteSpace_symbol]
      cases op with
      | plus | minus => decide
      | times | divide => cases hop
    have hleft := iha c _ hc hk (noDigit_blank_append hs op.isDigit_symbol) hnext
    exact opens_operation hc hk hs (symbol_expr hop) hleft
      fun d hd hu => ihb.term hfold hd hu hdigit hproduct

/-- Every spelling of an expression, read to the end of the source, yields its value. -/
theorem returns_value (hfold : Folds apply fold) (hrules : rules "expr" = expr fold)
    (h : Spelled .expr e t) (hk : Blank k) (hc : c.skip = some .whiteSpace)
    (hahead : c.ahead = t ++ k) :
    (Grammar.keepLeft (expr fold) .atEnd).Returns rules .parse c
      (.success (.int (e.value apply)) (c.past c.ahead.length)) := by
  have hnext := next_blank hk
  have hread := (h.understood hfold hrules).expr hfold hc hahead (noDigit_blank hk)
    ⟨by simp [hnext], by simp [hnext]⟩ ⟨by simp [hnext], by simp [hnext]⟩
  obtain ⟨r, hr, hskip⟩ := hread
  have hsteady := Cursor.steady_whiteSpace hc
  have hend : r.skipped = c.past c.ahead.length := by
    have hrest : (c.past t.length).skipped = (c.past t.length).past k.length :=
      Cursor.skipped_blank (t := []) hc (by simpa using ahead_past hahead) hk (by simp)
    rw [hskip, hrest, Cursor.past_past, hahead, List.length_append]
  have hleaf : Grammar.atEnd.Returns rules .apply r.skipped _ := Grammar.returns_leaf rfl
  have hempty : Leaf.answerEnd r.skipped.ahead = .accepts .unit 0 := by
    rw [hend, Cursor.past_ahead, List.drop_length]
    rfl
  rw [hempty, Leaf.Answer.outcome, Cursor.past_zero] at hleaf
  rw [← hend]
  exact Grammar.returns_parse.2 (((Grammar.returns_parse_skipped hsteady).2 hr).keepLeft
    (Grammar.returns_parse.2 hleaf))

theorem returns_value_spaced :
    (Grammar.keepLeft (expr Mapping.fold) .atEnd).Returns (fun _ => expr Mapping.fold) .parse
      (.start " (1 - -2)* 3 ".toList)
      (.success (.int 9) ⟨" (1 - -2)* 3 ".toList, [], some .whiteSpace⟩) := by
  have hone : Spelled .factor (.number 1) ([] ++ ['1']) :=
    .number (by decide) (.plain (by decide) (List.forall_mem_singleton.2 rfl) (by decide))
  have htwo : Spelled .factor (.number (-2)) ([' '] ++ ['-', '2']) :=
    .number (by decide) (.minus (by decide) (List.forall_mem_singleton.2 rfl) (by decide))
  have hthree : Spelled .factor (.number 3) ([' '] ++ ['3']) :=
    .number (by decide) (.plain (by decide) (List.forall_mem_singleton.2 rfl) (by decide))
  have hdifference : Spelled .expr (.operation .minus (.number 1) (.number (-2))) "1 - -2".toList :=
    .sum (s := [' ']) rfl (.term (.factor hone)) (by decide) (.factor htwo)
  have hgroup : Spelled .factor _ ([' '] ++ '(' :: ("1 - -2".toList ++ ([] ++ [')']))) :=
    .group (by decide) hdifference (by decide)
  have hproduct : Spelled .term (.operation .times _ (.number 3)) " (1 - -2)* 3".toList :=
    .product (s := []) rfl (.factor hgroup) (by decide) hthree
  exact returns_value folds_fold rfl (.term hproduct) (k := [' ']) (by decide) rfl rfl

end Descent.Arithmetic
