import Formulas.Proofs.Grammar
import Mathlib.Data.List.Induction

/-!
# The stacks of a level

What the reductions of a level do to its two stacks, said once for every operator.

Operators of one stratum pile up on the stacks and are combined together when a looser operator or
the end of the level comes. `Level.joined` is a level with such a pile on top, `Level.joinAll` is
what the pile comes to. A prefix operator is combined alone, with the marker below its operand.

While a level waits for an operand, every operator has an operand beside it. `Level.Balanced` says
so of both stacks, with the order of the operators and the places of the markers, and an operator
that keeps a level balanced is never one too many.

## Main definitions

* `Level.joined`: a level with a first operand and pairs of an operator and an operand behind it;
* `Level.joinAll`: these combined from left to right;
* `Level.signed`: a level with a prefix operator that waits for its operand;
* `Level.Admits`: operands of a stratum can be piled on the level without being combined with what
  is below;
* `Level.Balanced`: the stacks of a level that waits for an operand.

## Main results

* `Level.reduceAbove_reduceAbove`: combining in two rounds is combining in one;
* `Level.reduceAbove_joined` and `Level.reduceAbove_signed`: a pile and a prefix operator are
  combined into one operand before anything below them is;
* `Level.Balanced.joined`, `Level.Balanced.signed` and `Level.Balanced.pushOperator_eq`: a level
  stays balanced when an operator is put on a pile or behind its marker, so it can be put there.
-/

namespace Formulas.Level

open Grammar

/-- The level with one more operator. -/
def withOperator (level : Level) (op : Operator) : Level :=
  { level with operators := op :: level.operators }

/-- The level with an operand and then pairs of an operator and an operand. -/
def joined (level : Level) (first : Expr) (others : List (Operator × Expr)) : Level :=
  others.foldl (fun level o => (level.withOperator o.1).pushValue o.2) (level.pushValue first)

/-- The operands of a pile as entries of the operand stack. -/
def values (others : List (Operator × Expr)) : List (Operator × Operand) :=
  others.map fun o => (o.1, .value o.2)

/-- An operand combined with the operators and operands behind it, from left to right. -/
def joinAll (ctx : Context) (first : Expr) (others : List (Operator × Expr)) :
    Except ParseError Expr :=
  others.foldlM (fun left o => combine ctx (.value left) o.1 (.value o.2)) first

/-- The level with a prefix operator, which waits for its operand. -/
def signed (level : Level) (op : UnaryOp) : Level :=
  (level.pushOperand .marker).withOperator op.operator

/-- The operator on top of the stack is looser than the stratum, or is a prefix operator of it. -/
def Admits (p : Nat) (level : Level) : Prop :=
  ∀ op ∈ level.operators.head?, op.precedence ≤ p ∧ (op.precedence = p → op.isUnary = true)

/-- The stacks of a level that waits for an operand: every operator is beside an operand, no
operator is above one that binds tighter, and the markers are beside the prefix operators. -/
structure Balanced (level : Level) : Prop where
  length_eq : level.operands.length = level.operators.length
  sorted : level.operators.Pairwise fun upper lower => lower.precedence ≤ upper.precedence
  marker_iff : ∀ (i : Nat) (operand : Operand) (op : Operator), level.operands[i]? = some operand →
    level.operators[i]? = some op → (operand = .marker ↔ op.isUnary = true)

/-- One more entry on a pile keeps its operators in the stratum. -/
theorem mem_joining_concat {α : Type} {p : Nat} {others : List (Operator × α)}
    (hothers : ∀ o ∈ others, o.1 ∈ joining p) {op : Operator} (hop : op ∈ joining p) (a : α) :
    ∀ o ∈ others ++ [(op, a)], o.1 ∈ joining p := by
  intro o ho
  rcases List.mem_append.1 ho with ho | ho
  · exact hothers o ho
  · rw [List.mem_singleton.1 ho]
    exact hop

/-- A prefix operator is unary. -/
@[simp]
theorem isUnary_operator (op : UnaryOp) : op.operator.isUnary = true := by
  cases op <;> rfl

/-- A prefix operator has the precedence 7. -/
@[simp]
theorem precedence_operator (op : UnaryOp) : op.operator.precedence = 7 := by
  cases op <;> rfl

/-- No operator binds tighter than the dot. -/
theorem precedence_le (op : Operator) : op.precedence ≤ 8 := by
  cases op <;> decide

@[simp]
theorem operands_pushValue (level : Level) (e : Expr) :
    (level.pushValue e).operands = .value e :: level.operands := rfl

@[simp]
theorem operators_pushValue (level : Level) (e : Expr) :
    (level.pushValue e).operators = level.operators := rfl

@[simp]
theorem operands_pushOperand (level : Level) (operand : Operand) :
    (level.pushOperand operand).operands = operand :: level.operands := rfl

@[simp]
theorem operators_pushOperand (level : Level) (operand : Operand) :
    (level.pushOperand operand).operators = level.operators := rfl

@[simp]
theorem operands_withOperator (level : Level) (op : Operator) :
    (level.withOperator op).operands = level.operands := rfl

@[simp]
theorem operators_withOperator (level : Level) (op : Operator) :
    (level.withOperator op).operators = op :: level.operators := rfl

@[simp]
theorem joined_concat (level : Level) (first : Expr) (others : List (Operator × Expr))
    (o : Operator × Expr) :
    level.joined first (others ++ [o]) =
      ((level.joined first others).withOperator o.1).pushValue o.2 := by
  simp [joined]

/-- The operators of a pile, the latest first, above those of the level. -/
theorem operators_joined (level : Level) (first : Expr) (others : List (Operator × Expr)) :
    (level.joined first others).operators =
      (others.map Prod.fst).reverse ++ level.operators := by
  induction others using List.reverseRecOn with
  | nil => rfl
  | append_singleton others o ih => simp [ih]

/-- The operands of a pile, the latest first, above those of the level. -/
theorem operands_joined (level : Level) (first : Expr) (others : List (Operator × Expr)) :
    (level.joined first others).operands =
      (others.map fun o => .value o.2).reverse ++ .value first :: level.operands := by
  induction others using List.reverseRecOn with
  | nil => rfl
  | append_singleton others o ih => simp [ih]

/-- One more operator and operand are combined with what the others come to. -/
theorem joinAll_concat (ctx : Context) (first : Expr) (others : List (Operator × Expr))
    (o : Operator × Expr) :
    joinAll ctx first (others ++ [o]) =
      (joinAll ctx first others).bind fun left => combine ctx (.value left) o.1 (.value o.2) := by
  simp only [joinAll, List.foldlM_append, List.foldlM_cons, List.foldlM_nil, bind_pure]
  rfl

@[simp]
theorem map_fst_values (others : List (Operator × Expr)) :
    (values others).map Prod.fst = others.map Prod.fst := by
  simp [values]

@[simp]
theorem map_snd_values (others : List (Operator × Expr)) :
    (values others).map Prod.snd = others.map fun o => .value o.2 := by
  simp [values]

/-- The operators of a pile are those of its entries on the stacks. -/
theorem mem_joining_values {p : Nat} {others : List (Operator × Expr)}
    (hothers : ∀ o ∈ others, o.1 ∈ joining p) : ∀ o ∈ values others, o.1 ∈ joining p := by
  intro o ho
  obtain ⟨o, hmem, rfl⟩ := List.mem_map.1 ho
  exact hothers o hmem

/-- The machine's combination of operands that are all expressions. -/
theorem combineAll_values (ctx : Context) (first : Expr) (others : List (Operator × Expr)) :
    combineAll ctx (.value first) (values others) = (joinAll ctx first others).map .value := by
  induction others generalizing first with
  | nil => rfl
  | cons o others ih =>
    simp only [combineAll, joinAll, values, List.map_cons, List.foldlM_cons] at ih ⊢
    cases combine ctx (.value first) o.1 (.value o.2) with
    | error err => rfl
    | ok e => exact ih e

/-- The run on top of a level that admits a stratum is all that is piled up there. -/
theorem run_pile {p : Nat} {level : Level} (hadmits : level.Admits p) {ops : List Operator}
    (hops : ∀ op ∈ ops, op ∈ joining p) {op : Operator} (hop : op ∈ joining p) :
    run op (ops ++ level.operators) = op :: ops := by
  have hp := precedence_of_mem_joining hop
  have hpile : ∀ o ∈ ops, (!o.isUnary && o.precedence == op.precedence) = true := by
    intro o ho
    have ho := hops o ho
    simp [isUnary_of_mem_joining ho, precedence_of_mem_joining ho, hp]
  -- a prefix operator on top of the level ends the run, even in the stratum of its own precedence
  have hbelow : level.operators.takeWhile
      (fun o => !o.isUnary && o.precedence == op.precedence) = [] := by
    cases hops : level.operators with
    | nil => rfl
    | cons top below =>
      have htop := (hadmits top (by simp [hops])).2
      rw [List.takeWhile_cons_of_neg]
      simp only [Bool.and_eq_true, Bool.not_eq_true', beq_iff_eq, hp, not_and]
      intro hunary htop'
      simp [htop htop'] at hunary
  rw [run, isUnary_of_mem_joining hop, List.takeWhile_append_of_pos hpile, hbelow]
  simp

/-- What is piled up on a level that admits its stratum is reduced to one operand. -/
theorem reduce_pile (ctx : Context) {p : Nat} {level level' : Level} (hadmits : level.Admits p)
    (first : Operand) {others : List (Operator × Operand)} (hothers : ∀ o ∈ others, o.1 ∈ joining p)
    (hne : others ≠ [])
    (hoperators : level'.operators = (others.map Prod.fst).reverse ++ level.operators)
    (hoperands : level'.operands = (others.map Prod.snd).reverse ++ first :: level.operands) :
    level'.reduce ctx = (combineAll ctx first others).map level.pushOperand := by
  -- the run is counted from the top of the stack, which is the last entry of the pile
  obtain ⟨init, ⟨op, operand⟩, hsplit⟩ := others.eq_nil_or_concat.resolve_left hne
  rw [List.concat_eq_append] at hsplit
  have hop : op ∈ joining p := hothers (op, operand) (by simp [hsplit])
  have hinit : ∀ o ∈ (init.map Prod.fst).reverse, o ∈ joining p := by
    intro o ho
    obtain ⟨o, hmem, rfl⟩ := List.mem_map.1 (List.mem_reverse.1 ho)
    exact hothers o (by simp [hsplit, hmem])
  have htop : level'.operators = op :: ((init.map Prod.fst).reverse ++ level.operators) := by
    simp [hoperators, hsplit]
  have hrun : run op ((init.map Prod.fst).reverse ++ level.operators) =
      (others.map Prod.fst).reverse := by
    rw [run_pile hadmits hinit hop, hsplit]
    simp
  have hcount : (others.map Prod.fst).reverse.length = (others.map Prod.snd).reverse.length := by
    simp
  have hlevel : level'.operators.drop (others.map Prod.fst).reverse.length =
      level.operators := by
    rw [hoperators, List.drop_left]
  simp only [reduce, htop, hrun]
  rw [← htop, hlevel, hoperands, hcount, List.drop_left, List.take_left]
  simp only [List.reverse_reverse, List.zip_map', List.map_id']
  cases combineAll ctx first others <;> rfl

/-- A pile of operands that are all expressions is reduced to one operand. -/
theorem reduce_joined (ctx : Context) {p : Nat} {level : Level} (hadmits : level.Admits p)
    (first : Expr) {others : List (Operator × Expr)} (hothers : ∀ o ∈ others, o.1 ∈ joining p)
    (hne : others ≠ []) :
    (level.joined first others).reduce ctx =
      (joinAll ctx first others).map level.pushValue := by
  have hvalues : values others ≠ [] := by simpa [values] using hne
  rw [reduce_pile ctx hadmits (.value first) (mem_joining_values hothers) hvalues
    (by simp [operators_joined]) (by simp [operands_joined]), combineAll_values]
  cases joinAll ctx first others <;> rfl

/-- A pile of dots with a prefix operator behind the last of them is joined up to there, and then
the machine finds the marker of the prefix operator. -/
theorem reduce_joined_marker (ctx : Context) {level : Level} (hadmits : level.Admits 8)
    (first : Expr) {others : List (Operator × Expr)} (hothers : ∀ o ∈ others, o.1 ∈ joining 8) :
    (((level.joined first others).withOperator .dot).pushOperand .marker).reduce ctx =
      (joinAll ctx first others).bind fun _ => .error (.internal (.notApplicable .dot)) := by
  have hpile : ∀ o ∈ values others ++ [(.dot, .marker)], o.1 ∈ joining 8 :=
    mem_joining_concat (mem_joining_values hothers) (by simp [joining]) .marker
  rw [reduce_pile ctx hadmits (.value first) hpile (by simp) (by simp [operators_joined])
    (by simp [operands_joined])]
  -- the marker is the last of the right operands, so it is met with all the dots before joined
  have hall : combineAll ctx (.value first) (values others ++ [(.dot, .marker)]) =
      (joinAll ctx first others).bind fun _ => .error (.internal (.notApplicable .dot)) := by
    simp only [combineAll, List.foldlM_append]
    change ((combineAll ctx _ _).bind _ : Except ParseError Operand) = _
    rw [combineAll_values]
    cases joinAll ctx first others <;> rfl
  rw [hall]
  cases joinAll ctx first others <;> rfl

/-- A prefix operator is reduced with its operand alone. -/
theorem reduce_signed (ctx : Context) (level : Level) (op : UnaryOp) (e : Expr) :
    ((level.signed op).pushValue e).reduce ctx =
      .ok (level.pushValue (Kind.unary op e).bare) := by
  cases op <;> rfl

/-- Nothing is combined on a level whose top operator does not bind tighter. -/
theorem reduceAbove_eq_self (ctx : Context) {q : Nat} {level : Level}
    (htop : ∀ op ∈ level.operators.head?, op.precedence ≤ q) :
    level.reduceAbove ctx q = .ok level := by
  rw [reduceAbove]
  split
  · rfl
  next top below hops =>
    rw [if_neg (Nat.not_lt.2 (htop top (by simp [hops])))]

/-- A level whose top operator binds tighter is reduced, and then what is left of it. -/
theorem reduceAbove_of_lt (ctx : Context) {q : Nat} {level : Level} {top : Operator}
    (htop : top ∈ level.operators.head?) (hlt : q < top.precedence) :
    level.reduceAbove ctx q = (level.reduce ctx).bind (reduceAbove ctx q) := by
  rw [reduceAbove]
  split
  next hops => simp [hops] at htop
  next top' below hops =>
    obtain rfl : top' = top := by simpa [hops] using htop
    rw [if_pos hlt]
    split
    next level' hreduce => rw [hreduce]; rfl
    next err hreduce => rw [hreduce]; rfl

/-- Combining what binds tighter than `p` and then what binds tighter than `q` is the same as
combining the latter at once. -/
theorem reduceAbove_reduceAbove (ctx : Context) {p q : Nat} (hle : q ≤ p) (level : Level) :
    (level.reduceAbove ctx p).bind (reduceAbove ctx q) = level.reduceAbove ctx q := by
  fun_induction reduceAbove ctx p level with
  | case1 => rfl
  | case2 level top below hops hlt level' hreduce ih =>
    have htop : top ∈ level.operators.head? := by simp [hops]
    rw [ih, reduceAbove_of_lt ctx htop (Nat.lt_of_le_of_lt hle hlt), hreduce]
    rfl
  | case3 level top below hops hlt err hreduce =>
    have htop : top ∈ level.operators.head? := by simp [hops]
    rw [reduceAbove_of_lt ctx htop (Nat.lt_of_le_of_lt hle hlt), hreduce]
  | case4 => rfl

/-- An operand can be piled on a level in every stratum that is not looser than one the level
admits. -/
theorem Admits.mono {p q : Nat} {level : Level} (h : level.Admits p) (hlt : p < q) :
    level.Admits q := by
  intro op hop
  have := (h op hop).1
  exact ⟨by omega, fun heq => by omega⟩

/-- On a level that admits a stratum nothing tighter waits. -/
theorem reduceAbove_of_admits (ctx : Context) {p : Nat} {level : Level} (h : level.Admits p)
    (operands : List Operand) :
    reduceAbove ctx p ⟨operands, level.operators⟩ = .ok ⟨operands, level.operators⟩ :=
  reduceAbove_eq_self ctx fun op hop => (h op hop).1

theorem balanced_empty : empty.Balanced :=
  ⟨rfl, .nil, fun i operand op h => by simp [empty] at h⟩

/-- A level with one more operand and operator. -/
theorem Balanced.push {level : Level} (h : level.Balanced) {operand : Operand} {op : Operator}
    (hmarker : operand = .marker ↔ op.isUnary = true)
    (hsorted : ∀ lower ∈ level.operators, lower.precedence ≤ op.precedence) :
    ((level.pushOperand operand).withOperator op).Balanced := by
  refine ⟨by simpa using h.length_eq, List.pairwise_cons.2 ⟨hsorted, h.sorted⟩, ?_⟩
  rintro (_ | i) operand' op' hoperand hop
  · cases hoperand
    cases hop
    exact hmarker
  · exact h.marker_iff i operand' op' hoperand hop

/-- The operator on top binds the tightest. -/
theorem Balanced.precedence_le {level : Level} (h : level.Balanced) {q : Nat}
    (htop : ∀ op ∈ level.operators.head?, op.precedence ≤ q) :
    ∀ op ∈ level.operators, op.precedence ≤ q := by
  intro op hop
  have hsorted := h.sorted
  cases hops : level.operators with
  | nil => simp [hops] at hop
  | cons top below =>
    rw [hops] at hop hsorted
    have hle := htop top (by simp [hops])
    rcases List.mem_cons.1 hop with rfl | hop
    · exact hle
    · exact Nat.le_trans ((List.pairwise_cons.1 hsorted).1 op hop) hle

/-- On a pile of operators of one stratum, one more of them waits for its operand. -/
theorem Balanced.joined {level : Level} (h : level.Balanced) {q : Nat}
    (hadmits : level.Admits q) (first : Expr) {others : List (Operator × Expr)}
    (hothers : ∀ o ∈ others, o.1 ∈ joining q) {op : Operator} (hop : op ∈ joining q) :
    ((level.joined first others).withOperator op).Balanced := by
  induction others using List.reverseRecOn generalizing op with
  | nil =>
    refine h.push (by simp [isUnary_of_mem_joining hop]) ?_
    rw [precedence_of_mem_joining hop]
    exact h.precedence_le fun top htop => (hadmits top htop).1
  | append_singleton others o ih =>
    have ho : o.1 ∈ joining q := hothers o (by simp)
    rw [joined_concat]
    have hbelow := ih (fun o ho => hothers o (by simp [ho])) ho
    refine hbelow.push (by simp [isUnary_of_mem_joining hop]) ?_
    rw [precedence_of_mem_joining hop]
    refine hbelow.precedence_le fun top htop => ?_
    obtain rfl : o.1 = top := by simpa using htop
    exact Nat.le_of_eq (precedence_of_mem_joining ho)

/-- Behind its marker a prefix operator waits for its operand. -/
theorem Balanced.signed {level : Level} (h : level.Balanced) (hadmits : level.Admits 7)
    (op : UnaryOp) : (level.signed op).Balanced := by
  refine h.push (by simp) ?_
  rw [precedence_operator]
  exact h.precedence_le fun o ho => (hadmits o ho).1

/-- An operator that leaves a level balanced is put on its stack. -/
theorem Balanced.pushOperator_eq {ctx : Context} {level level' : Level} {op : Operator}
    (h : (level'.withOperator op).Balanced)
    (hreduce : level.reduceAbove ctx op.precedence = .ok level') :
    level.pushOperator ctx op = .ok (level'.withOperator op) := by
  have hlength : level'.operands.length = level'.operators.length + 1 := h.length_eq
  have hnot : ¬level'.operands.length < (op :: level'.operators).length := by
    rw [hlength, List.length_cons]
    exact Nat.lt_irrefl _
  rw [Level.pushOperator, hreduce]
  exact if_neg hnot

/-- On a level that admits them, a prefix operator is put behind its marker with nothing
combined. -/
theorem pushOperator_marker (ctx : Context) {level : Level} (h : level.Admits 7)
    (hbalanced : level.Balanced) (op : UnaryOp) :
    (level.pushOperand .marker).pushOperator ctx op.operator = .ok (level.signed op) := by
  refine (hbalanced.signed h op).pushOperator_eq ?_
  rw [precedence_operator]
  exact reduceAbove_of_admits ctx h _

/-- A pile is combined before anything below it is. -/
theorem reduceAbove_joined (ctx : Context) {p q : Nat} {level : Level} (hadmits : level.Admits p)
    (first : Expr) {others : List (Operator × Expr)} (hothers : ∀ o ∈ others, o.1 ∈ joining p)
    (hlt : q < p) :
    (level.joined first others).reduceAbove ctx q =
      (joinAll ctx first others).bind fun e => (level.pushValue e).reduceAbove ctx q := by
  rcases others.eq_nil_or_concat with rfl | ⟨init, o, hsplit⟩
  · rfl
  · rw [List.concat_eq_append] at hsplit
    have hop : o.1 ∈ joining p := hothers o (by simp [hsplit])
    have htop : o.1 ∈ (level.joined first others).operators.head? := by simp [hsplit]
    rw [reduceAbove_of_lt ctx htop (by rwa [precedence_of_mem_joining hop]),
      reduce_joined ctx hadmits first hothers (by simp [hsplit])]
    cases joinAll ctx first others <;> rfl

/-- A pile that is all of its level is the expression of the level. -/
theorem close_joined (ctx : Context) {p : Nat} (first : Expr) {others : List (Operator × Expr)}
    (hothers : ∀ o ∈ others, o.1 ∈ joining p) (hp : 0 < p) :
    (empty.joined first others).close ctx = joinAll ctx first others := by
  have hadmits : ∀ q, Admits q .empty := fun q op hop => by simp [empty] at hop
  have hempty : ∀ e, (empty.pushValue e).reduceAbove ctx 0 = .ok (empty.pushValue e) :=
    fun e => reduceAbove_of_admits ctx (hadmits 0) _
  simp only [close, reduceAbove_joined ctx (hadmits p) first hothers hp, hempty]
  cases joinAll ctx first others <;> rfl

/-- A prefix operator is combined with its operand before anything below it is. -/
theorem reduceAbove_signed (ctx : Context) {q : Nat} (level : Level) (op : UnaryOp) (e : Expr)
    (hlt : q < 7) :
    ((level.signed op).pushValue e).reduceAbove ctx q =
      (level.pushValue (Kind.unary op e).bare).reduceAbove ctx q := by
  have htop : op.operator ∈ ((level.signed op).pushValue e).operators.head? := rfl
  rw [reduceAbove_of_lt ctx htop (by simpa using hlt), reduce_signed]
  rfl

end Formulas.Level
