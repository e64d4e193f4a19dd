import Formulas.Proofs.Stacks
import Formulas.Parser

/-!
# The machine reads what the grammar derives

The machine delays the effect of some tokens, so the same stand is reached in several phases.
`Machine.Awaits` and `Machine.Behind` say what the machine does next, whatever its phase.

An operand of stratum `p` is read in any surrounding in which it can stand: the operators below it
on the stack are looser, or are prefix operators that take it as a whole. Of an operand that is
read, operators may still be pending; `Level.Piled` says that they come to the operand's meaning
before anything below them is combined.

## Main definitions

* `Machine.Awaits`: the next token is taken as the start of an operand on a level;
* `Machine.Behind`: the next token, or the end, is taken behind an operand of a level;
* `Level.Piled`: a level holds an operand on top of another level, maybe with operators pending;
* `Grammar.ReadBy`: the machine reads tokens as an operand, wherever it awaits one.

## Main results

* `Grammar.Derives.readBy`: whatever the grammar derives, the machine reads;
* `Grammar.Formula.run_finish`: the machine accepts every formula, with its meaning;
* `Grammar.Formula.unique`: tokens have one meaning at most.
-/

namespace Formulas

namespace Machine

variable {ctx : Context}

/-- The words that the machine takes for operators are those that read as one. -/
theorem wordOperator?_eq_some_iff {word : String} {op : Operator} :
    wordOperator? word = some op ↔ Grammar.Reads (.identifier word) op := by
  unfold wordOperator?
  constructor
  · intro h
    split at h
    next hand => cases h; exact .wordAnd hand
    next =>
      split at h
      next hor => cases h; exact .wordOr hor
      next => cases h
  · intro h
    cases h with
    | wordAnd hand => rw [if_pos hand]
    | wordOr hor =>
      have hfold : Text.foldCase word = Text.foldCase "OR" := by
        simpa [Text.sameIgnoringCase] using hor
      have hand : Text.sameIgnoringCase word "AND" = false := by
        rw [Text.sameIgnoringCase, hfold]
        decide
      simp [hand, hor]

/-- The words that the machine takes for units are the unit words. -/
theorem wordOperator?_eq_none_iff {word : String} :
    wordOperator? word = none ↔ Grammar.IsUnitWord word := by
  unfold wordOperator? Grammar.IsUnitWord
  split
  next hand => simp [hand]
  next hand => split <;> simp_all

/-- The machine takes the next token as the start of an operand on the level, unless it closes a
bracket. -/
def Awaits (ctx : Context) (m : Machine) (level : Level) (outer : List (Opening × Level)) : Prop :=
  ∀ t, t ≠ .rightParen → t ≠ .rightBrace → m.step ctx t = stepOperand ⟨.operand, level, outer⟩ t

/-- The machine takes the next token, unless it opens a parenthesis, and the end of the formula as
what stands behind an operand of the level. -/
structure Behind (ctx : Context) (m : Machine) (level : Level) (outer : List (Opening × Level)) :
    Prop where
  step_eq : ∀ t, t ≠ .leftParen → m.step ctx t = stepOperator ctx ⟨.operator, level, outer⟩ t
  finish_eq : m.finish ctx = finishLevel ctx ⟨.operator, level, outer⟩

/-- What an operand does to the machine does not depend on the phase. -/
theorem stepOperand_phase (phase phase' : Phase) (level : Level) (outer : List (Opening × Level))
    (t : Token) :
    stepOperand ⟨phase, level, outer⟩ t = stepOperand ⟨phase', level, outer⟩ t := by
  unfold stepOperand
  cases t <;> rfl

theorem awaits_operand (level : Level) (outer : List (Opening × Level)) :
    Awaits ctx ⟨.operand, level, outer⟩ level outer :=
  fun _ _ _ => rfl

theorem awaits_listStart (level : Level) (outer : List (Opening × Level)) :
    Awaits ctx ⟨.listStart, level, outer⟩ level outer := by
  intro t hparen hbrace
  change stepListStart ⟨.listStart, level, outer⟩ t = _
  unfold stepListStart
  split
  · exact absurd rfl hbrace
  · exact absurd rfl hparen
  · exact stepOperand_phase ..

/-- Behind an operator the level has the operator on its stack. -/
theorem awaits_afterOperator {op : Operator} {level level' : Level}
    (h : level.pushOperator ctx op = .ok level') (outer : List (Opening × Level)) :
    Awaits ctx ⟨.afterOperator op, level, outer⟩ level' outer := by
  intro t _ _
  change (level.pushOperator ctx op).bind _ = _
  rw [h]
  exact stepOperand_phase ..

/-- Behind a semicolon the level has `&` on its stack. -/
theorem awaits_afterSemicolon {level level' : Level} (h : level.pushOperator ctx .and = .ok level')
    (outer : List (Opening × Level)) :
    Awaits ctx ⟨.afterSemicolon, level, outer⟩ level' outer := by
  intro t _ _
  change (level.pushOperator ctx .and).bind _ = _
  rw [h]
  exact stepOperand_phase ..

theorem behind_operator (level : Level) (outer : List (Opening × Level)) :
    Behind ctx ⟨.operator, level, outer⟩ level outer :=
  ⟨fun _ _ => rfl, rfl⟩

/-- A name that is not called is an operand. -/
theorem behind_afterName (name : String) (level : Level) (outer : List (Opening × Level)) :
    Behind ctx ⟨.afterName name, level, outer⟩ (level.pushValue (ctx.named name)) outer := by
  refine ⟨fun t ht => ?_, rfl⟩
  simp only [step]
  rfl

/-- A call that its function takes is an operand. -/
theorem behind_afterCall {name : String} {arguments : List Expr} {e : Expr}
    (h : ctx.called name arguments = .ok e) (level : Level) (outer : List (Opening × Level)) :
    Behind ctx ⟨.afterCall name arguments, level, outer⟩ (level.pushValue e) outer := by
  refine ⟨fun t _ => ?_, ?_⟩
  · simp only [step, finishCall, h]
    rfl
  · simp only [finish, finishCall, h]
    rfl

/-- Behind an operand the machine takes an operator, combines what binds tighter, and awaits the
right operand. -/
theorem Behind.step_operator {m : Machine} {level level' : Level} {outer : List (Opening × Level)}
    (h : m.Behind ctx level outer) {p : Nat} {op : Operator} {t : Token}
    (hop : op ∈ Grammar.joining p) (hreads : Grammar.Reads t op)
    (hreduce : level.reduceAbove ctx p = .ok level')
    (hbalanced : (level'.withOperator op).Balanced) :
    ∃ m', m.step ctx t = .ok m' ∧ m'.Awaits ctx (level'.withOperator op) outer := by
  have hpush : level.pushOperator ctx op = .ok (level'.withOperator op) :=
    hbalanced.pushOperator_eq (by rw [Grammar.precedence_of_mem_joining hop, hreduce])
  have hunary := Grammar.isUnary_of_mem_joining hop
  cases hreads with
  | sign hsemicolon =>
    refine ⟨⟨.afterOperator op, level, outer⟩, ?_, awaits_afterOperator hpush outer⟩
    rw [h.step_eq _ (by simp)]
    cases op <;> simp_all [stepOperator, Operator.isUnary]
  | semicolon =>
    refine ⟨⟨.afterSemicolon, level, outer⟩, ?_, awaits_afterSemicolon hpush outer⟩
    rw [h.step_eq _ (by simp)]
    rfl
  | wordAnd hword =>
    refine ⟨⟨.afterOperator .and, level, outer⟩, ?_, awaits_afterOperator hpush outer⟩
    rw [h.step_eq _ (by simp)]
    simp only [stepOperator, wordOperator?_eq_some_iff.2 (.wordAnd hword)]
  | wordOr hword =>
    refine ⟨⟨.afterOperator .or, level, outer⟩, ?_, awaits_afterOperator hpush outer⟩
    rw [h.step_eq _ (by simp)]
    simp only [stepOperator, wordOperator?_eq_some_iff.2 (.wordOr hword)]

/-- Behind an operand the machine gives it the unit that follows. -/
theorem Behind.step_unit {m : Machine} {level : Level} {e : Expr} {outer : List (Opening × Level)}
    (h : m.Behind ctx (level.pushValue e) outer) {word : String}
    (hword : Grammar.IsUnitWord word) :
    m.step ctx (.identifier word) =
      .ok ⟨.operator, level.pushValue ⟨e.kind, some (UnitOfMeasure.canonical word)⟩, outer⟩ := by
  rw [h.step_eq _ (by simp)]
  simp only [stepOperator, wordOperator?_eq_none_iff.2 hword]
  rfl

end Machine

namespace Level

variable {ctx : Context}

/-- The level holds the operand `e` of stratum `p` on top of `level`: it comes to that before
anything looser is combined, and as long as only what is tighter has been combined it is a pile of
operators of the stratum. Prefix operators wait below their operands instead. -/
structure Piled (ctx : Context) (p : Nat) (level : Level) (e : Expr) (level' : Level) : Prop where
  settle : ∀ q < p, level'.reduceAbove ctx q = (level.pushValue e).reduceAbove ctx q
  pile : p ≠ 7 → ∃ first others, (∀ o ∈ others, o.1 ∈ Grammar.joining p) ∧
    joinAll ctx first others = .ok e ∧ level'.reduceAbove ctx p = .ok (level.joined first others)

/-- A single operand is piled in every stratum that the level admits. -/
theorem piled_pushValue {p : Nat} {level : Level} (h : level.Admits p) (e : Expr) :
    Piled ctx p level e (level.pushValue e) :=
  ⟨fun _ _ => rfl, fun _ => ⟨e, [], by simp, rfl, reduceAbove_of_admits ctx h _⟩⟩

/-- Every level admits primaries. -/
theorem admits_primary (level : Level) : level.Admits 9 := by
  intro op _
  have := precedence_le op
  exact ⟨by omega, fun h => by omega⟩

/-- A primary is on its level as it is. -/
theorem Piled.eq_pushValue {level level' : Level} {e : Expr} (h : Piled ctx 9 level e level') :
    level' = level.pushValue e := by
  obtain ⟨first, others, hothers, hjoin, hreduce⟩ := h.pile (by decide)
  obtain rfl : others = [] := by
    rw [List.eq_nil_iff_forall_not_mem]
    intro o ho
    simpa [Grammar.joining] using hothers o ho
  rw [reduceAbove_of_admits ctx level'.admits_primary] at hreduce
  cases hjoin
  exact Except.ok.inj hreduce

/-- An operand that is all of its level is the expression of the level. -/
theorem Piled.close {p : Nat} {e : Expr} {level : Level} (h : Piled ctx p .empty e level)
    (hp : 0 < p) : level.close ctx = .ok e := by
  have hempty : Admits 0 .empty := fun op hop => by simp [empty] at hop
  have hsettle : level.reduceAbove ctx 0 = .ok (empty.pushValue e) :=
    (h.settle 0 hp).trans (reduceAbove_of_admits ctx hempty _)
  simp only [Level.close, hsettle]
  rfl

end Level

namespace Grammar

variable {ctx : Context}

/-- Wherever the machine awaits an operand of stratum `p` on a balanced level, it reads the tokens
`ts` as the operand `e`. -/
def ReadBy (ctx : Context) (p : Nat) (ts : List Token) (e : Expr) : Prop :=
  ∀ ⦃m : Machine⦄ ⦃level : Level⦄ ⦃outer : List (Opening × Level)⦄, m.Awaits ctx level outer →
    level.Admits p → level.Balanced → ∃ m' level', m.run ctx ts = .ok m' ∧
      m'.Behind ctx level' outer ∧ Level.Piled ctx p level e level'

/-- Tokens are read one after the other. -/
theorem run_cons {m m' : Machine} {t : Token} {ts : List Token} (h : m.step ctx t = .ok m') :
    m.run ctx (t :: ts) = m'.run ctx ts := by
  simp only [Machine.run, List.foldlM_cons, h]
  rfl

/-- What behaves as a primary on every level is read as one. -/
theorem ReadBy.of_primary {ts : List Token} {e : Expr}
    (h : ∀ ⦃m : Machine⦄ ⦃level : Level⦄ ⦃outer : List (Opening × Level)⦄,
      m.Awaits ctx level outer → level.Balanced → ∃ m', m.run ctx ts = .ok m' ∧
        m'.Behind ctx (level.pushValue e) outer) :
    ReadBy ctx 9 ts e := by
  intro m level outer hawaits hadmits hbalanced
  obtain ⟨m', hrun, hbehind⟩ := h hawaits hbalanced
  exact ⟨m', _, hrun, hbehind, Level.piled_pushValue hadmits e⟩

theorem ReadBy.tighter {p : Nat} {ts : List Token} {e : Expr} (h : ReadBy ctx (p + 1) ts e) :
    ReadBy ctx p ts e := by
  intro m level outer hawaits hadmits hbalanced
  obtain ⟨m', level', hrun, hbehind, hpiled⟩ :=
    h hawaits (hadmits.mono (Nat.lt_succ_self p)) hbalanced
  refine ⟨m', level', hrun, hbehind, fun q hq => hpiled.settle q (Nat.lt_succ_of_lt hq), ?_⟩
  intro _
  -- a tighter operand is a pile of its own with no operator
  refine ⟨e, [], by simp, rfl, ?_⟩
  rw [hpiled.settle p (Nat.lt_succ_self p)]
  exact Level.reduceAbove_of_admits ctx hadmits _

theorem ReadBy.join {p : Nat} {op : Operator} {t : Token} {ts us : List Token}
    {left right e : Expr} (hop : op ∈ joining p) (hreads : Reads t op)
    (hcombine : Level.combine ctx (.value left) op (.value right) = .ok e)
    (hleft : ReadBy ctx p ts left) (hright : ReadBy ctx (p + 1) us right) :
    ReadBy ctx p (ts ++ t :: us) e := by
  intro m level outer hawaits hadmits hbalanced
  -- the operators of stratum `7` are the prefix operators, which join nothing
  have hp : p ≠ 7 := by
    rintro rfl
    simp [joining] at hop
  have hprec := precedence_of_mem_joining hop
  obtain ⟨m₁, level₁, hrun₁, hbehind₁, hpiled₁⟩ := hleft hawaits hadmits hbalanced
  obtain ⟨first, others, hothers, hjoin, hreduce₁⟩ := hpiled₁.pile hp
  have hbalanced₂ : ((level.joined first others).withOperator op).Balanced :=
    hbalanced.joined hadmits first hothers hop
  obtain ⟨m₂, hstep, hawaits₂⟩ := hbehind₁.step_operator hop hreads hreduce₁ hbalanced₂
  -- the right operand is tighter than the operators piled up below it
  have hadmits₂ : ((level.joined first others).withOperator op).Admits (p + 1) := by
    intro o ho
    obtain rfl : op = o := by simpa using ho
    exact ⟨by omega, fun heq => by omega⟩
  obtain ⟨m₃, level₃, hrun₃, hbehind₃, hpiled₃⟩ := hright hawaits₂ hadmits₂ hbalanced₂
  -- once the right operand has settled, it is one more entry of the pile
  have hreduce₃ : level₃.reduceAbove ctx p =
      .ok (level.joined first (others ++ [(op, right)])) := by
    rw [hpiled₃.settle p (Nat.lt_succ_self p), Level.joined_concat]
    refine Level.reduceAbove_eq_self ctx fun o ho => ?_
    obtain rfl : op = o := by simpa using ho
    omega
  have hothers₃ := Level.mem_joining_concat hothers hop right
  have hjoin₃ : Level.joinAll ctx first (others ++ [(op, right)]) = .ok e := by
    rw [Level.joinAll_concat, hjoin]
    exact hcombine
  refine ⟨m₃, level₃, ?_, hbehind₃, fun q hq => ?_, fun _ => ⟨first, _, hothers₃, hjoin₃, hreduce₃⟩⟩
  · rw [Machine.run_append, hrun₁]
    exact (run_cons hstep).trans hrun₃
  · -- what is combined above `q` is combined above `p` first, which leaves the pile alone
    rw [← Level.reduceAbove_reduceAbove ctx (Nat.le_of_lt hq), hreduce₃]
    change (level.joined first (others ++ [(op, right)])).reduceAbove ctx q = _
    rw [Level.reduceAbove_joined ctx hadmits first hothers₃ hq, hjoin₃]
    rfl

theorem ReadBy.signed {op : UnaryOp} {ts : List Token} {e : Expr} (h : ReadBy ctx 7 ts e) :
    ReadBy ctx 7 (op.sign :: ts) (Kind.unary op e).bare := by
  intro m level outer hawaits hadmits hbalanced
  -- the operator is put on the level only when its operand starts
  have hpush := Level.pushOperator_marker ctx hadmits hbalanced op
  have hstep : m.step ctx op.sign =
      .ok ⟨.afterOperator op.operator, level.pushOperand .marker, outer⟩ := by
    cases op <;> exact hawaits _ (by simp [UnaryOp.sign]) (by simp [UnaryOp.sign])
  have hadmits' : (level.signed op).Admits 7 := by
    intro o ho
    obtain rfl : op.operator = o := by simpa [Level.signed] using ho
    simp
  obtain ⟨m', level', hrun, hbehind, hpiled⟩ :=
    h (Machine.awaits_afterOperator hpush outer) hadmits' (hbalanced.signed hadmits op)
  refine ⟨m', level', (run_cons hstep).trans hrun, hbehind, fun q hq => ?_, absurd rfl⟩
  rw [hpiled.settle q hq, Level.reduceAbove_signed ctx level op e hq]

theorem ReadBy.unit {ts : List Token} {e : Expr} {word : String} (h : ReadBy ctx 9 ts e)
    (hword : IsUnitWord word) :
    ReadBy ctx 9 (ts ++ [.identifier word]) ⟨e.kind, some (UnitOfMeasure.canonical word)⟩ := by
  refine .of_primary fun m level outer hawaits hbalanced => ?_
  -- the unit goes to the operand on top of the stack, which is all of the primary before it
  obtain ⟨m', level', hrun, hbehind, hpiled⟩ := h hawaits level.admits_primary hbalanced
  obtain rfl := hpiled.eq_pushValue
  refine ⟨_, ?_, Machine.behind_operator ..⟩
  rw [Machine.run_append, hrun]
  exact run_cons (hbehind.step_unit hword)

theorem ReadBy.group {ts : List Token} {e : Expr} (h : ReadBy ctx 1 ts e) :
    ReadBy ctx 9 (.leftParen :: (ts ++ [.rightParen])) e := by
  refine .of_primary fun m level outer hawaits _ => ?_
  have hopen : m.step ctx .leftParen = .ok ⟨.operand, .empty, (.group, level) :: outer⟩ :=
    hawaits _ (by simp) (by simp)
  obtain ⟨m', level', hrun, hbehind, hpiled⟩ :=
    h (Machine.awaits_operand .empty _) (fun o ho => by simp [Level.empty] at ho)
      Level.balanced_empty
  refine ⟨⟨.operator, level.pushValue e, outer⟩, ?_, Machine.behind_operator ..⟩
  rw [run_cons hopen, Machine.run_append, hrun]
  refine run_cons ?_
  rw [hbehind.step_eq _ (by simp)]
  simp only [Machine.stepOperator, Machine.stepEnd, hpiled.close Nat.one_pos]
  rfl

/-- The bracket holds a list: the items of an array or the arguments of a call. -/
def OpensList (opening : List Expr → Opening) : Prop :=
  opening = .array ∨ ∃ name, opening = .call name

/-- Behind an item the machine takes a comma and awaits the next one. -/
theorem step_comma {opening : List Expr → Opening} (hopening : OpensList opening)
    {m : Machine} {level inner : Level} {outer : List (Opening × Level)} {done : List Expr}
    {e : Expr} (hbehind : m.Behind ctx inner ((opening done, level) :: outer))
    (hclose : inner.close ctx = .ok e) :
    m.step ctx .comma = .ok ⟨.operand, .empty, (opening (e :: done), level) :: outer⟩ := by
  rw [hbehind.step_eq _ (by simp)]
  rcases hopening with rfl | ⟨name, rfl⟩ <;>
  · simp only [Machine.stepOperator, Machine.stepEnd, hclose]
    rfl

/-- The machine reads the items of a list up to its closing bracket. -/
theorem run_separated {opening : List Expr → Opening} (hopening : OpensList opening)
    {items : List (List Token × Expr)} (hne : items ≠ [])
    (hitems : ∀ i ∈ items, ReadBy ctx 1 i.1 i.2) {m : Machine} {level : Level}
    {outer : List (Opening × Level)} {done : List Expr}
    (hawaits : m.Awaits ctx .empty ((opening done, level) :: outer)) :
    ∃ m' inner e done', m.run ctx (Token.separated (items.map Prod.fst)) = .ok m' ∧
      m'.Behind ctx inner ((opening done', level) :: outer) ∧ inner.close ctx = .ok e ∧
      (e :: done').reverse = done.reverse ++ items.map Prod.snd := by
  -- the items that are done are on the bracket in reverse, so the induction is over any such list
  induction items generalizing m done with
  | nil => exact absurd rfl hne
  | cons i rest ih =>
    have hempty : Level.Admits 1 .empty := fun o ho => by simp [Level.empty] at ho
    obtain ⟨m₁, inner, hrun₁, hbehind₁, hpiled₁⟩ :=
      hitems i (by simp) hawaits hempty Level.balanced_empty
    have hclose := hpiled₁.close Nat.one_pos
    cases rest with
    | nil => exact ⟨m₁, inner, i.2, done, hrun₁, hbehind₁, hclose, by simp⟩
    | cons j rest =>
      obtain ⟨m₂, inner₂, e, done', hrun₂, hbehind₂, hclose₂, hdone⟩ :=
        ih (by simp) (fun k hk => hitems k (List.mem_cons_of_mem i hk))
          (Machine.awaits_operand .empty ((opening (i.2 :: done), level) :: outer))
      refine ⟨m₂, inner₂, e, done', ?_, hbehind₂, hclose₂, by simpa using hdone⟩
      have hsplit : Token.separated ((i :: j :: rest).map Prod.fst) =
          i.1 ++ .comma :: Token.separated ((j :: rest).map Prod.fst) := rfl
      rw [hsplit, Machine.run_append, hrun₁]
      exact (run_cons (step_comma hopening hbehind₁ hclose)).trans hrun₂

theorem ReadBy.array {items : List (List Token × Expr)}
    (hitems : ∀ i ∈ items, ReadBy ctx 1 i.1 i.2) :
    ReadBy ctx 9 (.leftBrace :: (Token.separated (items.map Prod.fst) ++ [.rightBrace]))
      (Kind.array (items.map Prod.snd)).bare := by
  refine .of_primary fun m level outer hawaits _ => ?_
  have hopen : m.step ctx .leftBrace = .ok ⟨.listStart, .empty, (.array [], level) :: outer⟩ :=
    hawaits _ (by simp) (by simp)
  refine ⟨_, ?_, Machine.behind_operator ..⟩
  rw [run_cons hopen]
  by_cases hne : items = []
  · subst hne
    exact run_cons rfl
  · obtain ⟨m', inner, e, done, hrun, hbehind, hclose, hdone⟩ :=
      run_separated (.inl rfl) hne hitems (Machine.awaits_listStart .empty _)
    rw [Machine.run_append, hrun]
    refine run_cons ?_
    rw [hbehind.step_eq _ (by simp)]
    simp only [Machine.stepOperator, Machine.stepEnd, hclose]
    rw [show items.map Prod.snd = (e :: done).reverse by simpa using hdone.symm]
    rfl

/-- The machine reads the arguments of a call before it asks what the call means. -/
theorem run_call {n : String} {items : List (List Token × Expr)}
    (hitems : ∀ i ∈ items, ReadBy ctx 1 i.1 i.2) {m : Machine} {level : Level}
    {outer : List (Opening × Level)} (hawaits : m.Awaits ctx level outer) :
    m.run ctx
        (.identifier n :: .leftParen :: (Token.separated (items.map Prod.fst) ++ [.rightParen])) =
      .ok ⟨.afterCall n (items.map Prod.snd), level, outer⟩ := by
  have hname : m.step ctx (.identifier n) = .ok ⟨.afterName n, level, outer⟩ :=
    hawaits _ (by simp) (by simp)
  have hopen : Machine.step ctx ⟨.afterName n, level, outer⟩ .leftParen =
      .ok ⟨.listStart, .empty, (.call n [], level) :: outer⟩ := rfl
  rw [run_cons hname, run_cons hopen]
  by_cases hne : items = []
  · subst hne
    exact run_cons rfl
  · obtain ⟨m', inner, last, done, hrun, hbehind, hclose, hdone⟩ :=
      run_separated (.inr ⟨n, rfl⟩) hne hitems (Machine.awaits_listStart .empty _)
    rw [Machine.run_append, hrun]
    refine run_cons ?_
    rw [hbehind.step_eq _ (by simp)]
    simp only [Machine.stepOperator, Machine.stepEnd, hclose]
    rw [show items.map Prod.snd = (last :: done).reverse by simpa using hdone.symm]
    rfl

theorem ReadBy.call {n : String} {items : List (List Token × Expr)} {e : Expr}
    (hitems : ∀ i ∈ items, ReadBy ctx 1 i.1 i.2)
    (hcall : ctx.called n (items.map Prod.snd) = .ok e) :
    ReadBy ctx 9
      (.identifier n :: .leftParen :: (Token.separated (items.map Prod.fst) ++ [.rightParen]))
      e :=
  .of_primary fun _ level outer hawaits _ =>
    ⟨_, run_call hitems hawaits, Machine.behind_afterCall hcall level outer⟩

/-- Whatever the grammar derives, the machine reads. -/
theorem Derives.readBy {p : Nat} {ts : List Token} {e : Expr} (h : Derives ctx p ts e) :
    ReadBy ctx p ts e := by
  induction h with
  | tighter _ ih => exact ih.tighter
  | binary hop hreads hnode _ _ ihleft ihright =>
    exact .join hop hreads (combine_of_binary? ctx hnode _ _) ihleft ihright
  | union _ _ ihleft ihright =>
    exact .join (by simp [joining]) (.sign (by simp)) rfl ihleft ihright
  | dot _ _ hdot ihleft ihright =>
    exact .join (by simp [joining]) (.sign (by simp)) hdot ihleft ihright
  | signed _ ih => exact ih.signed
  | group _ ih => exact ih.group
  | array _ ih => exact .array ih
  | number x => exact .of_primary fun m level outer hawaits _ =>
      ⟨_, run_cons (hawaits _ (by simp) (by simp)), Machine.behind_operator ..⟩
  | string s => exact .of_primary fun m level outer hawaits _ =>
      ⟨_, run_cons (hawaits _ (by simp) (by simp)), Machine.behind_operator ..⟩
  | name n => exact .of_primary fun m level outer hawaits _ =>
      ⟨_, run_cons (hawaits _ (by simp) (by simp)), Machine.behind_afterName ..⟩
  | call _ hcall ih => exact .call ih hcall
  | unit _ hword ih => exact ih.unit hword

/-- The machine accepts every formula that has tokens, with its meaning. -/
theorem Formula.run_finish {ts : List Token} {e : Expr} (h : Formula ctx ts e) (hne : ts ≠ []) :
    (Machine.start.run ctx ts).bind (Machine.finish ctx) = .ok e := by
  have hempty : Level.Admits 1 .empty := fun o ho => by simp [Level.empty] at ho
  -- a level of the whole formula ends with its meaning, in whatever phase it is closed
  have hread : ∀ {ts : List Token}, Derives ctx 1 ts e → ∃ m level,
      Machine.start.run ctx ts = .ok m ∧ m.Behind ctx level [] ∧
      ∀ phase, Machine.finishLevel ctx ⟨phase, level, []⟩ = .ok e := by
    intro ts hderives
    obtain ⟨m, level, hrun, hbehind, hpiled⟩ :=
      hderives.readBy (Machine.awaits_operand .empty []) hempty Level.balanced_empty
    refine ⟨m, level, hrun, hbehind, fun phase => ?_⟩
    simp only [Machine.finishLevel, hpiled.close Nat.one_pos]
    rfl
  cases h with
  | empty => exact absurd rfl hne
  | level hderives =>
    obtain ⟨m, level, hrun, hbehind, hfinish⟩ := hread hderives
    rw [hrun]
    exact hbehind.finish_eq.trans (hfinish _)
  | clause hderives =>
    obtain ⟨m, level, hrun, hbehind, hfinish⟩ := hread hderives
    have hstep : m.step ctx (.operator .semicolon) = .ok ⟨.afterSemicolon, level, []⟩ :=
      hbehind.step_eq _ (by simp)
    rw [Machine.run_append, hrun]
    change (m.run ctx [.operator .semicolon]).bind _ = _
    rw [run_cons hstep]
    exact hfinish .afterSemicolon

/-- Tokens mean one expression only. -/
theorem Formula.unique {ts : List Token} {e e' : Expr} (h : Formula ctx ts e)
    (h' : Formula ctx ts e') : e = e' := by
  by_cases hne : ts = []
  · subst hne
    rw [h.eq_of_nil, h'.eq_of_nil]
  · exact Except.ok.inj ((h.run_finish hne).symm.trans (h'.run_finish hne))

end Grammar

/-- A formula without tokens is the constant true, or refused for the error in its text. -/
theorem Expr.parse_of_tokens_eq_nil (ctx : Context) {text : String}
    (h : (Scan.ofText text).tokens = []) :
    Expr.parse ctx text = (Scan.ofText text).fault.elim (.ok (.boolean true))
      fun e => .error (.lexical e) := by
  unfold Expr.parse
  generalize Scan.ofText text = scan at h ⊢
  obtain ⟨tokens, fault⟩ := scan
  obtain rfl : tokens = [] := h
  cases fault <;> rfl

/-- The answer to a formula with tokens is that of the machine. -/
theorem Expr.parse_of_tokens_ne_nil (ctx : Context) {text : String}
    (h : (Scan.ofText text).tokens ≠ []) :
    Expr.parse ctx text = (Machine.start.run ctx (Scan.ofText text).tokens).bind
      (Parser.outcome ctx (Scan.ofText text).fault) := by
  unfold Expr.parse
  generalize Scan.ofText text = scan at h ⊢
  obtain ⟨tokens, fault⟩ := scan
  cases tokens with
  | nil => exact absurd rfl h
  | cons t tokens => exact Parser.run_fst ctx fault .start t tokens

/-- A text whose tokens are a formula is read as what the formula means. -/
theorem Grammar.Formula.parse_eq {ctx : Context} {text : String} {e : Expr}
    (hfault : (Scan.ofText text).fault = none) (h : Formula ctx (Scan.ofText text).tokens e) :
    Expr.parse ctx text = .ok e := by
  by_cases hne : (Scan.ofText text).tokens = []
  · rw [Expr.parse_of_tokens_eq_nil ctx hne, hfault]
    rw [hne] at h
    rw [h.eq_of_nil]
    rfl
  · rw [Expr.parse_of_tokens_ne_nil ctx hne, hfault]
    exact h.run_finish hne

/-- A text whose tokens are an operand of a stratum is read as what the operand means. -/
theorem Grammar.Derives.parse_eq {ctx : Context} {p : Nat} {ts : List Token} {e : Expr}
    (h : Derives ctx p ts e) (hp : 1 ≤ p) {text : String} (hscan : Scan.ofText text = ⟨ts, none⟩) :
    Expr.parse ctx text = .ok e := by
  refine Formula.parse_eq (by rw [hscan]) ?_
  rw [hscan]
  exact .level (h.loosen hp)

end Formulas
