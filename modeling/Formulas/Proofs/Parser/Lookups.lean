import Formulas.Parser
import Formulas.Proofs.Environment.Facts

/-!
# The parser asks an environment for answers alone

Names, calls and dots ask the environment for the type of a variable and for the result of a
function, and nothing else does. Environments that answer alike are therefore the same to the
parser, in the expressions that it reads and in the errors that it reports.

## Main definitions

* `Context.MeansAs`: names, calls and dots mean the same in two contexts.

## Main results

* `Environment.AnswersAs.meansAs`: environments that answer alike give names the same meanings;
* `Context.MeansAs.step_eq`: the machine takes the same steps;
* `Environment.AnswersAs.parse_eq`: a text has the same outcome.
-/

namespace Formulas

/-- Names, calls and dots mean the same in both contexts. -/
structure Context.MeansAs (ctx ctx' : Context) : Prop where
  named_eq : ctx.named = ctx'.named
  called_eq : ctx.called = ctx'.called
  dot_eq : ctx.dot = ctx'.dot

namespace Environment.AnswersAs

variable {env env' : Environment} (h : env.AnswersAs env') (registry : Registry)

include h

/-- The dotted names that are variables are the same. -/
theorem collapse_eq : Context.collapse ⟨env, registry⟩ = Context.collapse ⟨env', registry⟩ := by
  funext chain
  simp only [Context.collapse, h.variableType?_eq]

/-- A dot joins its operands to the same. -/
theorem joined_eq : Context.joined ⟨env, registry⟩ = Context.joined ⟨env', registry⟩ := by
  funext left right
  simp only [Context.joined, Context.resultType?, h.collapse_eq registry, h.resultType?_eq]

/-- Environments that answer alike give the same meanings to names, calls and dots, whatever
functions are built in. -/
theorem meansAs : Context.MeansAs ⟨env, registry⟩ ⟨env', registry⟩ where
  named_eq := by
    funext name
    simp only [Context.named, variableType, h.variableType?_eq]
  called_eq := by
    funext name arguments
    simp only [Context.called, Context.resultType?, h.resultType?_eq]
  dot_eq := by
    funext left right
    simp only [Context.dot, h.joined_eq registry]

end Environment.AnswersAs

namespace Context.MeansAs

variable {ctx ctx' : Context} (h : ctx.MeansAs ctx')

include h

/-! ### Levels -/

/-- An operator makes the same of its operands. -/
theorem combine_eq : Level.combine ctx = Level.combine ctx' := by
  funext left op right
  -- no other operator than the dot looks at the context
  unfold Level.combine
  rw [h.dot_eq]

/-- The operators on top of a level are combined to the same. -/
theorem reduce_eq : Level.reduce ctx = Level.reduce ctx' := by
  funext level
  simp only [Level.reduce, Level.combineAll, h.combine_eq]

/-- The operators that bind tighter are combined to the same. -/
theorem reduceAbove_eq : Level.reduceAbove ctx = Level.reduceAbove ctx' := by
  funext precedence level
  -- each reduction leaves fewer operators
  induction hcount : level.operators.length using Nat.strongRecOn generalizing level with
  | ind count ih =>
    subst hcount
    rw [Level.reduceAbove.eq_def ctx, Level.reduceAbove.eq_def ctx']
    split
    next => rfl
    next top below htop =>
      split
      next =>
        rw [← h.reduce_eq]
        split
        next level' hreduced =>
          exact ih _ (Level.length_operators_of_reduce htop hreduced) level' rfl
        next => rfl
      next => rfl

/-- An operator is put on its stack alike. -/
theorem pushOperator_eq : Level.pushOperator ctx = Level.pushOperator ctx' := by
  funext op level
  rw [Level.pushOperator, Level.pushOperator, h.reduceAbove_eq]

/-- A level ends with the same expression. -/
theorem close_eq : Level.close ctx = Level.close ctx' := by
  funext level
  rw [Level.close, Level.close, h.reduceAbove_eq]

/-! ### The machine -/

/-- A token behind an operand is taken alike. -/
theorem stepOperator_eq : Machine.stepOperator ctx = Machine.stepOperator ctx' := by
  funext m t
  unfold Machine.stepOperator Machine.stepEnd
  rw [h.close_eq]

/-- A name that is no call is the same operand. -/
theorem finishName_eq : Machine.finishName ctx = Machine.finishName ctx' := by
  funext m name
  rw [Machine.finishName, Machine.finishName, h.named_eq]

/-- A call is the same operand, or the same error. -/
theorem finishCall_eq : Machine.finishCall ctx = Machine.finishCall ctx' := by
  funext m name arguments
  rw [Machine.finishCall, Machine.finishCall, h.called_eq]

/-- A token leads to the same state, or to the same error. -/
theorem step_eq : Machine.step ctx = Machine.step ctx' := by
  funext m t
  -- a name or a call can end with the token, and the operator behind it is then put on its stack
  unfold Machine.step
  rw [h.pushOperator_eq, h.stepOperator_eq, h.finishName_eq, h.finishCall_eq]

/-- The end of a formula gives the same answer. -/
theorem finish_eq : Machine.finish ctx = Machine.finish ctx' := by
  funext m
  unfold Machine.finish Machine.finishLevel
  rw [h.close_eq, h.finishName_eq, h.finishCall_eq]

/-- A parser goes on alike, with the same answer and the same rest. -/
theorem parser_run_eq (fault : Option ScanError) (m : Machine) (t : Token) (tokens : List Token) :
    Parser.run ctx fault m t tokens = Parser.run ctx' fault m t tokens := by
  induction tokens generalizing m t with
  | nil =>
    have houtcome : Parser.outcome ctx fault = Parser.outcome ctx' fault := by
      unfold Parser.outcome
      rw [h.finish_eq]
    rw [Parser.run, Parser.run, h.step_eq, houtcome]
  | cons t' tokens ih =>
    rw [Parser.run, Parser.run, h.step_eq]
    split
    · rfl
    · exact ih _ t'

/-- A text has the same outcome. -/
theorem parse_eq : Expr.parse ctx = Expr.parse ctx' := by
  have hparser : Parser.parse ctx = Parser.parse ctx' := by
    funext p
    simp only [Parser.parse, h.parser_run_eq]
  funext text
  rw [Expr.parse, Expr.parse, hparser]

end Context.MeansAs

/-- Environments that answer alike give every text the same outcome: the same expression, or the
same error. -/
theorem Environment.AnswersAs.parse_eq {env env' : Environment} (h : env.AnswersAs env')
    (text : String) : Expr.parse (.standard env) text = Expr.parse (.standard env') text :=
  congrFun (h.meansAs .standard).parse_eq text

end Formulas
