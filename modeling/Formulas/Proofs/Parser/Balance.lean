import Formulas.Proofs.InternalFaults
import Mathlib.Data.List.TakeWhile

/-!
# The balance of the stacks

Whenever an operand is to be read, a level is balanced: it holds as many operands as operators, no
operator stands above one that binds tighter, and the markers are beside the prefix operators and
nowhere else, so that every operator has the entry on its left beside it. Behind an operand the
level has that one operand more, and combining keeps it so: a run of operators of one precedence
takes the operands beside them and one more, which none of them can lack.

Only a prefix operator directly behind a dot is out of balance. Its marker is then on the right of
the dot, which binds tighter and is combined first.

## Main definitions

* `Level.Complete`: the stacks of a level behind an operand;
* `Level.Reduces`, `Machine.Reduces`: the levels whose topmost operators are combined;
* `Machine.StacksFit`: what holds of the stacks while tokens are read.

## Main results

* `Level.Complete.reduce`: combining finds its operands and leaves an operand on a balanced level;
* `Level.reduceAbove_eq_error_iff`: combining is refused for one of the levels that are combined;
* `Machine.stacksFit`: the stacks fit while any part of a text is read.
-/

namespace Formulas

open Grammar

namespace Level

variable {ctx : Context}

/-- The stacks of a level that has read an operand: an expression on top of a level that is
balanced. -/
def Complete (level : Level) : Prop := ∃ base e, base.Balanced ∧ level = pushValue base e

/-- An operand on top of a level tells the level. -/
theorem eq_of_pushValue_eq {level level' : Level} {e e' : Expr}
    (h : level.pushValue e = level'.pushValue e') : level = level' := by
  cases level
  cases level'
  cases h
  rfl

/-- What is left of the stacks when as many operands as operators are taken away. -/
theorem Balanced.drop {level : Level} (h : level.Balanced) (n : Nat) :
    Balanced ⟨level.operands.drop n, level.operators.drop n⟩ := by
  refine ⟨by simp [h.length_eq], h.sorted.drop, fun i operand op hoperand hop => ?_⟩
  rw [List.getElem?_drop] at hoperand hop
  exact h.marker_iff (n + i) operand op hoperand hop

/-- Beside an operator that is no prefix operator there is an expression. -/
theorem Balanced.exists_value {level : Level} (h : level.Balanced) {i : Nat} {op : Operator}
    (hop : level.operators[i]? = some op) (hunary : op.isUnary = false) :
    ∃ e, level.operands[i]? = some (.value e) := by
  have hlt : i < level.operands.length := by
    rw [h.length_eq]
    exact (List.getElem?_eq_some_iff.1 hop).1
  have hoperand := List.getElem?_eq_getElem hlt
  cases hvalue : level.operands[i] with
  | value e => exact ⟨e, by rw [hoperand, hvalue]⟩
  | marker =>
    have := (h.marker_iff i _ op hoperand hop).1 hvalue
    simp [hunary] at this

/-- Operands that are all expressions are combined to one, or a dot between them is refused. -/
theorem yields_combineAll (first : Expr) {others : List (Operator × Operand)}
    (hothers : ∀ o ∈ others, o.1.isUnary = false ∧ ∃ e, o.2 = .value e) :
    Yields (fun result => ∃ e, result = .value e) (combineAll ctx (.value first) others) := by
  induction others generalizing first with
  | nil => exact ⟨first, rfl⟩
  | cons o others ih =>
    obtain ⟨op, operand⟩ := o
    obtain ⟨hunary, e, rfl⟩ := hothers (op, operand) (by simp)
    have hcons : combineAll ctx (.value first) ((op, .value e) :: others) =
        (combine ctx (.value first) op (.value e)).bind fun e' =>
          combineAll ctx (.value e') others := by
      simp only [combineAll, List.foldlM_cons]
      cases combine ctx (.value first) op (.value e) <;> rfl
    rw [hcons]
    exact (yields_combine hunary first e).bind fun e' _ _ =>
      ih e' fun o ho => hothers o (by simp [ho])

/-- The operators that are combined with one that is no prefix operator are on top of the stack,
and none of them is a prefix operator. -/
theorem run_of_isUnary_eq_false {top : Operator} (hunary : top.isUnary = false)
    (below : List Operator) :
    run top below <+: top :: below ∧ ∀ op ∈ run top below, op.isUnary = false := by
  simp only [run, hunary, Bool.false_eq_true, if_false]
  have hpile : (below.takeWhile fun op => !op.isUnary && op.precedence == top.precedence) <+:
      below := List.takeWhile_prefix _
  refine ⟨(List.prefix_cons_inj top).2 hpile, fun op hop => ?_⟩
  rcases List.mem_cons.1 hop with rfl | hop
  · exact hunary
  · have htop := List.mem_takeWhile_imp hop
    simp only [Bool.and_eq_true, Bool.not_eq_true'] at htop
    exact htop.1

/-- A level with enough operands is what is below the run and what the run comes to. -/
theorem reduce_eq_bind {level : Level} {top : Operator} {below : List Operator}
    (htop : level.operators = top :: below) {first : Operand} {rest : List Operand}
    (hoperands : level.operands.drop (run top below).length = first :: rest) :
    level.reduce ctx = (combineAll ctx first ((run top below).reverse.zip
      (level.operands.take (run top below).length).reverse)).bind
        fun result => .ok ⟨result :: rest, level.operators.drop (run top below).length⟩ := by
  simp only [reduce, htop, hoperands]
  cases combineAll ctx first _ <;> rfl

/-- Beside the operators of a run there are expressions. -/
theorem Balanced.exists_value_of_run {level : Level} (h : level.Balanced) {top : Operator}
    {below : List Operator} (htop : level.operators = top :: below) (hunary : top.isUnary = false)
    {i : Nat} (hi : i < (run top below).length) : ∃ e, level.operands[i]? = some (.value e) := by
  obtain ⟨⟨tail, htail⟩, hnone⟩ := run_of_isUnary_eq_false hunary below
  have hop : level.operators[i]? = some (run top below)[i] := by
    rw [htop, ← htail, List.getElem?_append_left hi]
    exact List.getElem?_eq_getElem hi
  exact h.exists_value hop (hnone _ (List.getElem_mem hi))

/-- Above the operand beside the last operator of a run there are expressions. -/
theorem Balanced.exists_value_of_mem_take {base : Level} (h : base.Balanced) {e : Expr}
    {top : Operator} {below : List Operator} (htop : base.operators = top :: below)
    (hunary : top.isUnary = false) {operand : Operand}
    (hmem : operand ∈ (base.pushValue e).operands.take (run top below).length) :
    ∃ e, operand = .value e := by
  obtain ⟨i, hi, rfl⟩ := List.mem_take_iff_getElem.1 hmem
  cases i with
  | zero => exact ⟨e, rfl⟩
  | succ i =>
    obtain ⟨e', he'⟩ := h.exists_value_of_run htop hunary (i := i) (by omega)
    exact ⟨e', (List.getElem?_eq_some_iff.1 he').2⟩

/-- A run of operators that are no prefix operators finds operands that are expressions, and comes
to an expression on the balanced level below. -/
theorem Balanced.reduce_run {base : Level} (h : base.Balanced) (e : Expr) {top : Operator}
    {below : List Operator} (htop : base.operators = top :: below) (hunary : top.isUnary = false) :
    (run top below).length < (base.pushValue e).operands.length ∧
      Yields Complete ((base.pushValue e).reduce ctx) := by
  obtain ⟨hrun, hnone⟩ := run_of_isUnary_eq_false hunary below
  have hle : (run top below).length ≤ base.operands.length := by
    rw [h.length_eq, htop]
    exact hrun.length_le
  obtain ⟨n, hn⟩ := Nat.exists_eq_succ_of_ne_zero (Nat.ne_of_gt (length_run_pos top below))
  -- the operand beside the last operator of the run is its first, the others are above it
  obtain ⟨first, hfirst⟩ := h.exists_value_of_run htop hunary (i := n) (by omega)
  have hdrop : (base.pushValue e).operands.drop (run top below).length =
      .value first :: base.operands.drop (run top below).length := by
    rw [hn, operands_pushValue, List.drop_succ_cons, List.drop_eq_getElem?_toList_append, hfirst]
    rfl
  refine ⟨Nat.lt_succ_of_le hle, ?_⟩
  rw [reduce_eq_bind (operators_pushValue base e ▸ htop) hdrop]
  refine (yields_combineAll first fun o ho => ?_).bind fun result _ hresult => ?_
  · obtain ⟨hop, hoperand⟩ := List.of_mem_zip ho
    exact ⟨hnone _ (List.mem_reverse.1 hop),
      h.exists_value_of_mem_take htop hunary (List.mem_reverse.1 hoperand)⟩
  · obtain ⟨e', rfl⟩ := hresult
    exact ⟨_, e', h.drop _, rfl⟩

/-- A prefix operator finds its marker below its operand and leaves an expression on the balanced
level below. -/
theorem Balanced.reduce_signed {base : Level} (h : base.Balanced) (e : Expr) {top : Operator}
    {below : List Operator} (htop : base.operators = top :: below) (hunary : top.isUnary = true) :
    (run top below).length < (base.pushValue e).operands.length ∧
      Yields Complete ((base.pushValue e).reduce ctx) := by
  obtain ⟨operands, operators⟩ := base
  subst htop
  have hlength := h.length_eq
  have hbelow := h.drop 1
  cases operands with
  | nil => simp at hlength
  | cons operand rest =>
    obtain rfl := (h.marker_iff 0 operand top rfl rfl).2 hunary
    obtain ⟨op, rfl⟩ : ∃ op : UnaryOp, op.operator = top := by
      cases top with
      | not => exact ⟨.not, rfl⟩
      | negate => exact ⟨.negate, rfl⟩
      | _ => cases hunary
    refine ⟨by simp [run], ?_⟩
    have hreduce := Level.reduce_signed ctx ⟨rest, below⟩ op e
    change Yields Complete ((pushValue (Level.signed ⟨rest, below⟩ op) e).reduce ctx)
    rw [hreduce]
    exact ⟨_, _, hbelow, rfl⟩

/-- Combining finds its operands and leaves an expression on a balanced level, unless a dot is
refused for its grammar. -/
theorem Complete.reduce {level : Level} (h : level.Complete) {top : Operator}
    {below : List Operator} (htop : level.operators = top :: below) :
    (run top below).length < level.operands.length ∧ Yields Complete (level.reduce ctx) := by
  obtain ⟨base, e, hbase, rfl⟩ := h
  cases hunary : top.isUnary with
  | true => exact hbase.reduce_signed e htop hunary
  | false => exact hbase.reduce_run e htop hunary

/-- The levels whose topmost operators are combined, one after the other, when everything on a
level that binds tighter than `p` is combined. -/
inductive Reduces (ctx : Context) (p : Nat) : Level → Level → Prop
  | here {level : Level} {top : Operator} (htop : top ∈ level.operators.head?)
      (hlt : p < top.precedence) : Reduces ctx p level level
  | later {level level' called : Level} {top : Operator} (htop : top ∈ level.operators.head?)
      (hlt : p < top.precedence) (hreduce : level.reduce ctx = .ok level')
      (h : Reduces ctx p level' called) : Reduces ctx p level called

/-- What binds tighter is refused for one of the levels whose topmost operators are combined. -/
theorem reduceAbove_eq_error_iff {p : Nat} {level : Level} {err : ParseError} :
    level.reduceAbove ctx p = .error err ↔
      ∃ called, level.Reduces ctx p called ∧ called.reduce ctx = .error err := by
  constructor
  · intro h
    fun_induction reduceAbove ctx p level with
    | case1 => cases h
    | case2 level top below hops hlt level' hreduce ih =>
      obtain ⟨called, hcalled, herr⟩ := ih h
      exact ⟨called, .later (by simp [hops]) hlt hreduce hcalled, herr⟩
    | case3 level top below hops hlt err' hreduce =>
      cases h
      exact ⟨level, .here (by simp [hops]) hlt, hreduce⟩
    | case4 => cases h
  · rintro ⟨called, hcalled, herr⟩
    induction hcalled with
    | here htop hlt =>
      rw [reduceAbove_of_lt ctx htop hlt, herr]
      rfl
    | later htop hlt hreduce _ ih =>
      rw [reduceAbove_of_lt ctx htop hlt, hreduce]
      exact ih herr

/-- A level that is combined has an operator on top. -/
theorem Reduces.exists_operators_eq {p : Nat} {level called : Level}
    (h : level.Reduces ctx p called) : ∃ top below, called.operators = top :: below := by
  induction h with
  | @here level top htop _ =>
    obtain ⟨below, hbelow⟩ := List.head?_eq_some_iff.1 htop
    exact ⟨top, below, hbelow⟩
  | later _ _ _ _ ih => exact ih

/-- From a level that has read an operand on, every level that is combined has read one. -/
theorem Reduces.complete {p : Nat} {level called : Level} (h : level.Reduces ctx p called)
    (hlevel : level.Complete) : called.Complete := by
  induction h with
  | here _ _ => exact hlevel
  | @later level level' called top htop _ hreduce _ ih =>
    obtain ⟨below, hbelow⟩ := List.head?_eq_some_iff.1 htop
    have hyields : Yields Complete (level.reduce ctx) := (hlevel.reduce hbelow).2
    rw [hreduce] at hyields
    exact ih hyields

/-- On a level whose top operator does not bind tighter, nothing is combined. -/
theorem not_reduces {p : Nat} {level called : Level}
    (htop : ∀ op ∈ level.operators.head?, op.precedence ≤ p) : ¬ level.Reduces ctx p called := by
  intro h
  cases h with
  | here hmem hlt => exact Nat.not_lt.2 (htop _ hmem) hlt
  | later hmem hlt _ _ => exact Nat.not_lt.2 (htop _ hmem) hlt

end Level

namespace Machine

variable {ctx : Context}

/-- The levels whose topmost operators are combined with the next token or at the end: when an
operator that was read is put on its stack, and when a level is closed. -/
inductive Reduces (ctx : Context) (m : Machine) : Level → Prop
  | operator {op : Operator} {called : Level} (hphase : m.phase = .afterOperator op)
      (h : m.level.Reduces ctx op.precedence called) : Reduces ctx m called
  | semicolon {called : Level} (hphase : m.phase = .afterSemicolon)
      (h : m.level.Reduces ctx Operator.and.precedence called) : Reduces ctx m called
  | semicolonEnd {called : Level} (hphase : m.phase = .afterSemicolon)
      (h : m.level.Reduces ctx 0 called) : Reduces ctx m called
  | close {level called : Level} {outer : List (Opening × Level)}
      (hbehind : m.Behind ctx level outer) (h : level.Reduces ctx 0 called) : Reduces ctx m called

theorem Reduces.exists_level {m : Machine} {called : Level} (h : m.Reduces ctx called) :
    ∃ (p : Nat) (level : Level), level.Reduces ctx p called := by
  cases h with
  | operator _ h => exact ⟨_, _, h⟩
  | semicolon _ h => exact ⟨_, _, h⟩
  | semicolonEnd _ h => exact ⟨_, _, h⟩
  | close _ h => exact ⟨_, _, h⟩

/-- The levels around the open brackets are balanced. -/
theorem OuterRead.balanced {outer : List (Opening × Level)} {ts : List Token}
    (h : OuterRead ctx outer ts) : ∀ o ∈ outer, o.2.Balanced := by
  induction h with
  | nil => simp
  | cons _ hlevel _ ih => exact List.forall_mem_cons.2 ⟨hlevel.balanced, ih⟩

/-- Behind an operand there is a balanced level below it, and around it are others. -/
theorem HasRead.balanced_of_operator {base : Level} {e : Expr} {outer : List (Opening × Level)}
    {ts : List Token} (h : HasRead ctx ⟨.operator, base.pushValue e, outer⟩ ts) :
    base.Balanced ∧ ∀ o ∈ outer, o.2.Balanced := by
  generalize hlevel : base.pushValue e = level at h
  cases h with
  | operator houter hwaits _ =>
    obtain rfl := Level.eq_of_pushValue_eq hlevel
    exact ⟨hwaits.balanced, houter.balanced⟩
  | afterDotSign hdot => cases hdot

/-- Where an operand is awaited, the level and those around it are balanced. -/
theorem HasRead.balanced_of_awaits {m : Machine} {ts : List Token} (h : HasRead ctx m ts)
    {level : Level} {outer : List (Opening × Level)} (hawaits : m.Awaits ctx level outer) :
    level.Balanced ∧ ∀ o ∈ outer, o.2.Balanced := by
  -- the machine that has read any operand holds the level as it was before
  have hstep : m.step ctx (.string "") =
      .ok ⟨.operator, level.pushValue (.string ""), outer⟩ := hawaits _ (by simp) (by simp)
  rcases h.step (t := .string "") (by simp) with hyields | hdot
  · rw [hstep] at hyields
    exact HasRead.balanced_of_operator hyields
  · exact absurd hstep (hdot.step_ne_ok _)

/-- Behind an operator on its way to the stack, the level has read an operand, unless it is a prefix
operator: then nothing on the level binds tighter, or it stands directly behind a dot. -/
theorem HasRead.afterOperator_cases {op : Operator} {level : Level}
    {outer : List (Opening × Level)} {ts : List Token}
    (h : HasRead ctx ⟨.afterOperator op, level, outer⟩ ts) :
    level.Complete ∨ op.isUnary = true ∧
      ((∀ o ∈ level.operators.head?, o.precedence ≤ op.precedence) ∨
        DotSigned ctx ⟨.afterOperator op, level, outer⟩ ts) := by
  cases h with
  | afterOperator _ hlevel _ _ _ => exact .inl ⟨_, _, hlevel.balanced, rfl⟩
  | afterSign sign _ hlevel hle =>
    refine .inr ⟨by simp, .inl fun o ho => ?_⟩
    rw [Level.precedence_operator]
    exact (hlevel.admits hle o ho).1
  | afterDotSign hdot =>
    refine .inr ⟨?_, .inr hdot⟩
    cases hdot
    simp

/-- Behind an operand, its level has read an operand. -/
theorem HasRead.complete_of_behind {m : Machine} {ts : List Token} (h : HasRead ctx m ts)
    {level : Level} {outer : List (Opening × Level)} (hbehind : m.Behind ctx level outer) :
    level.Complete := by
  -- an operator between two operands is taken there, and waits beside the level
  have hstep : m.step ctx (.operator .plus) = .ok ⟨.afterOperator .plus, level, outer⟩ :=
    hbehind.step_eq _ (by simp)
  rcases h.step (t := .operator .plus) (by simp) with hyields | hdot
  · rw [hstep] at hyields
    rcases HasRead.afterOperator_cases hyields with hcomplete | ⟨hunary, -⟩
    · exact hcomplete
    · cases hunary
  · exact absurd hstep (hdot.step_ne_ok _)

/-- Behind a semicolon, the level has read an operand. -/
theorem HasRead.complete_of_afterSemicolon {level : Level} {outer : List (Opening × Level)}
    {ts : List Token} (h : HasRead ctx ⟨.afterSemicolon, level, outer⟩ ts) : level.Complete := by
  cases h with
  | afterSemicolon _ hlevel _ => exact ⟨_, _, hlevel.balanced, rfl⟩
  | afterDotSign hdot => cases hdot

/-- Every level whose topmost operators are combined has read an operand, unless a prefix operator
stands directly behind a dot. -/
theorem HasRead.complete_of_reduces {m : Machine} {ts : List Token} (h : HasRead ctx m ts)
    {called : Level} (hcalled : m.Reduces ctx called) : called.Complete ∨ DotSigned ctx m ts := by
  obtain ⟨phase, level, outer⟩ := m
  cases hcalled with
  | operator hphase hreduces =>
    obtain rfl : phase = _ := hphase
    rcases h.afterOperator_cases with hcomplete | ⟨-, htop | hdot⟩
    · exact .inl (hreduces.complete hcomplete)
    · exact absurd hreduces (Level.not_reduces htop)
    · exact .inr hdot
  | semicolon hphase hreduces =>
    obtain rfl : phase = _ := hphase
    exact .inl (hreduces.complete h.complete_of_afterSemicolon)
  | semicolonEnd hphase hreduces =>
    obtain rfl : phase = _ := hphase
    exact .inl (hreduces.complete h.complete_of_afterSemicolon)
  | close hbehind hreduces => exact .inl (hreduces.complete (h.complete_of_behind hbehind))

/-- What holds of the stacks while the tokens are read. -/
structure StacksFit (ctx : Context) (tokens : List Token) : Prop where
  /-- Wherever an operand is to be read, the stacks of the level and of those around it are
  balanced; in particular no operator was pushed above fewer operands. -/
  balanced {before after : List Token} (heq : tokens = before ++ after) {m : Machine}
      (hrun : start.run ctx before = .ok m) {level : Level} {outer : List (Opening × Level)}
      (hawaits : m.Awaits ctx level outer) :
    level.Balanced ∧ ∀ o ∈ outer, o.2.Balanced
  /-- Wherever operators are combined, not behind a prefix operator that stands directly behind a
  dot, the stacks are those of a level that has read an operand, with enough operands for the run
  on top, and are so again when the run is combined. -/
  reduces {before after : List Token} (heq : tokens = before ++ after) {m : Machine}
      (hrun : start.run ctx before = .ok m)
      (hdot : ∀ (read : List Token) (op : UnaryOp), before ≠ read ++ [.operator .dot, op.sign])
      {called : Level} (hcalled : m.Reduces ctx called) :
    called.Complete ∧ Yields Level.Complete (called.reduce ctx) ∧
      ∃ top below, called.operators = top :: below ∧
        (Level.run top below).length < called.operands.length
  /-- The only fault of the stacks is that of a dot before the marker of a prefix operator. -/
  internal {fault : StackFault}
      (hfault : (start.run ctx tokens).bind (finish ctx) = .error (.internal fault)) :
    fault = .notApplicable .dot ∧ ∃ (before after : List Token) (op : UnaryOp) (next : Token),
      tokens = before ++ .operator .dot :: op.sign :: next :: after

/-- The stacks fit while any part of a text is read. -/
theorem stacksFit (ctx : Context) (text : String) (i n : Nat) :
    StacksFit ctx (((Scan.ofText text).tokens.drop i).take n) := by
  have hnegate : Token.operator .negate ∉ ((Scan.ofText text).tokens.drop i).take n := fun hmem =>
    negate_notMem_tokens text (List.mem_of_mem_drop (List.mem_of_mem_take hmem))
  generalize ((Scan.ofText text).tokens.drop i).take n = tokens at hnegate
  have hread : ∀ {before after : List Token} {m : Machine}, tokens = before ++ after →
      start.run ctx before = .ok m → HasRead ctx m before := by
    intro before after m heq hrun
    exact hasRead_start.run (fun hmem => hnegate (by simp [heq, hmem])) hrun
  constructor
  case balanced =>
    intro before after heq m hrun level outer hawaits
    exact (hread heq hrun).balanced_of_awaits hawaits
  case reduces =>
    intro before after heq m hrun hdot called hcalled
    rcases (hread heq hrun).complete_of_reduces hcalled with hcomplete | hsigned
    · obtain ⟨p, level, hlevel⟩ := hcalled.exists_level
      obtain ⟨top, below, htop⟩ := hlevel.exists_operators_eq
      obtain ⟨hlt, hyields⟩ := hcomplete.reduce htop
      exact ⟨hcomplete, hyields, top, below, htop, hlt⟩
    · obtain ⟨read, op, heq⟩ := hsigned.exists_eq
      exact absurd heq (hdot read op)
  case internal =>
    intro fault hfault
    cases hrun : start.run ctx tokens with
    | error err =>
      rw [hrun] at hfault
      cases hfault
      obtain ⟨hfault, before, after, op, next, heq, -⟩ := (run_eq_internal_iff hnegate fault).1 hrun
      exact ⟨hfault, before, after, op, next, heq⟩
    | ok m =>
      rw [hrun] at hfault
      have hyields := (hread (List.append_nil tokens).symm hrun).finish
      exact absurd hfault (hyields.ne_internal fault)

end Machine
end Formulas
