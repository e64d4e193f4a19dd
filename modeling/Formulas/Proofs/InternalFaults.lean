import Formulas.Proofs.Grammar.Exactness

/-!
# When the stacks do not fit

The parser has an error for stacks that do not fit together. The grammar excludes nearly all of
them: the only token that leads there is one behind a prefix operator that stands directly behind a
dot. A dot binds tighter than a prefix operator, so it is combined before the prefix operator has
its operand, and finds the marker of the prefix operator on its right.

## Main definitions

* `Machine.TakesPower`: tokens behind which `^` and a number can stand.

## Main results

* `Expr.parse_eq_internal_iff`: the texts that lead to stacks that do not fit, and how.
-/

namespace Formulas

open Grammar

namespace Level

variable {ctx : Context}

/-- A prefix operator directly behind a dot, on a level that has read an operand. -/
theorem Waits.reduceAbove_dot_marker {p : Nat} {level : Level} {ts us : List Token} {e : Expr}
    (h : Waits ctx p level ts) (he : Derives ctx 9 us e) :
    (((level.pushValue e).withOperator .dot).pushOperand .marker).reduceAbove ctx 7 =
      ((level.pushValue e).reduceAbove ctx 7).bind
        fun _ => .error (.internal (.notApplicable .dot)) := by
  have hself : (level.pushValue e).reduceAbove ctx 8 = .ok (level.pushValue e) :=
    reduceAbove_eq_self ctx fun op _ => precedence_le op
  have hsettled := h.reduceAbove he h.le_primary (by decide : 8 < 9)
  rw [hself] at hsettled
  obtain ⟨p', base, _, _, first, others, hlevel, hwaits, hle, hothers, _, _⟩ :=
    Settled.exists_pile hsettled (by decide)
  rw [hlevel]
  exact hwaits.reduceAbove_joined_marker hle first hothers

/-- Once the dots of a level are joined, only prefix operators are combined before `^` is put on
the stack. -/
theorem Waits.exists_reduceAbove_power {p : Nat} {level : Level} {ts : List Token}
    (h : Waits ctx p level ts) (htop : ∀ op ∈ level.operators.head?, op.precedence ≤ 7)
    (e : Expr) : ∃ level', (level.pushValue e).reduceAbove ctx 6 = .ok level' := by
  induction h generalizing e with
  | start => exact ⟨_, reduceAbove_eq_self ctx (by simp [empty])⟩
  | @joined _ q _ _ _ _ _ _ op _ _ _ hop _ _ _ =>
    have hle := htop op (by simp)
    have hprec := precedence_of_mem_joining hop
    have hne : q ≠ 7 := by
      rintro rfl
      simp [joining] at hop
    refine ⟨_, reduceAbove_eq_self ctx fun o ho => ?_⟩
    obtain rfl : op = o := by simpa using ho
    omega
  | signed op hwaits hle ih =>
    obtain ⟨level', hreduce⟩ := ih (fun o ho => (hwaits.admits hle o ho).1) (Kind.unary op e).bare
    exact ⟨level', by rw [reduceAbove_signed ctx _ op e (by decide), hreduce]⟩

/-- The dots of a level can be joined exactly if `^` can be put on the stack. -/
theorem Waits.exists_pushOperator_power_iff {p : Nat} {level : Level} {ts us : List Token}
    {e : Expr} (h : Waits ctx p level ts) (he : Derives ctx 9 us e) :
    (∃ level', (level.pushValue e).pushOperator ctx .power = .ok level') ↔
      ∃ level', (level.pushValue e).reduceAbove ctx 7 = .ok level' := by
  have hpush : (level.pushValue e).pushOperator ctx .power =
      (((level.pushValue e).reduceAbove ctx 7).bind (Level.reduceAbove ctx 6)).bind
        fun level' => .ok (level'.withOperator .power) := by
    rw [reduceAbove_reduceAbove ctx (by decide : 6 ≤ 7)]
    exact h.pushOperator_eq_bind he (by simp [joining])
  rw [hpush]
  have hsettled := h.reduceAbove he h.le_primary (by decide : 7 < 9)
  cases hreduce : (level.pushValue e).reduceAbove ctx 7 with
  | error err => simp [Except.bind]
  | ok level' =>
    rw [hreduce] at hsettled
    obtain ⟨_, _, base, _, _, e', rfl, hwaits, _, _, _, htop, _⟩ := hsettled
    obtain ⟨level'', hpower⟩ := hwaits.exists_reduceAbove_power htop e'
    simp [Except.bind, hpower]

end Level

namespace Machine

variable {ctx : Context}

/-- Where an operand is awaited, an operator is one only if it is a prefix operator. -/
theorem stepOperand_operator {op : Operator} (hminus : op ≠ .minus) (hnot : op ≠ .not)
    (m : Machine) :
    m.stepOperand (.operator op) = .error (.grammar (.operandExpected (.operator op))) := by
  cases op <;> first | rfl | exact absurd rfl hminus | exact absurd rfl hnot

/-- A machine that takes an operator between two operands is behind an operand. -/
theorem HasRead.exists_behind {m m' : Machine} {ts : List Token} (h : HasRead ctx m ts)
    {op : Operator} (hminus : op ≠ .minus) (hnot : op ≠ .not)
    (hstep : m.step ctx (.operator op) = .ok m') :
    ∃ (p : Nat) (level : Level) (us vs : List Token) (e : Expr) (outer : List (Opening × Level)),
      level.Waits ctx p us ∧ Derives ctx 9 vs e ∧ m.Behind ctx (level.pushValue e) outer := by
  -- where an operand is awaited the operator is refused, so the phase is one behind an operand
  have hrefused := stepOperand_operator hminus hnot
  have hbind : ∀ (r : Except ParseError Level) (f : Level → Machine),
      (r.bind fun level => stepOperand (f level) (.operator op)) ≠ .ok m' := by
    intro r f heq
    cases r with
    | error err => cases heq
    | ok level => exact absurd ((hrefused _).symm.trans heq) (by simp)
  cases h with
  | operand _ _ => exact absurd ((hrefused _).symm.trans hstep) (by simp)
  | arrayStart _ _ => exact absurd ((hrefused _).symm.trans hstep) (by simp)
  | callStart _ _ => exact absurd ((hrefused _).symm.trans hstep) (by simp)
  | operator _ hlevel he => exact ⟨_, _, _, _, _, _, hlevel, he, behind_operator _ _⟩
  | afterOperator _ _ _ _ _ => exact absurd hstep (hbind _ _)
  | afterSign _ _ _ _ => exact absurd hstep (hbind _ _)
  | afterDotSign hdot => exact absurd hstep (hdot.step_ne_ok _)
  | afterSemicolon _ _ _ => exact absurd hstep (hbind _ _)
  | @afterName n _ _ _ _ _ _ hlevel =>
    exact ⟨_, _, _, _, _, _, hlevel, .name n, behind_afterName n _ _⟩
  | @afterCall n _ _ _ _ _ items _ hlevel hitems =>
    cases hcall : ctx.called n (items.map Prod.snd) with
    | error err =>
      change (finishCall ctx _ n (items.map Prod.snd)).bind _ = _ at hstep
      rw [finishCall, hcall] at hstep
      cases hstep
    | ok e => exact ⟨_, _, _, _, _, _, hlevel, .call hitems hcall, behind_afterCall hcall _ _⟩

/-- Behind the tokens, `^` and a number can stand: they end with an operand whose dots can be
joined. -/
def TakesPower (ctx : Context) (ts : List Token) : Prop :=
  ∃ m, start.run ctx (ts ++ [.operator .power, .number .zero]) = .ok m

/-- Behind an operand, a dot, a prefix operator and any token come to stacks that do not fit, if the
dots before can be joined. -/
theorem Behind.run_dot_sign {m : Machine} {p : Nat} {level : Level} {us vs : List Token} {e : Expr}
    {outer : List (Opening × Level)} (h : m.Behind ctx (level.pushValue e) outer)
    (hlevel : level.Waits ctx p us) (he : Derives ctx 9 vs e) (op : UnaryOp) (t : Token) :
    m.run ctx [.operator .dot, op.sign, t] =
      ((level.pushValue e).reduceAbove ctx 7).bind
        fun _ => .error (.internal (.notApplicable .dot)) := by
  -- nothing binds tighter than a dot, so the dot is put on the level as it is
  have hself : (level.pushValue e).reduceAbove ctx 8 = .ok (level.pushValue e) :=
    Level.reduceAbove_eq_self ctx fun op _ => Level.precedence_le op
  have hbalanced : ((level.pushValue e).withOperator .dot).Balanced :=
    hlevel.balanced.push (by simp [Operator.isUnary]) fun op _ => Level.precedence_le op
  obtain ⟨m₁, hdot, hawaits⟩ := h.step_operator (t := .operator .dot) (p := 8) (by simp [joining])
    (.sign (by decide)) hself hbalanced
  have hsign : m₁.step ctx op.sign = .ok ⟨.afterOperator op.operator,
      ((level.pushValue e).withOperator .dot).pushOperand .marker, outer⟩ := by
    cases op <;> exact hawaits _ (by simp [UnaryOp.sign]) (by simp [UnaryOp.sign])
  have hmarker := hlevel.reduceAbove_dot_marker he
  have hstep : step ctx ⟨.afterOperator op.operator,
      ((level.pushValue e).withOperator .dot).pushOperand .marker, outer⟩ t =
      ((level.pushValue e).reduceAbove ctx 7).bind
        fun _ => .error (.internal (.notApplicable .dot)) := by
    simp only [step, Level.pushOperator, Level.precedence_operator, hmarker]
    cases (level.pushValue e).reduceAbove ctx 7 <;> rfl
  rw [run_cons hdot, run_cons hsign]
  change (step ctx _ t).bind (fun m => .ok m) = _
  rw [hstep]
  cases (level.pushValue e).reduceAbove ctx 7 <;> rfl

/-- Tokens of which the first is refused are refused for it. -/
theorem run_cons_error {m : Machine} {t : Token} {ts : List Token} {err : ParseError}
    (h : m.step ctx t = .error err) : m.run ctx (t :: ts) = .error err := by
  change (m.step ctx t).bind _ = _
  rw [h]
  rfl

/-- Tokens that are taken up to one at which the stacks do not fit end with a dot and a prefix
operator. -/
theorem HasRead.exists_dotSigned {m : Machine} {ts us : List Token} {fault : StackFault}
    (h : HasRead ctx m ts) (hus : .operator .negate ∉ us)
    (hrun : m.run ctx us = .error (.internal fault)) :
    ∃ (vs ws : List Token) (t : Token) (m' : Machine), us = vs ++ t :: ws ∧
      m.run ctx vs = .ok m' ∧ DotSigned ctx m' (ts ++ vs) ∧
      m'.step ctx t = .error (.internal fault) := by
  induction us generalizing m ts with
  | nil => cases hrun
  | cons t us ih =>
    simp only [List.mem_cons, not_or] at hus
    -- a step is refused for its stacks only behind a dot and a prefix operator
    rcases h.step (Ne.symm hus.1) with hyields | hdot
    · cases hstep : m.step ctx t with
      | error err =>
        rw [run_cons_error hstep] at hrun
        rw [hstep] at hyields
        cases hrun
        exact absurd hyields id
      | ok m₁ =>
        rw [hstep] at hyields
        rw [run_cons hstep] at hrun
        obtain ⟨vs, ws, t', m', rfl, hvs, hdot, hfault⟩ := ih hyields hus.2 hrun
        refine ⟨t :: vs, ws, t', m', rfl, ?_, by simpa using hdot, hfault⟩
        rw [run_cons hstep, hvs]
    · refine ⟨[], us, t, m, rfl, rfl, by simpa using hdot, ?_⟩
      cases hstep : m.step ctx t with
      | error err =>
        rw [run_cons_error hstep] at hrun
        cases hrun
        rfl
      | ok m₁ => exact absurd hstep (hdot.step_ne_ok t)

/-- The last two tokens of a machine behind a prefix operator that stands directly behind a dot. -/
theorem DotSigned.exists_eq {m : Machine} {ts : List Token} (h : DotSigned ctx m ts) :
    ∃ (before : List Token) (op : UnaryOp), ts = before ++ [.operator .dot, op.sign] := by
  obtain @⟨_, _, ts, us, op, _, hlevel⟩ := h
  -- a level that waits for a primary waits for it behind a dot
  obtain @⟨⟩ | @⟨_, _, _, us, vs, t, _, _, o, _, _, _, hop, hreads, _⟩ | @⟨⟩ := hlevel
  obtain rfl : o = .dot := by simpa [joining] using hop
  cases hreads
  exact ⟨ts ++ us ++ vs, op, by simp⟩

/-- Behind an operand `^` and a number can stand if the operator can be put on its stack. -/
theorem Behind.takesPower_iff {m : Machine} {ts : List Token} {level : Level}
    {outer : List (Opening × Level)} (h : m.Behind ctx level outer)
    (hrun : start.run ctx ts = .ok m) :
    TakesPower ctx ts ↔ ∃ level', level.pushOperator ctx .power = .ok level' := by
  have hstep : m.step ctx (.operator .power) = .ok ⟨.afterOperator .power, level, outer⟩ :=
    h.step_eq _ (by simp)
  have htwo : start.run ctx (ts ++ [.operator .power, .number .zero]) =
      (level.pushOperator ctx .power).map
        fun level' => ⟨.operator, level'.pushValue (.number .zero), outer⟩ := by
    rw [run_append, hrun]
    change m.run ctx _ = _
    rw [run_cons hstep]
    change Except.bind (Except.bind (level.pushOperator ctx .power) _) _ = _
    cases level.pushOperator ctx .power <;> rfl
  rw [TakesPower, htwo]
  cases level.pushOperator ctx .power <;> simp [Except.map]

/-- The parts of a list of tokens that is run through. -/
theorem run_append_eq_ok {m m' : Machine} {ts us : List Token}
    (h : m.run ctx (ts ++ us) = .ok m') : ∃ m₁, m.run ctx ts = .ok m₁ ∧ m₁.run ctx us = .ok m' := by
  rw [run_append] at h
  cases hrun : m.run ctx ts with
  | error err =>
    rw [hrun] at h
    cases h
  | ok m₁ =>
    rw [hrun] at h
    exact ⟨m₁, rfl, h⟩

/-- Tokens behind which an operator between two operands is taken end with an operand. -/
theorem exists_behind_of_run {before after : List Token} (hbefore : .operator .negate ∉ before)
    {op : Operator} (hminus : op ≠ .minus) (hnot : op ≠ .not) {m' : Machine}
    (h : start.run ctx (before ++ .operator op :: after) = .ok m') :
    ∃ (m : Machine) (p : Nat) (level : Level) (us vs : List Token) (e : Expr)
      (outer : List (Opening × Level)), start.run ctx before = .ok m ∧
        m.run ctx (.operator op :: after) = .ok m' ∧ level.Waits ctx p us ∧ Derives ctx 9 vs e ∧
        m.Behind ctx (level.pushValue e) outer := by
  obtain ⟨m, hrun, hrest⟩ := run_append_eq_ok h
  obtain ⟨_, hstep, -⟩ := run_cons_eq_ok hrest
  obtain ⟨p, level, us, vs, e, outer, hlevel, he, hbehind⟩ :=
    (hasRead_start.run hbefore hrun).exists_behind hminus hnot hstep
  exact ⟨m, p, level, us, vs, e, outer, hrun, hrest, hlevel, he, hbehind⟩

/-- Joining the dots of a level never finds stacks that do not fit. -/
theorem joins_of_bind_eq_internal {p : Nat} {level : Level} {us vs : List Token} {e : Expr}
    (hlevel : level.Waits ctx p us) (he : Derives ctx 9 vs e) {fault fault' : StackFault}
    (h : .error (.internal fault) = ((level.pushValue e).reduceAbove ctx 7).bind
      fun _ => (.error (.internal fault') : Except ParseError Machine)) :
    fault = fault' ∧ ∃ level', (level.pushValue e).reduceAbove ctx 7 = .ok level' := by
  have hyields := hlevel.reduceAbove he hlevel.le_primary (by decide : 7 < 9)
  cases hreduce : (level.pushValue e).reduceAbove ctx 7 with
  | error err =>
    rw [hreduce] at h hyields
    cases h
    exact absurd hyields id
  | ok level' =>
    rw [hreduce] at h
    cases h
    exact ⟨rfl, level', rfl⟩

/-- The tokens that come to stacks that do not fit. -/
theorem run_eq_internal_iff {tokens : List Token} (htokens : .operator .negate ∉ tokens)
    (fault : StackFault) :
    start.run ctx tokens = .error (.internal fault) ↔
      fault = .notApplicable .dot ∧
        ∃ (before after : List Token) (op : UnaryOp) (next : Token),
          tokens = before ++ .operator .dot :: op.sign :: next :: after ∧
            TakesPower ctx before := by
  constructor
  · intro h
    obtain ⟨vs, ws, t, m', rfl, hvs, hdot, hfault⟩ := hasRead_start.exists_dotSigned htokens h
    obtain ⟨before, op, hbefore⟩ := hdot.exists_eq
    rw [List.nil_append] at hbefore
    subst hbefore
    have hnone : Token.operator .negate ∉ before := fun hmem => htokens (by simp [hmem])
    obtain ⟨m, _, _, _, _, _, _, hrun, hrest, hlevel, he, hbehind⟩ :=
      exists_behind_of_run hnone (by decide) (by decide) hvs
    -- the same three tokens, run behind the operand before them
    have hthree := hbehind.run_dot_sign hlevel he op t
    rw [show [Token.operator .dot, op.sign, t] = [.operator .dot, op.sign] ++ [t] from rfl,
      run_append, hrest] at hthree
    change (m'.step ctx t).bind _ = _ at hthree
    rw [hfault] at hthree
    obtain ⟨rfl, hjoins⟩ := joins_of_bind_eq_internal hlevel he hthree
    refine ⟨rfl, before, ws, op, t, by simp, ?_⟩
    rwa [hbehind.takesPower_iff hrun, hlevel.exists_pushOperator_power_iff he]
  · rintro ⟨rfl, before, after, op, next, rfl, hpower⟩
    have hnone : Token.operator .negate ∉ before := fun hmem => htokens (by simp [hmem])
    -- `^` is taken behind `before`, so an operand ends there
    obtain ⟨_, htwo⟩ := id hpower
    obtain ⟨m, _, _, _, _, _, _, hrun, -, hlevel, he, hbehind⟩ :=
      exists_behind_of_run hnone (by decide) (by decide) htwo
    rw [hbehind.takesPower_iff hrun, hlevel.exists_pushOperator_power_iff he] at hpower
    obtain ⟨level', hreduce⟩ := hpower
    have hthree := hbehind.run_dot_sign hlevel he op next
    rw [hreduce] at hthree
    rw [show before ++ .operator .dot :: op.sign :: next :: after =
        before ++ ([.operator .dot, op.sign, next] ++ after) by simp, run_append, hrun]
    change m.run ctx _ = _
    rw [run_append, hthree]
    rfl

end Machine

/-- The only stacks that do not fit are those behind a prefix operator that stands directly behind
a dot, with a further token behind it and an operand before the dot whose own dots can be joined. -/
theorem Expr.parse_eq_internal_iff (environment : Environment) (text : String)
    (fault : StackFault) :
    Expr.parse (.standard environment) text = .error (.internal fault) ↔
      fault = .notApplicable .dot ∧
        ∃ (before after : List Token) (op : UnaryOp) (next : Token),
          (Scan.ofText text).tokens = before ++ .operator .dot :: op.sign :: next :: after ∧
            Machine.TakesPower (.standard environment) before := by
  rw [← Machine.run_eq_internal_iff (negate_notMem_tokens text)]
  by_cases hne : (Scan.ofText text).tokens = []
  · rw [Expr.parse_of_tokens_eq_nil _ hne, hne]
    cases (Scan.ofText text).fault <;> simp [Machine.run, pure, Except.pure]
  · rw [Expr.parse_of_tokens_ne_nil _ hne]
    cases hrun : Machine.start.run (.standard environment) (Scan.ofText text).tokens with
    | error err => simp [Except.bind]
    | ok m =>
      -- the end of the tokens never finds stacks that do not fit
      have hfinish := (Machine.hasRead_start.run (negate_notMem_tokens text) hrun).finish
      cases hfault : (Scan.ofText text).fault with
      | some err => simp [Except.bind, Parser.outcome]
      | none => simp [Except.bind, Parser.outcome, hfinish.ne_internal fault]

/-- The stacks do not fit behind the sign in `a.-b`. -/
theorem Expr.parse_dot_sign :
    Expr.parse (.standard .empty) "a.-b" = .error (.internal (.notApplicable .dot)) := by
  have hscan : Scan.ofText "a.-b" =
      ⟨[.identifier "a", .operator .dot, .operator .minus, .identifier "b"], none⟩ := by
    decide +kernel
  have hpower : Machine.TakesPower (.standard .empty) [.identifier "a"] := by
    have hok : (Machine.start.run (.standard .empty)
        ([.identifier "a"] ++ [.operator .power, .number .zero])).toBool = true := by
      decide +kernel
    cases hrun : Machine.start.run (.standard .empty)
        ([.identifier "a"] ++ [.operator .power, .number .zero]) with
    | error err =>
      rw [hrun] at hok
      cases hok
    | ok m => exact ⟨m, hrun⟩
  have hrun := (Machine.run_eq_internal_iff (by decide) _).2
    ⟨rfl, [.identifier "a"], [], .negate, .identifier "b", rfl, hpower⟩
  rw [Expr.parse_of_tokens_ne_nil _ (by simp [hscan]), hscan]
  exact congrArg (Except.bind · _) hrun

end Formulas
