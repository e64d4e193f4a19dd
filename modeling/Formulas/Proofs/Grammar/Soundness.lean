import Formulas.Proofs.Grammar.Completeness

/-!
# What the machine reads is derived by the grammar

The invariant of the machine is what it has read so far, in pieces that the grammar derives.
`Level.Waits` is the invariant of the two stacks of a level, `Machine.HasRead` adds the open
brackets and the phase. A step keeps the invariant or refuses the token for its grammar; the only
step that does neither is the one behind a prefix operator that stands directly behind a dot.

## Main definitions

* `Yields`: an outcome is a value with a property, or a refusal that is not internal;
* `Level.Waits`: what a level has read when it waits for an operand of a stratum;
* `Machine.HasRead`: what the machine has read.

## Main results

* `Level.Waits.balanced`: a level that waits for an operand is balanced;
* `Level.Waits.pushOperator` and `Level.Waits.close`: an operator and the end of a level;
* `Machine.HasRead.step`: a token.
-/

namespace Formulas

open Grammar

/-- The outcome is a value with the property, or an error that is not internal. -/
def Yields {α : Type} (P : α → Prop) : Except ParseError α → Prop
  | .ok a => P a
  | .error (.internal _) => False
  | .error _ => True

namespace Yields

variable {α β : Type} {P : α → Prop} {Q : β → Prop}

@[simp]
theorem pure_iff {a : α} : Yields P (pure a) ↔ P a := Iff.rfl

theorem bind {r : Except ParseError α} {f : α → Except ParseError β} (h : Yields P r)
    (hf : ∀ a, r = .ok a → P a → Yields Q (f a)) : Yields Q (r.bind f) := by
  rcases r with (e | e | e) | a
  · trivial
  · trivial
  · exact h
  · exact hf a rfl h

theorem mono {P' : α → Prop} {r : Except ParseError α} (h : Yields P r) (himp : ∀ a, P a → P' a) :
    Yields P' r := by
  rcases r with (e | e | e) | a
  · trivial
  · trivial
  · exact h
  · exact himp a h

/-- An outcome that yields is no internal error. -/
theorem ne_internal {r : Except ParseError α} (h : Yields P r) (fault : StackFault) :
    r ≠ .error (.internal fault) := by
  rintro rfl
  exact h

end Yields

namespace Level

variable {ctx : Context}

/-- `Waits ctx p level ts`: the level has read `ts` and waits for an operand of stratum `p`. -/
inductive Waits (ctx : Context) : Nat → Level → List Token → Prop
  /-- At the start the level waits for any operand. -/
  | start : Waits ctx 1 .empty []
  /-- Behind an operator of a stratum, and the pile of operators of that stratum before it. -/
  | joined {p q : Nat} {level : Level} {ts us : List Token} {t : Token} {first : Expr}
      {others : List (Operator × Expr)} {op : Operator} (h : Waits ctx p level ts) (hle : p ≤ q)
      (hothers : ∀ o ∈ others, o.1 ∈ joining q) (hop : op ∈ joining q) (hreads : Reads t op)
      (hderives : ∀ e, joinAll ctx first others = .ok e → Derives ctx q us e) :
      Waits ctx (q + 1) ((level.joined first others).withOperator op) (ts ++ us ++ [t])
  /-- Behind a prefix operator. -/
  | signed {p : Nat} {level : Level} {ts : List Token} (op : UnaryOp) (h : Waits ctx p level ts)
      (hle : p ≤ 7) : Waits ctx 7 (level.signed op) (ts ++ [op.sign])

/-- A level admits every stratum that is as tight as the one it waits for. -/
theorem Waits.admits {p q : Nat} {level : Level} {ts : List Token} (h : Waits ctx p level ts)
    (hle : p ≤ q) : level.Admits q := by
  intro o ho
  cases h with
  | start => simp [empty] at ho
  | joined _ _ _ hop _ _ =>
    obtain rfl : _ = o := by simpa using ho
    have := precedence_of_mem_joining hop
    exact ⟨by omega, fun heq => by omega⟩
  | signed op _ _ =>
    obtain rfl : op.operator = o := by simpa [Level.signed] using ho
    simpa using hle

/-- A level that waits for an operand is balanced. -/
theorem Waits.balanced {p : Nat} {level : Level} {ts : List Token} (h : Waits ctx p level ts) :
    level.Balanced := by
  induction h with
  | start => exact balanced_empty
  | joined hwaits hle hothers hop _ _ ih =>
    exact ih.joined (hwaits.admits hle) _ hothers hop
  | signed op hwaits hle ih => exact ih.signed (hwaits.admits hle) op

/-- No level waits for anything tighter than a primary. -/
theorem Waits.le_primary {p : Nat} {level : Level} {ts : List Token} (h : Waits ctx p level ts) :
    p ≤ 9 := by
  cases h with
  | start => decide
  | @joined _ q _ _ _ _ _ _ op _ _ _ hop _ _ =>
    have := precedence_le op
    rw [precedence_of_mem_joining hop] at this
    omega
  | signed => decide

/-- A level waits for a primary, or for something that may have a prefix operator. -/
theorem Waits.le_signed_or_eq {p : Nat} {level : Level} {ts : List Token}
    (h : Waits ctx p level ts) : p ≤ 7 ∨ p = 9 := by
  have hle := h.le_primary
  by_cases heq : p = 8
  · subst heq
    cases h with
    | joined _ _ _ hop _ _ => simp [joining] at hop
  · omega

/-- A dot joins its operands or is refused for its grammar. -/
theorem yields_dot (left right : Expr) : Yields (fun _ => True) (ctx.dot left right) := by
  unfold Context.dot Context.joined
  split
  · trivial
  · trivial
  · simp only
    split <;> trivial
  · trivial

/-- Two operands are combined, or their dot is refused. -/
theorem yields_combine {op : Operator} (hunary : op.isUnary = false) (left right : Expr) :
    Yields (fun _ => True) (combine ctx (.value left) op (.value right)) := by
  rcases binary?_of_isUnary_eq_false hunary with rfl | rfl | ⟨node, hnode⟩
  · exact yields_dot left right
  · trivial
  · rw [combine_of_binary? ctx hnode]
    trivial

/-- A pile comes to an operand, or one of its dots is refused. -/
theorem yields_joinAll {p : Nat} (first : Expr) {others : List (Operator × Expr)}
    (hothers : ∀ o ∈ others, o.1 ∈ joining p) :
    Yields (fun _ => True) (joinAll ctx first others) := by
  induction others using List.reverseRecOn with
  | nil => trivial
  | append_singleton others o ih =>
    rw [joinAll_concat]
    refine (ih fun o ho => hothers o (by simp [ho])).bind fun left _ _ => ?_
    exact yields_combine (isUnary_of_mem_joining (hothers o (by simp))) left o.2

/-- A pile with one more operator and operand derives what it comes to. -/
theorem derives_joinAll_concat {p : Nat} {first : Expr} {others : List (Operator × Expr)}
    {op : Operator} {t : Token} {ts us : List Token} {right : Expr} (hop : op ∈ joining p)
    (hreads : Reads t op)
    (hderives : ∀ e, joinAll ctx first others = .ok e → Derives ctx p ts e)
    (hright : Derives ctx (p + 1) us right) (e : Expr)
    (h : joinAll ctx first (others ++ [(op, right)]) = .ok e) :
    Derives ctx p (ts ++ t :: us) e := by
  rw [joinAll_concat] at h
  cases hjoin : joinAll ctx first others with
  | error err => simp [hjoin, Except.bind] at h
  | ok left =>
    rw [hjoin] at h
    exact .join hop hreads (hderives left hjoin) hright h

/-- What is left of a level that has read `read` when all that binds tighter than `q` is combined:
an operand that is tighter than `q`, on a level with no such operator on top. -/
def Settled (ctx : Context) (q : Nat) (read : List Token) (level : Level) : Prop :=
  ∃ p s base ts us e, level = pushValue base e ∧ Waits ctx p base ts ∧ Derives ctx s us e ∧
    p ≤ s ∧ q < s ∧ (∀ op ∈ base.operators.head?, op.precedence ≤ q) ∧ ts ++ us = read

/-- A level with no operator on top that binds tighter than `q` is left as it is. -/
theorem Waits.reduceAbove_self {p q s : Nat} {level : Level} {ts us : List Token} {e : Expr}
    (h : Waits ctx p level ts) (he : Derives ctx s us e) (hps : p ≤ s) (hqs : q < s)
    (htop : ∀ op ∈ level.operators.head?, op.precedence ≤ q) :
    Yields (Settled ctx q (ts ++ us)) ((level.pushValue e).reduceAbove ctx q) := by
  have hself : (level.pushValue e).reduceAbove ctx q = .ok (level.pushValue e) :=
    reduceAbove_eq_self ctx htop
  rw [hself]
  exact ⟨_, _, _, _, _, _, rfl, h, he, hps, hqs, htop, rfl⟩

/-- Combining keeps what a level has read. -/
theorem Waits.reduceAbove {p : Nat} {level : Level} {ts : List Token} (h : Waits ctx p level ts)
    {q s : Nat} {us : List Token} {e : Expr} (he : Derives ctx s us e) (hps : p ≤ s)
    (hqs : q < s) :
    Yields (Settled ctx q (ts ++ us)) ((level.pushValue e).reduceAbove ctx q) := by
  -- what a level has read is its stacks from the top, so this is the recursion of `reduceAbove`
  induction h generalizing s us e with
  | start => exact Waits.start.reduceAbove_self he hps hqs (by simp [empty])
  | @joined p₀ q₀ level ts us₀ t first others op h hle hothers hop hreads hderives ih =>
    have hprec := precedence_of_mem_joining hop
    by_cases hq : q₀ ≤ q
    · refine (Waits.joined h hle hothers hop hreads hderives).reduceAbove_self he hps hqs ?_
      intro o ho
      obtain rfl : op = o := by simpa using ho
      omega
    · -- the pile comes to an operand of its stratum, on the level below
      have hpile := mem_joining_concat hothers hop e
      rw [show ((level.joined first others).withOperator op).pushValue e =
          level.joined first (others ++ [(op, e)]) by simp,
        reduceAbove_joined ctx (h.admits hle) first hpile (by omega)]
      refine (yields_joinAll first hpile).bind fun e' hjoin _ => ?_
      have he' := derives_joinAll_concat hop hreads hderives (he.loosen hps) e' hjoin
      simpa using ih he' hle (by omega)
  | @signed p₀ level ts op h hle ih =>
    by_cases hq : 7 ≤ q
    · refine (Waits.signed op h hle).reduceAbove_self he hps hqs ?_
      intro o ho
      obtain rfl : op.operator = o := by simpa [Level.signed] using ho
      simpa using hq
    · -- the marker and the operand come to an operand of stratum `7`, on the level below
      rw [reduceAbove_signed ctx level op e (by omega)]
      have he' : Derives ctx 7 (op.sign :: us) (Kind.unary op e).bare :=
        .signed (he.loosen hps)
      simpa using ih he' hle (by omega)

/-- An operand on top of a level, with no operator that binds tighter than `q` below it, continues
a pile of the stratum `q` or starts one. -/
theorem Settled.exists_pile {q : Nat} {read : List Token} {level : Level}
    (h : Settled ctx q read level) (hq : 0 < q) :
    ∃ p base ts us first others, level = joined base first others ∧ Waits ctx p base ts ∧ p ≤ q ∧
      (∀ o ∈ others, o.1 ∈ joining q) ∧
      (∀ e, joinAll ctx first others = .ok e → Derives ctx q us e) ∧ ts ++ us = read := by
  obtain ⟨p, s, base, ts, us, e, rfl, hwaits, he, hps, hqs, htop, rfl⟩ := h
  by_cases hpq : p ≤ q
  · -- all that is below is looser: the operand is the first of its pile
    refine ⟨p, base, ts, us, e, [], rfl, hwaits, hpq, by simp, fun e' he' => ?_, rfl⟩
    cases he'
    exact he.loosen (Nat.le_of_lt hqs)
  · cases hwaits with
    | start => omega
    | @joined p₀ q₀ base ts us₀ t first others op hwaits hle hothers hop hreads hderives =>
      have hprec := precedence_of_mem_joining hop
      have hle' := htop op (by simp)
      -- the level waits for something tighter than `q`, and its top operator is not: it is of `q`
      obtain rfl : q = q₀ := by omega
      refine ⟨p₀, base, ts, us₀ ++ t :: us, first, others ++ [(op, e)], by simp, hwaits, hle,
        mem_joining_concat hothers hop e, ?_, by simp⟩
      exact derives_joinAll_concat hop hreads hderives (he.loosen hps)
    | signed op hwaits hle =>
      have := htop op.operator (by simp [Level.signed])
      simp only [precedence_operator] at this
      omega

/-- On a level that has read an operand, an operator finds as many operands as there are operators
when it is put on its stack. -/
theorem Waits.pushOperator_eq_bind {p q : Nat} {level : Level} {ts us : List Token} {e : Expr}
    {op : Operator} (h : Waits ctx p level ts) (he : Derives ctx 9 us e) (hop : op ∈ joining q) :
    (level.pushValue e).pushOperator ctx op =
      ((level.pushValue e).reduceAbove ctx q).bind fun level' => .ok (level'.withOperator op) := by
  have hprec := precedence_of_mem_joining hop
  have hle := precedence_le op
  have hpos := op.precedence_pos
  have hsettled := h.reduceAbove (q := q) he h.le_primary (by omega)
  cases hreduce : (level.pushValue e).reduceAbove ctx q with
  | error err =>
    rw [Level.pushOperator, hprec, hreduce]
    rfl
  | ok level' =>
    rw [hreduce] at hsettled
    obtain ⟨_, _, _, _, first, others, rfl, hwaits, hpq, hothers, _, _⟩ :=
      Settled.exists_pile hsettled (by omega)
    have hbalanced := hwaits.balanced.joined (hwaits.admits hpq) first hothers hop
    exact hbalanced.pushOperator_eq (by rw [hprec, hreduce])

/-- A level that has read an operand takes an operator and waits for its right operand. -/
theorem Waits.pushOperator {p q : Nat} {level : Level} {ts us : List Token} {e : Expr}
    {op : Operator} {t : Token} (h : Waits ctx p level ts) (he : Derives ctx 9 us e)
    (hop : op ∈ joining q) (hreads : Reads t op) :
    Yields (fun level' => Waits ctx (q + 1) level' (ts ++ us ++ [t]))
      ((level.pushValue e).pushOperator ctx op) := by
  have hprec := precedence_of_mem_joining hop
  have hle := precedence_le op
  have hpos := op.precedence_pos
  rw [h.pushOperator_eq_bind he hop]
  refine (h.reduceAbove he h.le_primary (by omega)).bind fun level' _ hsettled => ?_
  -- the operator goes on the pile of its own stratum
  obtain ⟨p', base, ts', us', first, others, rfl, hwaits, hpq, hothers, hderives, hread⟩ :=
    hsettled.exists_pile (by omega)
  rw [← hread]
  exact .joined hwaits hpq hothers hop hreads hderives

/-- A level that has read an operand means what the grammar derives. -/
theorem Waits.close {p : Nat} {level : Level} {ts us : List Token} {e : Expr}
    (h : Waits ctx p level ts) (he : Derives ctx 9 us e) :
    Yields (Derives ctx 1 (ts ++ us)) ((level.pushValue e).close ctx) := by
  refine (h.reduceAbove he h.le_primary (by decide)).bind fun level' _ hsettled => ?_
  obtain ⟨p', s, base, ts', us', e', rfl, hwaits, he', hps, hqs, htop, hread⟩ := hsettled
  -- no operator is left, so the level below is the one before the first operand
  cases hwaits with
  | start =>
    rw [← hread]
    exact he'.loosen hps
  | @joined _ _ _ _ _ _ _ _ op _ _ _ _ _ _ =>
    have := htop op (by simp)
    have := op.precedence_pos
    omega
  | signed op _ _ =>
    have := htop op.operator (by simp [Level.signed])
    simp only [precedence_operator] at this
    omega

/-- A prefix operator directly behind a dot: the dots before it are joined, and then the last dot
finds the marker of the prefix operator. -/
theorem Waits.reduceAbove_joined_marker {p : Nat} {base : Level} {ts : List Token}
    (h : Waits ctx p base ts) (hle : p ≤ 8) (first : Expr) {others : List (Operator × Expr)}
    (hothers : ∀ o ∈ others, o.1 ∈ joining 8) :
    (((base.joined first others).withOperator .dot).pushOperand .marker).reduceAbove ctx 7 =
      ((base.joined first others).reduceAbove ctx 7).bind
        fun _ => .error (.internal (.notApplicable .dot)) := by
  have hadmits := h.admits hle
  have hp : p ≤ 7 := by
    have := h.le_signed_or_eq
    omega
  have htop : Operator.dot ∈
      (((base.joined first others).withOperator .dot).pushOperand .marker).operators.head? := by
    simp
  -- what is below the dots is looser, so combining stops when they are joined
  have hbase : ∀ e, (base.pushValue e).reduceAbove ctx 7 = .ok (base.pushValue e) :=
    fun e => reduceAbove_of_admits ctx (h.admits hp) _
  rw [reduceAbove_of_lt ctx htop (by decide), reduce_joined_marker ctx hadmits first hothers,
    reduceAbove_joined ctx hadmits first hothers (by decide)]
  cases joinAll ctx first others with
  | error err => rfl
  | ok e =>
    change _ = ((base.pushValue e).reduceAbove ctx 7).bind _
    rw [hbase]
    rfl

end Level

namespace Machine

variable {ctx : Context}

/-- What an open bracket and the finished parts of its list have read. -/
inductive OpenedBy (ctx : Context) : Opening → List Token → Prop
  | group : OpenedBy ctx .group [.leftParen]
  | array {items : List (List Token × Expr)} (hitems : ∀ i ∈ items, Derives ctx 1 i.1 i.2) :
      OpenedBy ctx (.array (items.map Prod.snd).reverse)
        (.leftBrace :: items.flatMap fun i => i.1 ++ [.comma])
  | call {n : String} {items : List (List Token × Expr)}
      (hitems : ∀ i ∈ items, Derives ctx 1 i.1 i.2) :
      OpenedBy ctx (.call n (items.map Prod.snd).reverse)
        (.identifier n :: .leftParen :: items.flatMap fun i => i.1 ++ [.comma])

/-- What the open brackets and the levels in which they stand have read. -/
inductive OuterRead (ctx : Context) : List (Opening × Level) → List Token → Prop
  | nil : OuterRead ctx [] []
  | cons {opening : Opening} {level : Level} {outer : List (Opening × Level)} {p : Nat}
      {ts us vs : List Token} (houter : OuterRead ctx outer ts) (hlevel : level.Waits ctx p us)
      (hopening : OpenedBy ctx opening vs) :
      OuterRead ctx ((opening, level) :: outer) (ts ++ us ++ vs)

/-- The machine is behind a prefix operator that stands directly behind a dot. -/
inductive DotSigned (ctx : Context) : Machine → List Token → Prop
  | intro {level : Level} {outer : List (Opening × Level)} {ts us : List Token} (op : UnaryOp)
      (houter : OuterRead ctx outer ts) (hlevel : level.Waits ctx 9 us) :
      DotSigned ctx ⟨.afterOperator op.operator, level.pushOperand .marker, outer⟩
        (ts ++ us ++ [op.sign])

/-- What the machine has read, in every phase. The phase behind a prefix operator is told apart by
whether the operator stands directly behind a dot. -/
inductive HasRead (ctx : Context) : Machine → List Token → Prop
  | operand {level : Level} {outer : List (Opening × Level)} {p : Nat} {ts us : List Token}
      (houter : OuterRead ctx outer ts) (hlevel : level.Waits ctx p us) :
      HasRead ctx ⟨.operand, level, outer⟩ (ts ++ us)
  | arrayStart {level : Level} {outer : List (Opening × Level)} {p : Nat} {ts us : List Token}
      (houter : OuterRead ctx outer ts) (hlevel : level.Waits ctx p us) :
      HasRead ctx ⟨.listStart, .empty, (.array [], level) :: outer⟩ (ts ++ us ++ [.leftBrace])
  | callStart {n : String} {level : Level} {outer : List (Opening × Level)} {p : Nat}
      {ts us : List Token} (houter : OuterRead ctx outer ts) (hlevel : level.Waits ctx p us) :
      HasRead ctx ⟨.listStart, .empty, (.call n [], level) :: outer⟩
        (ts ++ us ++ [.identifier n, .leftParen])
  | operator {level : Level} {outer : List (Opening × Level)} {p : Nat} {ts us vs : List Token}
      {e : Expr} (houter : OuterRead ctx outer ts) (hlevel : level.Waits ctx p us)
      (he : Derives ctx 9 vs e) :
      HasRead ctx ⟨.operator, level.pushValue e, outer⟩ (ts ++ us ++ vs)
  | afterOperator {level : Level} {outer : List (Opening × Level)} {p q : Nat}
      {ts us vs : List Token} {e : Expr} {op : Operator} {t : Token}
      (houter : OuterRead ctx outer ts) (hlevel : level.Waits ctx p us) (he : Derives ctx 9 vs e)
      (hop : op ∈ joining q) (hreads : Reads t op) :
      HasRead ctx ⟨.afterOperator op, level.pushValue e, outer⟩ (ts ++ us ++ vs ++ [t])
  | afterSign {level : Level} {outer : List (Opening × Level)} {p : Nat} {ts us : List Token}
      (op : UnaryOp) (houter : OuterRead ctx outer ts) (hlevel : level.Waits ctx p us)
      (hle : p ≤ 7) :
      HasRead ctx ⟨.afterOperator op.operator, level.pushOperand .marker, outer⟩
        (ts ++ us ++ [op.sign])
  | afterDotSign {m : Machine} {ts : List Token} (h : DotSigned ctx m ts) : HasRead ctx m ts
  | afterSemicolon {level : Level} {outer : List (Opening × Level)} {p : Nat}
      {ts us vs : List Token} {e : Expr} (houter : OuterRead ctx outer ts)
      (hlevel : level.Waits ctx p us) (he : Derives ctx 9 vs e) :
      HasRead ctx ⟨.afterSemicolon, level.pushValue e, outer⟩
        (ts ++ us ++ vs ++ [.operator .semicolon])
  | afterName {n : String} {level : Level} {outer : List (Opening × Level)} {p : Nat}
      {ts us : List Token} (houter : OuterRead ctx outer ts) (hlevel : level.Waits ctx p us) :
      HasRead ctx ⟨.afterName n, level, outer⟩ (ts ++ us ++ [.identifier n])
  | afterCall {n : String} {level : Level} {outer : List (Opening × Level)} {p : Nat}
      {ts us : List Token} {items : List (List Token × Expr)} (houter : OuterRead ctx outer ts)
      (hlevel : level.Waits ctx p us) (hitems : ∀ i ∈ items, Derives ctx 1 i.1 i.2) :
      HasRead ctx ⟨.afterCall n (items.map Prod.snd), level, outer⟩
        (ts ++ us ++ .identifier n :: .leftParen ::
          (Token.separated (items.map Prod.fst) ++ [.rightParen]))

/-- What is read is read in whatever way its tokens are grouped. -/
theorem HasRead.of_eq {m : Machine} {ts us : List Token} (h : HasRead ctx m ts) (heq : ts = us) :
    HasRead ctx m us :=
  heq ▸ h

/-- Items with a comma behind each, and one more item, are a list with commas between the items. -/
theorem flatMap_comma_append (items : List (List Token × Expr)) (i : List Token × Expr) :
    (items.flatMap fun i => i.1 ++ [.comma]) ++ i.1 =
      Token.separated ((items ++ [i]).map Prod.fst) := by
  induction items with
  | nil => rfl
  | cons j items ih =>
    rw [List.flatMap_cons, List.append_assoc, ih]
    cases items <;> simp [Token.separated]

/-- A prefix operator leaves its marker in the place of a left operand. -/
theorem yields_sign {level : Level} {outer : List (Opening × Level)} {p : Nat}
    {ts us : List Token} (op : UnaryOp) (houter : OuterRead ctx outer ts)
    (hlevel : level.Waits ctx p us) :
    HasRead ctx ⟨.afterOperator op.operator, level.pushOperand .marker, outer⟩
      (ts ++ us ++ [op.sign]) := by
  rcases hlevel.le_signed_or_eq with hle | rfl
  · exact .afterSign op houter hlevel hle
  · exact .afterDotSign (.intro op houter hlevel)

/-- Where an operand is awaited, a token starts one or is refused. -/
theorem yields_stepOperand {level : Level} {outer : List (Opening × Level)} {p : Nat}
    {ts us : List Token} (houter : OuterRead ctx outer ts) (hlevel : level.Waits ctx p us)
    (phase : Phase) (t : Token) :
    Yields (fun m => HasRead ctx m (ts ++ us ++ [t])) (stepOperand ⟨phase, level, outer⟩ t) := by
  unfold stepOperand
  split
  · exact yields_sign .negate houter hlevel
  · exact yields_sign .not houter hlevel
  · rw [← List.append_nil (ts ++ us ++ _)]
    exact .operand (houter.cons hlevel .group) .start
  · exact .arrayStart houter hlevel
  · exact .operator houter hlevel (.number _)
  · exact .operator houter hlevel (.string _)
  · exact .afterName houter hlevel
  · trivial

/-- A comma or a closing bracket ends a level, and continues or ends what the bracket opened. -/
theorem yields_stepEnd {phase : Phase} {level : Level} {outer : List (Opening × Level)}
    {p : Nat} {ts us vs : List Token} {e : Expr} (houter : OuterRead ctx outer ts)
    (hlevel : level.Waits ctx p us) (he : Derives ctx 9 vs e) (t : Token) :
    Yields (fun m => HasRead ctx m (ts ++ us ++ vs ++ [t]))
      (stepEnd ctx ⟨phase, level.pushValue e, outer⟩ t) := by
  refine (hlevel.close he).bind fun e' _ he' => ?_
  cases houter with
  | nil => cases t <;> trivial
  | @cons opening level outer p ts us' ws houter hlevel' hopening =>
    -- what the level derives is one more item of the list
    have hitem : ∀ {items : List (List Token × Expr)}, (∀ i ∈ items, Derives ctx 1 i.1 i.2) →
        ∀ i ∈ items ++ [(us ++ vs, e')], Derives ctx 1 i.1 i.2 := by
      intro items hitems i hi
      rcases List.mem_append.1 hi with hi | hi
      · exact hitems i hi
      · rw [List.mem_singleton.1 hi]
        exact he'
    cases hopening with
    | group =>
      cases t with
      | rightParen =>
        have hread := HasRead.operator houter hlevel' (.group he')
        simpa using hread
      | _ => trivial
    | @array items hitems =>
      cases t with
      | comma =>
        have hread := HasRead.operand (houter.cons hlevel' (.array (hitem hitems))) .start
        simpa using hread
      | rightBrace =>
        have hread := HasRead.operator houter hlevel' (.array (hitem hitems))
        rw [← flatMap_comma_append] at hread
        simpa using hread
      | _ => trivial
    | @call n items hitems =>
      cases t with
      | comma =>
        have hread := HasRead.operand (houter.cons hlevel' (.call (n := n) (hitem hitems))) .start
        simpa using hread
      | rightParen =>
        have hread := HasRead.afterCall (n := n) houter hlevel' (hitem hitems)
        rw [← flatMap_comma_append] at hread
        simpa using hread
      | _ => trivial

/-- Behind an operand, a token ends the level, stands for an operator, is a unit, or is refused. -/
theorem yields_stepOperator {phase : Phase} {level : Level} {outer : List (Opening × Level)}
    {p : Nat} {ts us vs : List Token} {e : Expr} (houter : OuterRead ctx outer ts)
    (hlevel : level.Waits ctx p us) (he : Derives ctx 9 vs e) {t : Token}
    (ht : t ≠ .operator .negate) :
    Yields (fun m => HasRead ctx m (ts ++ us ++ vs ++ [t]))
      (stepOperator ctx ⟨phase, level.pushValue e, outer⟩ t) := by
  unfold stepOperator
  split
  · exact yields_stepEnd houter hlevel he _
  · exact yields_stepEnd houter hlevel he _
  · exact yields_stepEnd houter hlevel he _
  · exact .afterSemicolon houter hlevel he
  · trivial
  · next op hsemicolon hnot =>
    have hunary : op.isUnary = false := by
      cases op <;> simp_all [Operator.isUnary]
    exact .afterOperator houter hlevel he (mem_joining_precedence hunary hsemicolon)
      (.sign hsemicolon)
  · next word =>
    split
    · next op hword =>
      have hreads := wordOperator?_eq_some_iff.1 hword
      have hop : op ∈ joining 1 := by
        cases hreads <;> simp [joining]
      exact .afterOperator houter hlevel he hop hreads
    · next hword =>
      have hread := HasRead.operator houter hlevel (he.unit (wordOperator?_eq_none_iff.1 hword))
      rwa [← List.append_assoc] at hread
  · trivial

/-- A call becomes an operand, or its function refuses the arguments. -/
theorem yields_finishCall {n : String} {items : List (List Token × Expr)}
    (hitems : ∀ i ∈ items, Derives ctx 1 i.1 i.2) (phase : Phase) (level : Level)
    (outer : List (Opening × Level)) :
    Yields (fun m => ∃ e, m = ⟨.operator, level.pushValue e, outer⟩ ∧
        Derives ctx 9 (.identifier n :: .leftParen ::
          (Token.separated (items.map Prod.fst) ++ [.rightParen])) e)
      (finishCall ctx ⟨phase, level, outer⟩ n (items.map Prod.snd)) := by
  unfold finishCall
  cases hcall : ctx.called n (items.map Prod.snd) with
  | ok e => exact ⟨e, rfl, .call hitems hcall⟩
  | error err =>
    unfold Context.called at hcall
    split at hcall
    · split at hcall
      · cases hcall
      · cases hcall
        trivial
    · cases hcall

/-- A token keeps the invariant or is refused for the grammar, unless a prefix operator stands
directly behind a dot. -/
theorem HasRead.step {m : Machine} {ts : List Token} (h : HasRead ctx m ts) {t : Token}
    (ht : t ≠ .operator .negate) :
    Yields (fun m' => HasRead ctx m' (ts ++ [t])) (m.step ctx t) ∨ DotSigned ctx m ts := by
  have hnil : ∀ i ∈ ([] : List (List Token × Expr)), Derives ctx 1 i.1 i.2 := by simp
  cases h with
  | operand houter hlevel => exact .inl (yields_stepOperand houter hlevel _ t)
  | arrayStart houter hlevel =>
    -- a closing bracket ends the empty list, any other token starts its first item
    have hstep := yields_stepOperand (houter.cons hlevel (.array hnil)) .start .operand t
    rw [List.append_nil] at hstep
    by_cases hclose : t = .rightParen ∨ t = .rightBrace
    · rcases hclose with rfl | rfl
      · exact .inl trivial
      · have hread := HasRead.operator houter hlevel (.array hnil)
        exact .inl (hread.of_eq (by simp [Token.separated]))
    · rw [not_or] at hclose
      rw [awaits_listStart _ _ t hclose.1 hclose.2]
      exact .inl hstep
  | @callStart n _ _ _ _ _ houter hlevel =>
    have hstep := yields_stepOperand (houter.cons hlevel (.call (n := n) hnil)) .start .operand t
    rw [List.append_nil] at hstep
    by_cases hclose : t = .rightParen ∨ t = .rightBrace
    · rcases hclose with rfl | rfl
      · have hread := HasRead.afterCall (n := n) houter hlevel hnil
        exact .inl (hread.of_eq (by simp [Token.separated]))
      · exact .inl trivial
    · rw [not_or] at hclose
      rw [awaits_listStart _ _ t hclose.1 hclose.2]
      exact .inl hstep
  | operator houter hlevel he => exact .inl (yields_stepOperator houter hlevel he ht)
  -- an operator is put on its level only when the next token shows that an operand follows
  | afterOperator houter hlevel he hop hreads =>
    refine .inl ((hlevel.pushOperator he hop hreads).bind fun level' _ hlevel' => ?_)
    simpa using yields_stepOperand houter hlevel' _ t
  | @afterSign level outer _ _ _ op houter hlevel hle =>
    -- the level admits stratum `7`, so nothing is combined over the marker
    have hpush := Level.pushOperator_marker ctx (hlevel.admits hle) hlevel.balanced op
    have hstep : Machine.step ctx ⟨.afterOperator op.operator, level.pushOperand .marker, outer⟩ t =
        stepOperand ⟨.afterOperator op.operator, level.signed op, outer⟩ t := by
      simp only [Machine.step, hpush]
      rfl
    rw [hstep]
    exact .inl (by simpa using yields_stepOperand houter (hlevel.signed op hle) _ t)
  | afterDotSign hdot => exact .inr hdot
  | afterSemicolon houter hlevel he =>
    have hand : Operator.and ∈ joining 1 := by simp [joining]
    refine .inl ((hlevel.pushOperator he hand .semicolon).bind fun level' _ hlevel' => ?_)
    simpa using yields_stepOperand houter hlevel' _ t
  | @afterName n level outer p ts us houter hlevel =>
    -- the name is a call behind which its list starts, or an operand
    by_cases hparen : t = .leftParen
    · subst hparen
      have hread := HasRead.callStart (n := n) houter hlevel
      exact .inl (hread.of_eq (by simp))
    · rw [(behind_afterName n level outer).step_eq t hparen]
      exact .inl (yields_stepOperator houter hlevel (.name n) ht)
  | @afterCall n level outer p ts us items houter hlevel hitems =>
    refine .inl ((yields_finishCall hitems _ level outer).bind fun m _ hm => ?_)
    obtain ⟨e, rfl, he⟩ := hm
    exact yields_stepOperator houter hlevel he ht

/-- Behind a prefix operator that stands directly behind a dot no token is taken. -/
theorem DotSigned.step_ne_ok {m m' : Machine} {ts : List Token} (h : DotSigned ctx m ts)
    (t : Token) : m.step ctx t ≠ .ok m' := by
  obtain @⟨level, outer, ts, us, op, houter, hlevel⟩ := h
  obtain @⟨⟩ | @⟨_, _, base, _, _, _, first, others, o, hwaits, hle, hothers, hop, _, _⟩ | @⟨⟩ :=
    hlevel
  -- only a dot makes a level wait for a primary
  obtain rfl : o = .dot := by simpa [joining] using hop
  have hmarker := hwaits.reduceAbove_joined_marker hle first hothers
  simp only [Machine.step, Level.pushOperator, Level.precedence_operator, hmarker]
  intro heq
  cases hreduce : (base.joined first others).reduceAbove ctx 7 with
  | error err =>
    rw [hreduce] at heq
    cases heq
  | ok level' =>
    rw [hreduce] at heq
    cases heq

/-- At the end of its tokens the machine has read a formula, or refuses it for the grammar. -/
theorem HasRead.finish {m : Machine} {ts : List Token} (h : HasRead ctx m ts) :
    Yields (Formula ctx ts) (m.finish ctx) := by
  have hfinish : ∀ {phase : Phase} {level : Level} {outer : List (Opening × Level)} {p : Nat}
      {ts us vs : List Token} {e : Expr}, OuterRead ctx outer ts → level.Waits ctx p us →
      Derives ctx 9 vs e →
      Yields (Derives ctx 1 (ts ++ us ++ vs))
        (finishLevel ctx ⟨phase, level.pushValue e, outer⟩) := by
    intro phase level outer p ts us vs e houter hlevel he
    refine (hlevel.close he).bind fun e' _ he' => ?_
    -- with a bracket still open the formula is refused
    cases houter with
    | nil => exact he'
    | cons _ _ hopening => cases hopening <;> trivial
  cases h with
  | operand _ _ => trivial
  | arrayStart _ _ => trivial
  | callStart _ _ => trivial
  | operator houter hlevel he => exact (hfinish houter hlevel he).mono fun _ => .level
  | afterOperator _ _ _ _ _ => trivial
  | afterSign _ _ _ _ => trivial
  | afterDotSign hdot =>
    cases hdot
    trivial
  | afterSemicolon houter hlevel he => exact (hfinish houter hlevel he).mono fun _ => .clause
  | @afterName n _ _ _ _ _ houter hlevel =>
    exact (hfinish houter hlevel (.name n)).mono fun _ => .level
  | @afterCall n level outer _ _ _ _ houter hlevel hitems =>
    refine (yields_finishCall hitems _ level outer).bind fun m _ hm => ?_
    obtain ⟨e, rfl, he⟩ := hm
    exact (hfinish houter hlevel he).mono fun _ => .level

/-- The first of the tokens that are run through is taken. -/
theorem run_cons_eq_ok {m m' : Machine} {t : Token} {ts : List Token}
    (h : m.run ctx (t :: ts) = .ok m') : ∃ m₁, m.step ctx t = .ok m₁ ∧ m₁.run ctx ts = .ok m' := by
  change (m.step ctx t).bind _ = _ at h
  cases hstep : m.step ctx t with
  | error err =>
    rw [hstep] at h
    cases h
  | ok m₁ =>
    rw [hstep] at h
    exact ⟨m₁, rfl, h⟩

/-- What the machine has read after tokens that it takes are these tokens. -/
theorem HasRead.run {m m' : Machine} {ts us : List Token} (h : HasRead ctx m ts)
    (hus : .operator .negate ∉ us) (hrun : m.run ctx us = .ok m') : HasRead ctx m' (ts ++ us) := by
  induction us generalizing m ts with
  | nil =>
    cases hrun
    exact h.of_eq (by simp)
  | cons t us ih =>
    simp only [List.mem_cons, not_or] at hus
    obtain ⟨m₁, hstep, hrest⟩ := run_cons_eq_ok hrun
    rcases h.step (Ne.symm hus.1) with hyields | hdot
    · rw [hstep] at hyields
      exact (ih hyields hus.2 hrest).of_eq (by simp)
    · exact absurd hstep (hdot.step_ne_ok t)

/-- Before the first token the machine has read none. -/
theorem hasRead_start : HasRead ctx start [] :=
  .operand OuterRead.nil .start

end Machine

end Formulas
