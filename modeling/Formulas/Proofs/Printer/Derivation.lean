import Formulas.Proofs.DateTime.Constructors
import Formulas.Proofs.Grammar.Completeness
import Formulas.Proofs.Printer.Spelling

/-!
# Printed expressions read back

The tokens of a printed expression form an operand of the stratum that its root operator has, and
mean the expression, unless one of three things gets lost in print: that a number is infinite, that
a dot stands behind a whole number, and that a chain of properties is not the variable whose dotted
name it has.

## Main definitions

* `Expr.IsDerived`: the tokens of an expression mean the expression.

## Main results

* `Expr.isDerived`: this holds of every well-formed expression that reads back;
* `Expr.parse_eq_of_readsBack`: its text means the expression too.
-/

namespace Formulas

open Grammar

namespace Expr

/-- The tokens of the expression form an operand of the stratum of its root and mean it. -/
def IsDerived (ctx : Context) (e : Expr) : Prop := Derives ctx e.precedence e.tokens e

theorem precedence_pos (e : Expr) : 1 ≤ e.precedence := by
  unfold precedence
  split
  · exact Operator.precedence_pos _
  · decide
  · exact Operator.precedence_pos _
  · decide
  · decide

theorem precedence_le (e : Expr) : e.precedence ≤ atomPrecedence := by
  unfold precedence
  split
  · exact Nat.le_of_lt (precedence_lt_atom _)
  · decide
  · exact Nat.le_of_lt (precedence_lt_atom _)
  · decide
  · exact Nat.le_refl _

variable {ctx : Context}

/-- An expression in parentheses, or one that needs none, is an operand of the stratum. -/
theorem IsDerived.parenthesized {e : Expr} (h : e.IsDerived ctx) (needed : Bool) {p : Nat}
    (hp : p ≤ atomPrecedence) (hneeded : needed = false → p ≤ e.precedence) :
    Derives ctx p (Token.parenthesized needed e.tokens) e := by
  cases needed with
  | false => exact h.loosen (hneeded rfl)
  | true => exact (Derives.group (h.loosen e.precedence_pos)).loosen hp

/-- Expressions whose tokens mean them, each with its tokens. -/
theorem derives_items {es : List Expr} (h : ∀ e ∈ es, e.IsDerived ctx) :
    ∀ i ∈ es.map fun e => (e.tokens, e), Derives ctx 1 i.1 i.2 := by
  intro i hi
  obtain ⟨e, he, rfl⟩ := List.mem_map.1 hi
  exact (h e he).loosen e.precedence_pos

/-- A call of expressions whose tokens mean them is an operand if the function takes them. -/
theorem derives_call {name : String} {arguments : List Expr} (h : ∀ a ∈ arguments, a.IsDerived ctx)
    {e : Expr} (hcalled : ctx.called name arguments = .ok e) :
    Derives ctx atomPrecedence (Token.call name (arguments.map tokens)) e := by
  have hcall := Derives.call (n := name) (e := e) (derives_items h)
  simp only [List.map_map, Function.comp_def, List.map_id'] at hcall
  exact hcall hcalled

/-- Expressions whose tokens mean them are an array in braces. -/
theorem isDerived_array {items : List Expr} (h : ∀ i ∈ items, i.IsDerived ctx) :
    (Kind.array items).bare.IsDerived ctx := by
  have harray := Derives.array (derives_items h)
  simp only [List.map_map, Function.comp_def, List.map_id'] at harray
  change Derives ctx atomPrecedence (Kind.array items).tokens _
  rw [Kind.tokens, tokenLists_eq_map]
  exact harray

/-- Two operands around the operator of a node form an operand of its stratum. -/
theorem derives_infix {op : Operator} (hop : op.JoinsNode) {left right e : Expr}
    (hleft : left.IsDerived ctx) (hright : right.IsDerived ctx)
    (hcombine : Level.combine ctx (.value left) op (.value right) = .ok e) :
    Derives ctx op.precedence
      (Token.parenthesized (left.needsParensLeft op) left.tokens
        ++ .operator op :: Token.parenthesized (right.needsParensRight op) right.tokens) e := by
  obtain ⟨hunary, hsemicolon⟩ : op.isUnary = false ∧ op ≠ .semicolon := by
    rcases hop with rfl | ⟨node, rfl⟩
    · decide
    · cases node <;> decide
  refine .join (mem_joining_precedence hunary hsemicolon) (.sign hsemicolon) ?_ ?_ hcombine
  · -- on the left an operand of the same stratum needs no parentheses, on the right it does
    refine hleft.parenthesized _ (Nat.le_of_lt (precedence_lt_atom op)) fun hneeded => ?_
    simp only [needsParensLeft, Bool.or_eq_false_iff, decide_eq_false_iff_not] at hneeded
    omega
  · refine hright.parenthesized _ (precedence_lt_atom op) fun hneeded => ?_
    simp only [needsParensRight, decide_eq_false_iff_not] at hneeded
    omega

/-- A name that is no literal is an operand and means the variable. -/
theorem derives_name {name : String} (hname : IsName name) :
    Derives ctx atomPrecedence [.identifier name]
      (Kind.var name (ctx.environment.variableType name)).bare := by
  have hnamed : Derives ctx atomPrecedence [.identifier name] (ctx.named name) := .name name
  rw [Context.named, hname.2] at hnamed
  exact hnamed

/-- The call that a date-time is written as means the date-time. -/
theorem called_dateTime (environment : Environment) {d : DateTime} (hreal : d.IsReal)
    (hoffset : d.HasOffset) :
    (Context.standard environment).called
        (if d.offset.isSome then "DATETIMEOFFSET" else "DATETIME") [string d.toText] =
      .ok (Kind.constant (.dateTime d)).bare := by
  have hbuild := DateTime.build_toText hreal hoffset none
  have hname : (if d.offset.isSome then "DATETIMEOFFSET" else "DATETIME") =
      (DateTime.builtin d.offset.isSome).name := by
    cases d.offset <;> rfl
  rw [hname]
  exact Context.called_name environment (DateTime.builtin_mem_standard _) hbuild

/-- A literal is an operand and means itself, if it is no infinite number. -/
theorem derives_constant {environment : Environment} {c : Constant}
    (hwf : (Kind.constant c).WellFormed environment)
    (hback : (Kind.constant c).ReadsBack environment) :
    (Kind.constant c).bare.IsDerived (.standard environment) := by
  cases c with
  | boolean b => cases b <;> exact Derives.name _
  | null => exact Derives.name _
  | string s => exact Derives.string s
  | number x =>
    cases x with
    | infinite negative => exact absurd rfl (hback.isFinite negative)
    | nan => exact absurd rfl hwf.1
    | finite => exact Derives.number _
  | dateTime d =>
    have hstring : (Expr.string d.toText).IsDerived (.standard environment) := Derives.string _
    have hargument : ∀ a ∈ [Expr.string d.toText], a.IsDerived (.standard environment) := by
      simp [hstring]
    exact derives_call hargument (called_dateTime environment hwf.1 hwf.2)

/-- A chain of properties stays one, if no variable has its dotted name. -/
theorem collapse_property {base : Expr} {name : String}
    (h : base.carriesUnit = false → ∀ path ∈ base.dottedName,
      ctx.environment.variableType? (path ++ "." ++ name) = none) :
    ctx.collapse (Kind.property base name .object).bare =
      (Kind.property base name .object).bare := by
  rw [Context.collapse, Context.pathOf?_property]
  cases hunit : base.carriesUnit with
  | true => rfl
  | false =>
    cases hbase : base.dottedName with
    | none => rfl
    | some path =>
      have hnone := h hunit path hbase
      simp only [Bool.false_eq_true, if_false, Option.map_some, hnone]

/-- A property is an operand and means itself, if its dot is written and no variable has its dotted
name. -/
theorem isDerived_property {base : Expr} (h : base.IsDerived ctx) {name : String}
    (hname : IsName name) (hback : (Kind.property base name .object).ReadsBack ctx.environment) :
    (Kind.property base name .object).bare.IsDerived ctx := by
  have hwhole : base.isWhole = false := hback.keepsDot
  -- the dot makes the property, and leaves it since no variable has its dotted name
  have hdot : ctx.dot base (Kind.var name (ctx.environment.variableType name)).bare =
      .ok (Kind.property base name .object).bare := by
    change Except.map _ (Except.ok (ctx.collapse _)) = _
    rw [collapse_property hback.isCollapsed]
    rfl
  have hbase := h.parenthesized (base.precedence < Operator.dot.precedence)
    (Nat.le_of_lt (precedence_lt_atom .dot)) fun hneeded => by simpa using hneeded
  have hall := Derives.dot hbase (derives_name hname) hdot
  change Derives ctx Operator.dot.precedence (Kind.property base name .object).tokens _
  rw [Kind.tokens, hwhole]
  exact hall

/-- A prefix operator and its operand are an operand and mean the operation. -/
theorem isDerived_unary {operand : Expr} (h : operand.IsDerived ctx) (op : UnaryOp) :
    (Kind.unary op operand).bare.IsDerived ctx := by
  have hprecedence : op.operator.precedence = 7 := by cases op <;> rfl
  have hoperand := h.parenthesized (operand.precedence < op.operator.precedence)
    (by decide : 7 ≤ atomPrecedence) fun hneeded => by simpa [hprecedence] using hneeded
  have hall : Derives ctx 7 (op.sign :: _) (Kind.unary op operand).bare := .signed hoperand
  rw [← hprecedence] at hall
  exact hall

/-- A node with a unit is an operand if it is one without. -/
theorem isDerived_unit {kind : Kind} (h : kind.bare.IsDerived ctx) {unit : String}
    (hunit : IsUnit unit) : IsDerived ctx ⟨kind, some unit⟩ := by
  have hkind := h.parenthesized (precedence ⟨kind, some unit⟩ < atomPrecedence)
    (Nat.le_refl _) fun hneeded => Nat.not_lt.1 (of_decide_eq_false hneeded)
  have hall := Derives.unit hkind hunit.isUnitWord
  rw [hunit.canonical_eq] at hall
  exact hall.loosen (precedence_le _)

/-- The tokens of a printed expression mean the expression. -/
theorem isDerived {environment : Environment} {e : Expr}
    (hwf : ∀ n ∈ e.nodes, n.WellFormed environment)
    (hback : ∀ n ∈ e.nodes, n.kind.ReadsBack environment) :
    e.IsDerived (.standard environment) := by
  refine induction_on_written (R := IsDerived (.standard environment))
    (fun kind unit hall hpart hargument => ?_) fun n hn => And.intro (hwf n hn) (hback n hn)
  obtain ⟨hself, hback⟩ := hall _ (mem_nodes_self _)
  have hwf := hself.kind
  -- without its unit first, which stands behind the node as a primary
  have hkind : kind.bare.IsDerived (.standard environment) := by
    clear hself
    cases kind using Kind.cases_written with
    | call kind name arguments hcall =>
      have hall := derives_call (hargument name arguments hcall) (hwf.called_eq hcall)
      simp only [IsDerived, Kind.bare, tokens, Kind.tokens_of_call? hcall]
      exact hall.loosen (precedence_le _)
    | constant c => exact derives_constant hwf hback
    | var name type =>
      obtain ⟨hname, rfl⟩ := hwf
      exact derives_name hname
    | property base name type =>
      obtain ⟨hname, rfl⟩ := hwf
      exact isDerived_property (hpart base (by simp [children])) hname hback
    | binary op left right =>
      exact derives_infix (.inr ⟨op, rfl⟩) (hpart left (by simp [children]))
        (hpart right (by simp [children])) (combine_of_binary? _ op.binary?_operator left right)
    | unary op operand => exact isDerived_unary (hpart operand (by simp [children])) op
    | union left right =>
      exact derives_infix (.inl rfl) (hpart left (by simp [children]))
        (hpart right (by simp [children])) rfl
    | array items => exact isDerived_array fun i hi => hpart i hi
    | each collection name body =>
      have hname : (Kind.var name (environment.variableType name)).bare.IsDerived
          (.standard environment) := derives_name hwf
      have harguments : ∀ a ∈
          [collection, (Kind.var name (environment.variableType name)).bare, body],
            a.IsDerived (.standard environment) := by
        simp only [List.forall_mem_cons, List.not_mem_nil, false_implies, implies_true, and_true]
        exact ⟨hpart collection (by simp [children]), hname, hpart body (by simp [children])⟩
      exact derives_call harguments (Context.called_name environment (f := .each) (by decide) rfl)
  cases unit with
  | none => exact hkind
  | some unit => exact isDerived_unit hkind (hself.unit unit rfl)

/-- A printed expression is read as the expression. -/
theorem parse_eq_of_readsBack {environment : Environment} {e : Expr}
    (hwf : ∀ n ∈ e.nodes, n.WellFormed environment)
    (hback : ∀ n ∈ e.nodes, n.kind.ReadsBack environment) :
    Expr.parse (.standard environment) e.toText = .ok e :=
  (isDerived hwf hback).parse_eq e.precedence_pos (scan_toText hwf)

end Expr

end Formulas
