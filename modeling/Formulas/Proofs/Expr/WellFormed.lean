import Formulas.Parser.Access
import Formulas.Proofs.DateTime.RoundTrip
import Formulas.Proofs.Expr.Nodes
import Formulas.Proofs.Grammar

/-!
# Well-formed expressions

The trees that formulas can mean. Not every tree is one: a name that is a literal, a call of a
built-in function or a date that is not on the calendar have no formula.

## Main definitions

* `Expr.IsName` and `Expr.IsUnit`: the texts that name something and that are a unit;
* `TemporalFunction.Accepts`: the optional arguments that go with a temporal function;
* `Kind.WellFormed` and `Expr.WellFormed`: what a formula can mean at a node;
* `Kind.ReadsBack`: nothing is lost when a well-formed node is printed;
* `Kind.call?`: the call that a node is written as.

## Main results

* `Expr.induction_on_written`: an induction along the texts of the parts of a node;
* `Kind.WellFormed.called_eq`: the call that a node is written as means the node.
-/

namespace Formulas

/-- The text can name a variable: it can be written in brackets and is no literal. -/
def Expr.IsName (name : String) : Prop := ']' ∉ name.toList ∧ Context.literal? name = none

/-- The text is a unit under its canonical name that can be written in brackets. -/
structure Expr.IsUnit (unit : String) : Prop where
  bracket_notMem : ']' ∉ unit.toList
  isUnitWord : Grammar.IsUnitWord unit
  canonical_eq : UnitOfMeasure.canonical unit = unit

/-- The optional arguments that go with a temporal function. Each of them needs those before it. -/
def TemporalFunction.Accepts (function : TemporalFunction) (period start measure : Option Expr) :
    Prop :=
  match function with
  | .deltaTime => period = none ∧ start = none
  | .reduce _ => period ≠ none ∧ (measure ≠ none → start ≠ none)
  | _ => (start ≠ none → period ≠ none) ∧ (measure ≠ none → start ≠ none)

/-- A formula can have a node of this kind at its root, as far as the node alone decides. -/
def Kind.WellFormed (environment : Environment) : Kind → Prop
  | .constant (.number x) => x ≠ .nan ∧ x.isNegative = false
  | .constant (.dateTime d) => d.IsReal ∧ d.HasOffset
  | .var name type => Expr.IsName name ∧ type = environment.variableType name
  | .property _ name type => Expr.IsName name ∧ type = .object
  | .call name type arguments =>
    ']' ∉ name.toList ∧ Registry.standard.get? name = none ∧
      type = (environment.resultType? name arguments.length).getD .object
  | .union items | .tuple items => items ≠ []
  | .temporal function _ period start measure => function.Accepts period start measure
  | .first child => ∃ items, items ≠ [] ∧ child = (Kind.array items).bare
  | .failed arguments => arguments.length = 1 ∨ arguments.length = 2
  | .each _ name _ => Expr.IsName name
  | _ => True

/-- A formula can have this node at its root, as far as the node alone decides. -/
structure Expr.WellFormed (environment : Environment) (e : Expr) : Prop where
  kind : e.kind.WellFormed environment
  unit : ∀ unit ∈ e.unit, IsUnit unit

/-- The expression is a whole number without a unit. -/
def Expr.isWhole : Expr → Bool
  | ⟨.constant (.number x), none⟩ => x.toInt?.isSome
  | _ => false

/-- The node is no infinite number. -/
def Kind.IsFinite : Kind → Prop
  | .constant (.number x) => ∀ negative, x ≠ .infinite negative
  | _ => True

/-- The node is no property of a whole number, whose digits would take the dot for their point. -/
def Kind.KeepsDot : Kind → Prop
  | .property base _ _ => base.isWhole = false
  | _ => True

/-- The node is no property that has the dotted name of a variable. -/
def Kind.IsCollapsed (environment : Environment) : Kind → Prop
  | .property base name _ =>
    base.carriesUnit = false →
      ∀ path ∈ base.dottedName, environment.variableType? (path ++ "." ++ name) = none
  | _ => True

/-- What the text of a node says is all that there is to say of it. -/
structure Kind.ReadsBack (environment : Environment) (kind : Kind) : Prop where
  isFinite : kind.IsFinite
  keepsDot : kind.KeepsDot
  isCollapsed : kind.IsCollapsed environment

/-- The name and the arguments of the call that a node is written as. An iteration is written as a
call too, but its name is no part of the tree. -/
def Kind.call? : Kind → Option (String × List Expr)
  | .call name _ arguments => some (name, arguments)
  | .ternary condition positive negative => some ("IF", [condition, positive, negative])
  | .union [_, _] => none
  | .union items => some ("UNION", items)
  | .tuple items => some ("TUPLE", items)
  | .reduce reducer child => some (reducer.name, [child])
  | .temporal function child period start measure =>
    some (function.name, child :: (period.toList ++ start.toList ++ measure.toList))
  | .first ⟨.array items, _⟩ => some ("FIRST", items)
  | .first child => some ("FIRST", [child])
  | .failed arguments => some ("FAILED", arguments)
  | .timer child measure => some ("TIMER", child :: measure.toList)
  | _ => none

/-- The ways in which a node is written: as a call that its arguments decide, or in a way of its
own. -/
@[elab_as_elim]
theorem Kind.cases_written {P : Kind → Prop} (kind : Kind)
    (call : ∀ kind name arguments, call? kind = some (name, arguments) → P kind)
    (constant : ∀ c, P (.constant c)) (var : ∀ name type, P (.var name type))
    (property : ∀ base name type, P (.property base name type))
    (binary : ∀ op left right, P (.binary op left right))
    (unary : ∀ op operand, P (.unary op operand)) (union : ∀ left right, P (.union [left, right]))
    (array : ∀ items, P (.array items))
    (each : ∀ collection name body, P (.each collection name body)) : P kind := by
  cases kind with
  | constant c => exact constant c
  | var name type => exact var name type
  | property base name type => exact property base name type
  | binary op left right => exact binary op left right
  | unary op operand => exact unary op operand
  | array items => exact array items
  | each collection name body => exact each collection name body
  | union items =>
    match items with
    | [left, right] => exact union left right
    | [] | [_] | _ :: _ :: _ :: _ => exact call _ _ _ rfl
  | first child =>
    obtain ⟨child, unit⟩ := child
    cases child <;> exact call _ _ _ rfl
  | _ => exact call _ _ _ rfl

/-- The arguments of the call that a node is written as are its parts or, in the call of `FIRST`,
the parts of its part. -/
theorem Kind.mem_children_of_call? {kind : Kind} {name : String} {arguments : List Expr}
    (h : kind.call? = some (name, arguments)) {a : Expr} (ha : a ∈ arguments)
    (unit : Option String) :
    a ∈ Expr.children ⟨kind, unit⟩ ∨
      ∃ c ∈ Expr.children ⟨kind, unit⟩, a ∈ c.children := by
  unfold call? at h
  split at h <;> cases h <;> simp_all [Expr.children]

/-- What passes to a node from its parts, and from the arguments of the call that it is written as,
holds of every expression whose nodes have the property that this takes. -/
theorem Expr.induction_on_written {Q R : Expr → Prop}
    (h : ∀ kind unit, (∀ n ∈ nodes ⟨kind, unit⟩, Q n) → (∀ c ∈ children ⟨kind, unit⟩, R c) →
      (∀ name arguments, kind.call? = some (name, arguments) → ∀ a ∈ arguments, R a) →
        R ⟨kind, unit⟩) {e : Expr} (hall : ∀ n ∈ e.nodes, Q n) : R e := by
  -- the size covers the arguments of `FIRST`, which are parts of a part
  induction e using induction_on_size with
  | h e ih =>
    have hpart : ∀ c ∈ e.children, R c := fun c hc =>
      ih c (sizeOf_lt_of_mem_children hc) fun n hn => hall n (nodes_subset hc hn)
    obtain ⟨kind, unit⟩ := e
    refine h kind unit hall hpart fun name arguments hcall a ha => ?_
    rcases Kind.mem_children_of_call? hcall ha unit with hmem | ⟨c, hc, hmem⟩
    · exact hpart a hmem
    · have hsize := Nat.lt_trans (sizeOf_lt_of_mem_children hmem) (sizeOf_lt_of_mem_children hc)
      exact ih a hsize fun n hn => hall n (nodes_subset hc (nodes_subset hmem hn))

/-- Every built-in function is called by its name. -/
theorem Registry.get?_name : ∀ f ∈ Builtin.standard, standard.get? f.name = some f := by
  decide

/-- The dotted name of a property is that of its base with the name of the property. -/
theorem Context.pathOf?_property (base : Expr) (name : String) (type : ValueType) :
    pathOf? (Kind.property base name type).bare =
      if base.carriesUnit then none else base.dottedName.map (· ++ "." ++ name) := by
  simp [pathOf?, Kind.bare, Expr.carriesUnit, Expr.dottedName]

/-- A call of a built-in function that takes the arguments is the node that it builds. -/
theorem Context.called_name (environment : Environment) {f : Builtin} (hf : f ∈ Builtin.standard)
    {arguments : List Expr} {kind : Kind} (hbuild : f.build arguments = .ok kind) :
    (standard environment).called f.name arguments = .ok kind.bare := by
  rw [called, standard, Registry.get?_name f hf]
  simp only [hbuild]

/-- A temporal node is built from a series and the optional arguments up to the last that is
there. -/
theorem Builtin.buildTemporal_eq (function : TemporalFunction) (child : Expr)
    {period start measure : Option Expr} (hstart : start ≠ none → period ≠ none)
    (hmeasure : measure ≠ none → start ≠ none) :
    buildTemporal function (child :: (period.toList ++ start.toList ++ measure.toList)) =
      .ok (.temporal function child period start measure) := by
  cases period <;> cases start <;> cases measure <;> simp_all [buildTemporal]

/-- A temporal function takes the optional arguments that go with it. -/
theorem TemporalFunction.Accepts.called_eq {function : TemporalFunction}
    {period start measure : Option Expr} (h : function.Accepts period start measure)
    (environment : Environment) (child : Expr) :
    (Context.standard environment).called function.name
        (child :: (period.toList ++ start.toList ++ measure.toList)) =
      .ok (Kind.temporal function child period start measure).bare := by
  have hplain : ∀ f, Builtin.temporal f ∈ Builtin.standard → (start ≠ none → period ≠ none) →
      (measure ≠ none → start ≠ none) → (Context.standard environment).called f.name
        (child :: (period.toList ++ start.toList ++ measure.toList)) =
          .ok (Kind.temporal f child period start measure).bare :=
    fun f hmem hstart hmeasure =>
      Context.called_name environment hmem (Builtin.buildTemporal_eq f child hstart hmeasure)
  cases function with
  | reduce r =>
    obtain ⟨hperiod, hmeasure⟩ := h
    have hmem : Builtin.reducer r ∈ Builtin.standard := by cases r <;> decide
    refine Context.called_name environment hmem ?_
    obtain ⟨period, rfl⟩ := Option.ne_none_iff_exists'.1 hperiod
    exact Builtin.buildTemporal_eq (.reduce r) child (fun _ => hperiod) hmeasure
  | deltaTime =>
    obtain ⟨rfl, rfl⟩ := h
    refine Context.called_name environment (by decide : Builtin.deltaTime ∈ Builtin.standard) ?_
    cases measure <;> rfl
  -- the others are built alike, and are registered as themselves
  | countLeading | delta | standardDeviation | slope | forecast =>
    exact hplain _ (by decide) h.1 h.2

/-- The name of the call that a node is written as can be written in brackets. -/
theorem Kind.WellFormed.bracket_notMem {environment : Environment} {kind : Kind}
    (h : kind.WellFormed environment) {name : String} {arguments : List Expr}
    (hcall : kind.call? = some (name, arguments)) : ']' ∉ name.toList := by
  unfold call? at hcall
  split at hcall <;> cases hcall
  case h_1 => exact h.1
  case h_6 reducer _ => cases reducer <;> decide
  case h_7 function _ _ _ _ =>
    cases function with
    | reduce reducer => cases reducer <;> decide
    | _ => decide
  all_goals decide

/-- The call that a node is written as means the node. -/
theorem Kind.WellFormed.called_eq {environment : Environment} {kind : Kind}
    (h : kind.WellFormed environment) {name : String} {arguments : List Expr}
    (hcall : kind.call? = some (name, arguments)) :
    (Context.standard environment).called name arguments = .ok kind.bare := by
  -- all others are calls of built-in functions, which build the node again
  have hbuiltin := @Context.called_name environment
  cases kind with
  | constant | var | property | binary | unary | array | each => simp [call?] at hcall
  | call =>
    cases hcall
    -- no function of the registry has the name, so the call is left to the environment
    obtain ⟨-, hregistry, rfl⟩ := h
    simp only [Context.called, Context.standard, hregistry, Context.resultType?]
  | ternary =>
    cases hcall
    exact hbuiltin (f := .ternary) (by decide) rfl
  | union items =>
    have hne : items ≠ [] := h
    have hname : ("UNION", items) = (name, arguments) := by
      unfold call? at hcall
      split at hcall <;> simp_all
    cases hname
    refine hbuiltin (f := .union) (by decide) ?_
    simp [Builtin.build, hne]
  | tuple items =>
    have hne : items ≠ [] := h
    cases hcall
    refine hbuiltin (f := .tuple) (by decide) ?_
    simp [Builtin.build, hne]
  | reduce r =>
    cases hcall
    exact hbuiltin (f := .reducer r) (by cases r <;> decide) rfl
  | temporal =>
    cases hcall
    exact TemporalFunction.Accepts.called_eq h environment _
  | first child =>
    obtain ⟨items, hne, rfl⟩ := h
    cases hcall
    refine hbuiltin (f := .first) (by decide) ?_
    simp [Builtin.build, hne]
  | failed arguments =>
    cases hcall
    refine hbuiltin (f := .failed) (by decide) ?_
    rcases h with h | h
    · obtain ⟨a, rfl⟩ := List.length_eq_one_iff.1 h
      rfl
    · match arguments, h with
      | [_, _], _ => rfl
  | timer child measure =>
    cases hcall
    refine hbuiltin (f := .timer) (by decide) ?_
    cases measure <;> rfl

end Formulas
