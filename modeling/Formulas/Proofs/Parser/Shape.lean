import Formulas.Proofs.Environment.Growth
import Formulas.Proofs.Parser.WellFormed

/-!
# The shape and the types of parsed expressions

That a node is well-formed says two things, which are told apart here. The one is its shape, which
every reader of trees can rely on, whatever the environment was: the numbers of arguments, the texts
that are names and units, the numbers and dates that can be literals. The other is that its names
have the types that the environment gives to them. An environment that comes from registrations has
one type of result for each function, so the type of a call does not depend on the number of
arguments.

## Main definitions

* `Kind.HasShape` and `Expr.HasShape`: the shape of a node;
* `Kind.IsTyped`: the types of the names at a node are those of the environment.

## Main results

* `Kind.wellFormed_iff`: a node is well-formed if it has the shape and the types;
* `Expr.hasShape_of_parse` and `Expr.isTyped_of_parse`: both hold at every node of what a text is
  read as.
-/

namespace Formulas

/-- A name is no literal if none of the words for literals is its lower case. -/
theorem Context.literal?_eq_none_iff {name : String} :
    literal? name = none ↔ Text.lower name ∉ ["true", "false", "null", "pi"] := by
  constructor
  · intro h hmem
    simp only [List.mem_cons, List.not_mem_nil, or_false] at hmem
    unfold literal? at h
    rcases hmem with heq | heq | heq | heq <;> rw [heq] at h <;> cases h
  · exact fun h => literal?_eq_none fun word hmem heq => h (heq ▸ hmem)

/-- A text can name a variable if it can be written in brackets and its lower case is none of the
words for literals. -/
theorem Expr.isName_iff {name : String} :
    IsName name ↔
      ']' ∉ name.toList ∧ Text.lower name ∉ ["true", "false", "null", "pi"] :=
  and_congr_right' Context.literal?_eq_none_iff

/-- A name calls no built-in function if its upper case is not registered. -/
theorem Registry.get?_eq_none_iff {registry : Registry} {name : String} :
    registry.get? name = none ↔ Text.upper name ∉ registry.names := by
  simp only [get?, names, List.lookup_eq_none_iff, bne_iff_ne, List.mem_map, not_exists, not_and]
  exact ⟨fun h entry hentry heq => h entry hentry heq.symm,
    fun h entry hentry heq => h entry hentry heq.symm⟩

/-- The type of the calls of a function is the result of all its signatures, or that of an object if
it has none. The number of arguments does not matter. -/
theorem Environment.Reachable.eq_getD_resultType?_iff {environment : Environment}
    (h : environment.Reachable) {name : String} {arity : Nat} {type : ValueType} :
    type = (environment.resultType? name arity).getD .object ↔
      (∀ s ∈ environment.signaturesOf name, type = s.result) ∧
        (environment.signaturesOf name = [] → type = .object) := by
  cases hlist : environment.signaturesOf name with
  | nil => simp [resultType?, resultOfCall?, hlist]
  | cons first rest =>
    have hmem : first ∈ environment.signaturesOf name := by simp [hlist]
    rw [h.resultType?_eq hmem, Option.getD_some, ← hlist]
    constructor
    · rintro rfl
      exact ⟨fun s hs => h.result_eq_of_mem hmem hs, fun hnil => by simp [hnil] at hmem⟩
    · exact fun hall => hall.1 first hmem

/-- The node has the shape of one that a formula can mean: literals that can be written, names that
are no literals and can be written in brackets, calls of functions that are not built in, and parts
in the numbers that their node takes. -/
def Kind.HasShape : Kind → Prop
  | .constant (.number x) => x ≠ .nan ∧ x.isNegative = false
  -- an offset is counted in minutes, and is less than fifteen hours
  | .constant (.dateTime d) =>
    d.IsReal ∧ ∀ offset ∈ d.offset, -(14 * 60 + 59) ≤ offset ∧ offset ≤ 14 * 60 + 59
  | .var name _ | .property _ name _ | .each _ name _ =>
    ']' ∉ name.toList ∧ Text.lower name ∉ ["true", "false", "null", "pi"]
  | .call name _ _ => ']' ∉ name.toList ∧ Text.upper name ∉ Registry.standard.names
  | .failed arguments => arguments.length = 1 ∨ arguments.length = 2
  | .tuple items | .union items => items ≠ []
  | .first child => ∃ items, items ≠ [] ∧ child.kind = .array items ∧ child.unit = none
  -- a period comes before a start, and a start before a unit of measure
  | .temporal function _ period start measure =>
    if function = .deltaTime then period = none ∧ start = none
    else (start ≠ none → period ≠ none) ∧ (measure ≠ none → start ≠ none) ∧
      ∀ reducer, function = .reduce reducer → period ≠ none
  | _ => True

/-- The node has the shape of one that a formula can mean, and its unit can be written and goes by
its canonical name. -/
structure Expr.HasShape (e : Expr) : Prop where
  kind : e.kind.HasShape
  unit : ∀ unit ∈ e.unit, IsUnit unit

/-- The types of the names at a node are those of the environment: of a variable, if it is known,
and of a call, the result of all signatures of the function. What is not known is an object, and so
is every property. -/
def Kind.IsTyped (environment : Environment) : Kind → Prop
  | .var name type => type = (environment.variableType? name).getD .object
  | .property _ _ type => type = .object
  | .call name type _ =>
    (∀ s ∈ environment.signaturesOf name, type = s.result) ∧
      (environment.signaturesOf name = [] → type = .object)
  | _ => True

/-- The optional arguments that go with a temporal function, for all functions at once. -/
theorem TemporalFunction.accepts_iff {function : TemporalFunction}
    {period start measure : Option Expr} :
    function.Accepts period start measure ↔
      if function = .deltaTime then period = none ∧ start = none
      else (start ≠ none → period ≠ none) ∧ (measure ≠ none → start ≠ none) ∧
        ∀ reducer, function = .reduce reducer → period ≠ none := by
  cases function with
  | reduce r =>
    simp only [Accepts, reduceCtorEq, if_false, reduce.injEq, forall_eq']
    -- the period that a reducer needs is the one that a start would need
    constructor
    · rintro ⟨hperiod, hmeasure⟩
      exact ⟨fun _ => hperiod, hmeasure, hperiod⟩
    · rintro ⟨-, hmeasure, hperiod⟩
      exact ⟨hperiod, hmeasure⟩
  | _ => simp [Accepts]

namespace Kind

variable {environment : Environment} {kind : Kind}

/-- A literal is well-formed if it has the shape. -/
theorem wellFormed_constant_iff {c : Constant} :
    (Kind.constant c).WellFormed environment ↔ (Kind.constant c).HasShape := by
  cases c with
  | dateTime d =>
    refine and_congr_right' (forall₂_congr fun offset _ => ?_)
    omega
  | _ => exact Iff.rfl

/-- A node that is well-formed has the shape, in any environment. -/
theorem WellFormed.hasShape (h : kind.WellFormed environment) : kind.HasShape := by
  cases kind with
  | constant => exact wellFormed_constant_iff.1 h
  | var | property => exact Expr.isName_iff.1 h.1
  | each => exact Expr.isName_iff.1 h
  | call => exact ⟨h.1, Registry.get?_eq_none_iff.1 h.2.1⟩
  | temporal => exact TemporalFunction.accepts_iff.1 h
  | first child =>
    obtain ⟨items, hne, rfl⟩ := h
    exact ⟨items, hne, rfl, rfl⟩
  | failed | tuple | union => exact h
  | _ => trivial

/-- A node that is well-formed has the types that the environment gives to its names. -/
theorem WellFormed.isTyped (h : kind.WellFormed environment) (hreach : environment.Reachable) :
    kind.IsTyped environment := by
  cases kind with
  | var | property => exact h.2
  | call => exact hreach.eq_getD_resultType?_iff.1 h.2.2
  | _ => trivial

/-- A node is well-formed exactly if it has the shape and the types of its names. -/
theorem wellFormed_iff (hreach : environment.Reachable) :
    kind.WellFormed environment ↔ kind.HasShape ∧ kind.IsTyped environment := by
  refine ⟨fun h => ⟨h.hasShape, h.isTyped hreach⟩, ?_⟩
  rintro ⟨hshape, htyped⟩
  cases kind with
  | constant => exact wellFormed_constant_iff.2 hshape
  | var | property => exact ⟨Expr.isName_iff.2 hshape, htyped⟩
  | each => exact Expr.isName_iff.2 hshape
  | call =>
    exact ⟨hshape.1, Registry.get?_eq_none_iff.2 hshape.2,
      hreach.eq_getD_resultType?_iff.2 htyped⟩
  | temporal => exact TemporalFunction.accepts_iff.2 hshape
  | first child =>
    obtain ⟨kind, unit⟩ := child
    obtain ⟨items, hne, rfl, rfl⟩ := hshape
    exact ⟨items, hne, rfl⟩
  | failed | tuple | union => exact hshape
  | _ => trivial

end Kind

namespace Expr

variable {environment : Environment}

/-- Every node of what a text is read as has the shape, in any environment. -/
theorem hasShape_of_parse {text : String} {e : Expr}
    (h : Expr.parse (.standard environment) text = .ok e) : ∀ n ∈ e.nodes, n.HasShape :=
  fun n hn => ⟨(wellFormed_of_parse h n hn).kind.hasShape, (wellFormed_of_parse h n hn).unit⟩

/-- What is found in the expression of a text is found in one that the text is read as. -/
theorem exists_parse_of_map {α : Type} {ctx : Context} {text : String} {f : Expr → α} {a : α}
    (h : (Expr.parse ctx text).toOption.map f = some a) :
    ∃ e, Expr.parse ctx text = .ok e ∧ f e = a := by
  cases hparse : Expr.parse ctx text with
  | error err =>
    rw [hparse] at h
    cases h
  | ok e =>
    rw [hparse] at h
    exact ⟨e, rfl, Option.some.inj h⟩

/-- A reducer over time, a date at an offset and a name in brackets, in a first value with a
unit. -/
theorem hasShape_of_parse_first :
    let text := "First(sum([a b].c, 0 hours), DateTime('2024-02-29 08:00-00:30')) °C"
    ∃ e, Expr.parse (.standard .empty) text = .ok e ∧
      e.toText = "FIRST(SUM([a b].c,0[h]),DATETIMEOFFSET(\"2024-02-29T08:00:00-00:30\"))[degC]" ∧
      ∀ n ∈ e.nodes, n.HasShape := by
  intro text
  have hread : (Expr.parse (.standard .empty) text).toOption.map toText =
      some "FIRST(SUM([a b].c,0[h]),DATETIMEOFFSET(\"2024-02-29T08:00:00-00:30\"))[degC]" := by
    decide +kernel
  obtain ⟨e, hparse, htext⟩ := exists_parse_of_map hread
  exact ⟨e, hparse, htext, hasShape_of_parse hparse⟩

/-- The names at every node of what a text is read as have the types of the environment. -/
theorem isTyped_of_parse (hreach : environment.Reachable) {text : String} {e : Expr}
    (h : Expr.parse (.standard environment) text = .ok e) :
    ∀ n ∈ e.nodes, n.kind.IsTyped environment :=
  fun n hn => (wellFormed_of_parse h n hn).kind.isTyped hreach

/-- The function `f` of one argument is called with two, under its name in another case, and a dot
finds the variable `a.b`. -/
theorem isTyped_of_parse_sum :
    let environment : Environment := ⟨[("a.b", .string)], [⟨"f", [.number], .number⟩]⟩
    environment.Reachable ∧ ∃ e, Expr.parse (.standard environment) "F(x, null) + a.b" = .ok e ∧
      e.children.map valueType = [.number, .string] ∧
      ∀ n ∈ e.nodes, n.kind.IsTyped environment := by
  intro environment
  have hreach : environment.Reachable :=
    .register (r := .signature ⟨"f", [.number], .number⟩)
      (.register (r := .binding "a.b" .string) .refl rfl) rfl
  have hread : (Expr.parse (.standard environment) "F(x, null) + a.b").toOption.map
      (·.children.map valueType) = some [.number, .string] := by
    decide +kernel
  obtain ⟨e, hparse, htypes⟩ := exists_parse_of_map hread
  exact ⟨hreach, e, hparse, htypes, isTyped_of_parse hreach hparse⟩

end Expr

end Formulas
