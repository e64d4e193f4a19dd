import Formulas.Proofs.Expr.Chains

/-!
# Outlines

The outline of an expression is what is left of it when nothing is said about its names: without
types, and with every chain that has a name, apart from a unit at its end, as the variable of that
name. Whether a chain was found in an environment does not show in its outline, so a dot does the
same to the outlines of its sides in every environment.

## Main definitions

* `Expr.outline`: the expression without what an environment knows about its names;
* `Expr.behind`: an outline behind a dot.

## Main results

* `Context.pathOf?_outline`: the outline keeps the name that an expression is looked up by;
* `Context.outline_collapse` and `Context.outline_graft`: the outline of a chain that is collapsed,
  and of one that is hung on another expression.
-/

namespace Formulas

mutual

/-- The expression without types, and with the variable of its dotted name for each node that has
one and whose base carries no unit. Nodes keep their own units. -/
def Expr.outline : Expr → Expr
  | ⟨kind, unit⟩ => ⟨kind.outline, unit⟩

/-- The outline of a node. -/
def Kind.outline : Kind → Kind
  | .constant value => .constant value
  | .var name _ => .var name .object
  | .property base name _ =>
    match Context.pathOf? base with
    | some path => .var (path ++ "." ++ name) .object
    | none => .property base.outline name .object
  | .call name _ arguments => .call name .object (Expr.outlines arguments)
  | .binary op left right => .binary op left.outline right.outline
  | .unary op operand => .unary op operand.outline
  | .ternary condition positive negative =>
    .ternary condition.outline positive.outline negative.outline
  | .union items => .union (Expr.outlines items)
  | .array items => .array (Expr.outlines items)
  | .tuple items => .tuple (Expr.outlines items)
  | .reduce reducer child => .reduce reducer child.outline
  | .temporal function child period start measure =>
    .temporal function child.outline (Expr.outlineOption period) (Expr.outlineOption start)
      (Expr.outlineOption measure)
  | .first child => .first child.outline
  | .failed arguments => .failed (Expr.outlines arguments)
  | .timer child measure => .timer child.outline (Expr.outlineOption measure)
  | .each collection name body => .each collection.outline name body.outline

/-- The outlines of a list of expressions. -/
def Expr.outlines : List Expr → List Expr
  | [] => []
  | e :: es => e.outline :: Expr.outlines es

/-- The outline of an optional expression. -/
def Expr.outlineOption : Option Expr → Option Expr
  | none => none
  | some e => some e.outline

end

namespace Expr

theorem outlines_eq_map (es : List Expr) : outlines es = es.map outline := by
  induction es with
  | nil => rfl
  | cons e es ih => rw [outlines, ih, List.map_cons]

theorem outlineOption_eq_map (e : Option Expr) : outlineOption e = e.map outline := by
  cases e <;> rfl

theorem outline_eq (e : Expr) : e.outline = ⟨e.kind.outline, e.unit⟩ := by
  obtain ⟨kind, unit⟩ := e
  rw [outline]

/-- The outline has the unit of the expression. -/
theorem unit_eq_of_outline_eq {e e' : Expr} (h : e.outline = e'.outline) : e.unit = e'.unit := by
  rw [outline_eq, outline_eq] at h
  exact (Expr.mk.inj h).2

/-- The outline of the node is that of the expression without its unit. -/
theorem outline_kind_eq {e e' : Expr} (h : e.outline = e'.outline) :
    e.kind.outline = e'.kind.outline := by
  rw [outline_eq, outline_eq] at h
  exact (Expr.mk.inj h).1

/-- The outline of a chain behind a dot, where the name of the left side stands in front of the name
that it starts with. -/
def behind (path : String) : Expr → Expr
  | ⟨.var name type, unit⟩ => ⟨.var (path ++ "." ++ name) type, unit⟩
  | ⟨.property base name type, unit⟩ => ⟨.property (behind path base) name type, unit⟩
  | e => e

end Expr

namespace Context

/-- The outline keeps units, as far as a chain carries them. -/
theorem carriesUnit_outline (e : Expr) : e.outline.carriesUnit = e.carriesUnit := by
  fun_induction Expr.carriesUnit e with
  | case1 base name type unit ih =>
    rw [Expr.outline, Kind.outline]
    split
    next path hpath =>
      -- a base that has a name carries no unit
      rw [(pathOf?_eq_some_iff.1 hpath).1, Bool.or_false, Expr.carriesUnit]
      simp
    next => rw [Expr.carriesUnit, ih]
  | case2 kind unit hkind =>
    cases kind with
    | property base name type => exact absurd rfl (hkind base name type)
    | _ => simp [Expr.outline, Kind.outline, Expr.carriesUnit]

/-- The outline keeps dotted names. -/
theorem dottedName_outline (e : Expr) : e.outline.dottedName = e.dottedName := by
  fun_induction Expr.dottedName e with
  | case1 name type unit => rfl
  | case2 base name type unit ih =>
    rw [Expr.outline, Kind.outline]
    split
    next path hpath =>
      rw [dottedName_of_pathOf? hpath]
      rfl
    next => rw [Expr.dottedName, ih]
  | case3 e hvar hproperty =>
    obtain ⟨kind, unit⟩ := e
    cases kind with
    | var name type => exact absurd rfl (hvar name type unit)
    | property base name type => exact absurd rfl (hproperty base name type unit)
    | _ => simp [Expr.outline, Kind.outline, Expr.dottedName]

/-- The outline keeps the name that an expression is looked up by. -/
theorem pathOf?_outline (e : Expr) : pathOf? e.outline = pathOf? e := by
  rw [pathOf?, pathOf?, carriesUnit_outline, dottedName_outline]

/-- Expressions of one outline are looked up by one name. -/
theorem pathOf?_eq_of_outline_eq {e e' : Expr} (h : e.outline = e'.outline) :
    pathOf? e = pathOf? e' := by
  rw [← pathOf?_outline e, h, pathOf?_outline]

/-- The outline of what has a name is the variable of that name. -/
theorem outline_of_pathOf? {e : Expr} {path : String} (h : pathOf? e = some path) :
    e.outline = (Kind.var path .object).bare := by
  obtain ⟨kind, unit⟩ := e
  obtain rfl : none = unit := congrArg Expr.unit (bare_of_pathOf? h)
  cases kind with
  | var name type =>
    cases h
    rfl
  | property base name type =>
    have hbase : (pathOf? base).map (· ++ "." ++ name) = some path := by
      rw [← h, ← Kind.bare, pathOf?_property, pathOf?]
      split <;> rfl
    obtain ⟨front, hfront, rfl⟩ := Option.map_eq_some_iff.1 hbase
    simp [Kind.bare, Expr.outline, Kind.outline, hfront]
  | _ => simp [pathOf?, Expr.carriesUnit, Expr.dottedName] at h

/-- Whether a chain is collapsed does not show in its outline. -/
theorem outline_collapse (ctx : Context) (chain : Expr) :
    (ctx.collapse chain).outline = chain.outline := by
  obtain ⟨path, type, hpath, -, heq⟩ | ⟨-, heq⟩ := collapse_cases ctx chain
  · rw [heq, outline_of_pathOf? hpath]
    simp [Kind.bare, Expr.outline, Kind.outline]
  · rw [heq]

/-- The outline of a chain on a root that has a name depends on the outline of the chain and on the
name only. -/
theorem outline_graft {root : Expr} {path : String} (hroot : pathOf? root = some path) (e : Expr) :
    (Expr.graft root e).outline = Expr.behind path e.outline := by
  fun_induction Expr.graft root e with
  | case1 name type unit => simp [Expr.outline, Kind.outline, hroot, Expr.behind]
  | case2 base name type unit ih =>
    rw [Expr.outline, Kind.outline, pathOf?_graft hroot, Expr.outline, Kind.outline]
    cases pathOf? base with
    | none => rw [Option.map_none, Expr.behind, ih]
    | some rest => simp [Expr.behind, String.append_assoc]
  | case3 e hvar hproperty =>
    obtain ⟨kind, unit⟩ := e
    cases kind with
    | var name type => exact absurd rfl (hvar name type unit)
    | property base name type => exact absurd rfl (hproperty base name type unit)
    | _ => simp [Expr.outline, Kind.outline, Expr.behind]

end Context

end Formulas
