import Formulas.Proofs.Expr.WellFormed

/-!
# Chains of properties

A chain of properties is a property of a property, and so on down to its root. A dot makes a chain
longer at its end, or, if a chain stands in parentheses on its right, hangs that chain with its root
on what stands on the left.

## Main definitions

* `Expr.bases`: what a chain goes through;
* `Context.Joins`: what a dot makes of its operands.

## Main results

* `Context.pathOf?_graft` and `Expr.bases_graft`: the name and the bases of a chain that is hung on
  another expression;
* `Context.collapse_cases`: a chain becomes a variable, or stays since there is no such variable;
* `Context.dot_eq_ok_iff`: the ways in which a dot joins its operands.
-/

namespace Formulas

namespace Expr

/-- The base of a property and the bases below it, the outermost first. -/
def bases : Expr → List Expr
  | ⟨.property base _ _, _⟩ => base :: base.bases
  | _ => []

/-- A chain goes through the same with another unit. -/
theorem bases_withUnit (e : Expr) (unit : Option String) : bases ⟨e.kind, unit⟩ = e.bases := by
  obtain ⟨kind, _⟩ := e
  cases kind <;> rfl

/-- What is neither a variable nor a property has no dotted name. -/
theorem dottedName_eq_none {e : Expr} (hvar : ∀ name type unit, e ≠ ⟨.var name type, unit⟩)
    (hproperty : ∀ base name type unit, e ≠ ⟨.property base name type, unit⟩) :
    e.dottedName = none := by
  unfold dottedName
  split
  · exact absurd rfl (hvar _ _ _)
  · exact absurd rfl (hproperty _ _ _ _)
  · rfl

/-- A chain whose root is no variable has no place for another root. -/
theorem graft_of_dottedName_eq_none (root : Expr) {e : Expr} (h : e.dottedName = none) :
    graft root e = e := by
  fun_induction graft root e with
  | case1 name type unit => cases h
  | case2 base name type unit ih =>
    simp only [dottedName, Option.map_eq_none_iff] at h
    rw [ih h]
  | case3 => rfl

/-- The name of a chain behind that of its new root. -/
theorem dottedName_graft {root e : Expr} {path rest : String} (hroot : root.dottedName = some path)
    (he : e.dottedName = some rest) :
    (graft root e).dottedName = some (path ++ "." ++ rest) := by
  fun_induction graft root e generalizing rest with
  | case1 name type unit =>
    cases he
    simp [dottedName, hroot]
  | case2 base name type unit ih =>
    obtain ⟨inner, hinner, rfl⟩ := Option.map_eq_some_iff.1 he
    simp [dottedName, ih hinner, String.append_assoc]
  | case3 e hvar hproperty =>
    rw [dottedName_eq_none hvar hproperty] at he
    cases he

/-- A chain on a new root carries the units of both. -/
theorem carriesUnit_graft (root : Expr) {e : Expr} (he : e.dottedName ≠ none) :
    (graft root e).carriesUnit = (root.carriesUnit || e.carriesUnit) := by
  fun_induction graft root e with
  | case1 name type unit => simp [carriesUnit, Bool.or_comm]
  | case2 base name type unit ih =>
    have hbase : base.dottedName ≠ none := by simpa [dottedName] using he
    simp [carriesUnit, ih hbase, Bool.or_left_comm]
  | case3 e hvar hproperty =>
    exact absurd (dottedName_eq_none hvar hproperty) he

/-- A chain on a new root goes through what it went through before, each on the new root, and then
through the root. -/
theorem bases_graft (root : Expr) {e : Expr} (he : e.dottedName ≠ none) :
    (graft root e).bases = e.bases.map (graft root) ++ root :: root.bases := by
  fun_induction graft root e with
  | case1 name type unit => rfl
  | case2 base name type unit ih =>
    have hbase : base.dottedName ≠ none := by simpa [dottedName] using he
    simp [bases, ih hbase]
  | case3 e hvar hproperty =>
    exact absurd (dottedName_eq_none hvar hproperty) he

/-- What a chain goes through has a dotted name exactly if the chain has one. -/
theorem dottedName_eq_none_of_mem_bases {b e : Expr} (h : b ∈ e.bases) :
    b.dottedName = none ↔ e.dottedName = none := by
  fun_induction bases e with
  | case1 base name type unit ih =>
    simp only [dottedName, Option.map_eq_none_iff]
    rcases List.mem_cons.1 h with rfl | h
    · rfl
    · exact ih h
  | case2 => cases h

/-- What a chain goes through are nodes of the chain. -/
theorem bases_subset_nodes (e : Expr) : e.bases ⊆ e.nodes := by
  fun_induction bases e with
  | case1 base name type unit ih =>
    have hbase : base.nodes ⊆ nodes ⟨.property base name type, unit⟩ :=
      nodes_subset (by simp [children])
    exact List.cons_subset.2 ⟨hbase base.mem_nodes_self, List.Subset.trans ih hbase⟩
  | case2 => exact List.nil_subset _

/-- A chain on a new root is the same apart from its unit. -/
theorem graft_bare (root e : Expr) : (graft root e).kind.bare = graft root e.kind.bare := by
  obtain ⟨kind, _⟩ := e
  cases kind <;> rfl

/-- The nodes of a chain on a new root: those of the root, and what the chain went through with the
chain itself, each on the new root. -/
theorem mem_nodes_graft {root e n : Expr} (he : e.dottedName ≠ none)
    (h : n ∈ (graft root e).nodes) :
    n ∈ root.nodes ∨ ∃ inner ∈ e :: e.bases, n = graft root inner := by
  fun_induction graft root e with
  | case1 name type unit =>
    rw [nodes_eq] at h
    simp only [children, List.flatMap_cons, List.flatMap_nil, List.append_nil,
      List.mem_cons] at h
    rcases h with rfl | h
    · exact .inr ⟨⟨.var name type, unit⟩, List.mem_cons_self, rfl⟩
    · exact .inl h
  | case2 base name type unit ih =>
    have hbase : base.dottedName ≠ none := by simpa [dottedName] using he
    rw [nodes_eq] at h
    simp only [children, List.flatMap_cons, List.flatMap_nil, List.append_nil,
      List.mem_cons] at h
    rcases h with rfl | h
    · exact .inr ⟨⟨.property base name type, unit⟩, List.mem_cons_self, rfl⟩
    · rcases ih hbase h with h | ⟨inner, hinner, rfl⟩
      · exact .inl h
      · exact .inr ⟨inner, List.mem_cons_of_mem _ hinner, rfl⟩
  | case3 e hvar hproperty =>
    exact absurd (dottedName_eq_none hvar hproperty) he

end Expr

namespace Context

/-- The name that an expression is looked up by is its dotted name, if it carries no unit. -/
theorem pathOf?_eq_some_iff {e : Expr} {path : String} :
    pathOf? e = some path ↔ e.carriesUnit = false ∧ e.dottedName = some path := by
  unfold pathOf?
  cases e.carriesUnit <;> simp

/-- The name that an expression is looked up by is its dotted name. -/
theorem dottedName_of_pathOf? {e : Expr} {path : String} (h : pathOf? e = some path) :
    e.dottedName = some path :=
  (pathOf?_eq_some_iff.1 h).2

/-- What has a name carries no unit that could be taken away. -/
theorem bare_of_pathOf? {e : Expr} {path : String} (h : pathOf? e = some path) :
    e.kind.bare = e := by
  obtain ⟨kind, unit⟩ := e
  have hunit := (pathOf?_eq_some_iff.1 h).1
  cases unit with
  | none => rfl
  | some unit => cases kind <;> simp [Expr.carriesUnit] at hunit

/-- The name of a chain behind that of its new root, if neither carries a unit. -/
theorem pathOf?_graft {root : Expr} {path : String} (hroot : pathOf? root = some path) (e : Expr) :
    pathOf? (Expr.graft root e) = (pathOf? e).map (path ++ "." ++ ·) := by
  obtain ⟨hunit, hpath⟩ := pathOf?_eq_some_iff.1 hroot
  cases he : e.dottedName with
  | none =>
    rw [Expr.graft_of_dottedName_eq_none root he]
    simp [pathOf?, he]
  | some rest =>
    have hne : e.dottedName ≠ none := by simp [he]
    rw [pathOf?, pathOf?, Expr.carriesUnit_graft root hne, hunit, Bool.false_or,
      Expr.dottedName_graft hpath he, he]
    cases e.carriesUnit <;> rfl

variable {ctx : Context}

/-- A chain becomes the variable of its dotted name, or stays what it is since there is no such
variable. -/
theorem collapse_cases (ctx : Context) (chain : Expr) :
    (∃ path type, pathOf? chain = some path ∧ ctx.environment.variableType? path = some type ∧
      ctx.collapse chain = (Kind.var path type).bare) ∨
    (∀ path, pathOf? chain = some path → ctx.environment.variableType? path = none) ∧
      ctx.collapse chain = chain := by
  cases hpath : pathOf? chain with
  | none => exact .inr ⟨by simp, by rw [collapse, hpath]⟩
  | some path =>
    cases htype : ctx.environment.variableType? path with
    | none =>
      refine .inr ⟨?_, by simp only [collapse, hpath, htype]⟩
      rintro _ ⟨⟩
      exact htype
    | some type => exact .inl ⟨path, type, rfl, htype, by simp only [collapse, hpath, htype]⟩

/-- What holds of all nodes below a chain, of variables, and of the chain if its name is that of no
variable, holds of all nodes when the chain is collapsed. -/
theorem forall_nodes_collapse {P : Kind → Prop} (hvar : ∀ name type, P (.var name type))
    {chain : Kind} (hchain : (∀ path, pathOf? chain.bare = some path →
      ctx.environment.variableType? path = none) → P chain)
    (hchildren : ∀ c ∈ chain.bare.children, ∀ n ∈ c.nodes, P n.kind) :
    ∀ n ∈ (ctx.collapse chain.bare).nodes, P n.kind := by
  obtain ⟨path, type, -, -, heq⟩ | ⟨hnone, heq⟩ := collapse_cases ctx chain.bare
  · rw [heq]
    exact Expr.forall_mem_nodes.2 ⟨hvar path type, by simp [Kind.bare, Expr.children]⟩
  · rw [heq]
    exact Expr.forall_mem_nodes.2 ⟨hchain hnone, hchildren⟩

/-- A chain keeps its name when it becomes a variable. -/
theorem pathOf?_collapse (ctx : Context) (chain : Expr) :
    pathOf? (ctx.collapse chain) = pathOf? chain := by
  obtain ⟨path, type, hpath, -, heq⟩ | ⟨-, heq⟩ := collapse_cases ctx chain
  · rw [heq, hpath]
    rfl
  · rw [heq]

/-- A chain without a unit of its own has none when it becomes a variable. -/
theorem unit_collapse (ctx : Context) {chain : Expr} (h : chain.unit = none) :
    (ctx.collapse chain).unit = none := by
  obtain ⟨_, _, -, -, heq⟩ | ⟨-, heq⟩ := collapse_cases ctx chain
  · rw [heq]
    rfl
  · rw [heq, h]

/-- What a dot makes of the expression on its left and the node on its right, units on the right
apart. -/
inductive Joins (ctx : Context) (left : Expr) : Kind → Kind → Prop
  /-- A name on the right is a property of the left side. -/
  | name (name : String) (type : ValueType) :
      Joins ctx left (.var name type) (ctx.collapse (Kind.property left name .object).bare).kind
  /-- A chain on the right is hung on the left side, if that has a name. -/
  | chain {path : String} (hpath : pathOf? left = some path) (base : Expr) (name : String)
      (type : ValueType) :
      Joins ctx left (.property base name type)
        (ctx.collapse (Expr.graft left (Kind.property base name type).bare)).kind
  /-- A call on the right is one of the function with the dotted name, if that is known. -/
  | call {path : String} (hpath : pathOf? left = some path) {name : String}
      {type result : ValueType} {arguments : List Expr}
      (hresult : ctx.resultType? (path ++ "." ++ name) arguments = some result) :
      Joins ctx left (.call name type arguments) (.call (path ++ "." ++ name) result arguments)

/-- What a dot makes of the left side and a node has no unit. -/
theorem joined_eq_ok_iff {left : Expr} {right : Kind} {e : Expr} :
    ctx.joined left right = .ok e ↔ Joins ctx left right e.kind ∧ e.unit = none := by
  constructor
  · intro h
    unfold joined at h
    split at h
    next =>
      cases h
      exact ⟨.name .., unit_collapse ctx rfl⟩
    next hpath =>
      cases h
      exact ⟨.chain hpath .., unit_collapse ctx rfl⟩
    next hpath =>
      dsimp only at h
      split at h
      next hresult =>
        cases h
        exact ⟨.call hpath hresult, rfl⟩
      next => cases h
    next => cases h
  · obtain ⟨kind, unit⟩ := e
    rintro ⟨h, rfl⟩
    have hbare : ∀ {e : Expr}, e.unit = none → e = e.kind.bare := by
      rintro ⟨kind, unit⟩ ⟨⟩
      rfl
    cases h with
    | name => exact congrArg Except.ok (hbare (unit_collapse ctx rfl))
    | chain hpath =>
      simp only [joined, hpath]
      exact congrArg Except.ok (hbare (unit_collapse ctx rfl))
    | call hpath hresult =>
      simp only [joined, hpath, hresult]
      rfl

/-- A dot joins its operands in one of three ways, and what it makes has the unit of the right
side. -/
theorem dot_eq_ok_iff {left right e : Expr} :
    ctx.dot left right = .ok e ↔ Joins ctx left right.kind e.kind ∧ e.unit = right.unit := by
  obtain ⟨kind, unit⟩ := e
  unfold dot
  constructor
  · intro h
    cases hjoined : ctx.joined left right.kind with
    | error fault =>
      rw [hjoined] at h
      cases h
    | ok e' =>
      obtain ⟨hjoins, hunit⟩ := joined_eq_ok_iff.1 hjoined
      rw [hjoined] at h
      cases h
      exact ⟨hjoins, by rw [hunit, Option.or_none]⟩
  · rintro ⟨hjoins, rfl⟩
    rw [(joined_eq_ok_iff (e := kind.bare)).2 ⟨hjoins, rfl⟩]
    simp [Except.map, Kind.bare]

end Context

/-- A node is no property with the dotted name of a variable if its name is that of no variable. -/
theorem Kind.isCollapsed_of_forall {environment : Environment} {kind : Kind}
    (h : ∀ path, Context.pathOf? kind.bare = some path → environment.variableType? path = none) :
    kind.IsCollapsed environment := by
  cases kind with
  | property base name type =>
    intro hunit path hpath
    refine h (path ++ "." ++ name) ?_
    rw [Context.pathOf?_property, hunit, Option.mem_def.1 hpath]
    rfl
  | _ => trivial

end Formulas
