import Formulas.Proofs.Environment.Growth
import Formulas.Proofs.Expr.Chains
import Formulas.Proofs.Grammar.Nodes
import Formulas.Proofs.Printer.Derivation

/-!
# What dots keep, and what they pass by

A dot keeps its left side, as the front of a dotted name or as a base of a chain, unless the chain
on its right starts with something that is no name. And it looks up the dotted name of the whole
chain that it makes, so of the chains in front of it each has been looked up by a dot before; only
those that come with a chain in parentheses have not.

## Main definitions

* `Expr.Keeps`: an expression is made of another;
* `Grammar.Passes`: a node among tokens whose dotted name no dot looks up.

## Main results

* `Context.keeps_iff_of_dot`: when the left side of a dot is kept;
* `Grammar.Derives.isCollapsed_or_passes`: a property that has the dotted name of a variable has
  been passed by;
* `Expr.isCollapsed_iff_of_parse`: the properties of a text that are left, though their dotted names
  are those of variables.
-/

namespace Formulas

/-- The expression is made of `left`: it has a name that starts with that of `left` and a point, or
it is a chain of properties that goes through `left`. -/
inductive Expr.Keeps (left : Expr) : Expr → Prop
  /-- A variable under a longer name. -/
  | var {path : String} (hpath : left.dottedName = some path) (rest : String) (type : ValueType)
      (unit : Option String) : Keeps left ⟨.var (path ++ "." ++ rest) type, unit⟩
  /-- A call under a longer name. -/
  | call {path : String} (hpath : left.dottedName = some path) (rest : String) (type : ValueType)
      (arguments : List Expr) (unit : Option String) :
      Keeps left ⟨.call (path ++ "." ++ rest) type arguments, unit⟩
  /-- A chain of properties. -/
  | chain {e : Expr} (hbase : left ∈ e.bases) : Keeps left e

namespace Context

variable {ctx : Context}

/-- A chain through `left` under a name that starts with that of `left` is still made of it when it
is collapsed, whatever unit it gets. -/
theorem keeps_collapse {left chain : Expr} (hbase : left ∈ chain.bases)
    (hname : ∀ path, pathOf? chain = some path →
      ∃ front rest, left.dottedName = some front ∧ path = front ++ "." ++ rest)
    (unit : Option String) : Expr.Keeps left ⟨(ctx.collapse chain).kind, unit⟩ := by
  obtain ⟨path, type, hpath, -, heq⟩ | ⟨-, heq⟩ := collapse_cases ctx chain
  · obtain ⟨front, rest, hfront, rfl⟩ := hname path hpath
    rw [heq]
    exact .var hfront rest type unit
  · rw [heq]
    refine .chain ?_
    rwa [Expr.bases_withUnit]

/-- A chain of properties that is hung on a name is made of it exactly if the chain starts with a
name itself: nothing is hung on the left side otherwise. -/
theorem keeps_graft_iff {left : Expr} {path : String} (hpath : pathOf? left = some path)
    (base : Expr) (name : String) (type : ValueType) (unit : Option String) :
    Expr.Keeps left
        ⟨(ctx.collapse (Expr.graft left (Kind.property base name type).bare)).kind, unit⟩ ↔
      base.dottedName ≠ none := by
  cases hname : base.dottedName with
  | none =>
    have hchain : (Kind.property base name type).bare.dottedName = none := by
      simp [Kind.bare, Expr.dottedName, hname]
    have hcollapse : ctx.collapse (Kind.property base name type).bare =
        (Kind.property base name type).bare := by
      simp [collapse, pathOf?, hchain]
    rw [Expr.graft_of_dottedName_eq_none left hchain, hcollapse]
    refine iff_of_false (fun hkeeps => ?_) (by simp)
    cases hkeeps with
    | chain hbase =>
      -- what the chain goes through has no name either, but the left side has one
      have hnone := (Expr.dottedName_eq_none_of_mem_bases hbase).2 hchain
      rw [dottedName_of_pathOf? hpath] at hnone
      cases hnone
  | some rest =>
    have hchain : (Kind.property base name type).bare.dottedName ≠ none := by
      simp [Kind.bare, Expr.dottedName, hname]
    refine iff_of_true (keeps_collapse ?_ (fun path' hpath' => ?_) unit) (by simp)
    · rw [Expr.bases_graft left hchain]
      simp
    · rw [pathOf?_graft hpath] at hpath'
      obtain ⟨rest', -, rfl⟩ := Option.map_eq_some_iff.1 hpath'
      exact ⟨path, rest', dottedName_of_pathOf? hpath, rfl⟩

/-- The left side of a dot is kept unless the right side is a chain of properties that starts with
something that is no name. -/
theorem keeps_iff_of_dot {left right e : Expr} (h : ctx.dot left right = .ok e) :
    Expr.Keeps left e ↔ (right.dottedName = none → right.bases = []) := by
  obtain ⟨hjoins, -⟩ := dot_eq_ok_iff.1 h
  obtain ⟨kind, unit⟩ := e
  obtain ⟨right, unit'⟩ := right
  dsimp only at hjoins
  cases hjoins with
  | name name type =>
    refine iff_of_true (keeps_collapse List.mem_cons_self (fun path hpath => ?_) unit) fun _ => rfl
    obtain ⟨front, hfront, rfl⟩ := Option.map_eq_some_iff.1 (dottedName_of_pathOf? hpath)
    exact ⟨front, name, hfront, rfl⟩
  | chain hpath base name type =>
    rw [keeps_graft_iff hpath]
    simp [Expr.dottedName, Expr.bases]
  | call hpath hresult =>
    exact iff_of_true (.call (dottedName_of_pathOf? hpath) ..) fun _ => rfl

/-- On the right of `a`, the chain `b.c` is hung on it. -/
theorem keeps_of_dot_chain :
    let left := (Kind.var "a" .object).bare
    let right := (Kind.property (Kind.var "b" .object).bare "c" .object).bare
    let e := (Kind.property (Kind.property left "b" .object).bare "c" .object).bare
    (standard .empty).dot left right = .ok e ∧ Expr.Keeps left e := by
  intro left right e
  have hdot : (standard .empty).dot left right = .ok e := rfl
  have hname : right.dottedName = some "b.c" := by decide
  exact ⟨hdot, (keeps_iff_of_dot hdot).2 fun hnone => by simp [hname] at hnone⟩

/-- On the right of `a`, the property `b` of the call `f(x)` stays what it is, and `a` is gone. -/
theorem not_keeps_of_dot_call :
    ∃ left right e : Expr, Expr.parse (standard .empty) "a" = .ok left ∧
      Expr.parse (standard .empty) "f(x).b" = .ok right ∧
      (standard .empty).dot left right = .ok e ∧
      Expr.parse (standard .empty) "a.(f(x).b)" = .ok e ∧ ¬Expr.Keeps left e := by
  have hname : ∀ name ∈ ["a", "b", "x"], Grammar.Derives (standard .empty) 9
      [.identifier name] (Kind.var name .object).bare := by
    have hliteral : ∀ name ∈ ["a", "b", "x"], Expr.IsName name := by
      simp only [Expr.IsName]
      decide
    exact fun name hmem => Expr.derives_name (hliteral name hmem)
  have hitems : ∀ i ∈ [([Token.identifier "x"], (Kind.var "x" .object).bare)],
      Grammar.Derives (standard .empty) 1 i.1 i.2 := by
    simpa using (hname "x" (by simp)).loosen (by decide : 1 ≤ 9)
  let call := (Kind.call "f" .object [(Kind.var "x" .object).bare]).bare
  let property := (Kind.property call "b" .object).bare
  have hcall := Grammar.Derives.call hitems (rfl : (standard .empty).called "f" _ = .ok call)
  have hright := Grammar.Derives.dot (hcall.loosen (by decide : 8 ≤ 9)) (hname "b" (by simp))
    (rfl : (standard .empty).dot _ _ = .ok property)
  -- behind the dot of `a` the property is the same as by itself
  have hwhole := Grammar.Derives.dot ((hname "a" (by simp)).loosen (by decide : 8 ≤ 9))
    (.group (hright.loosen (by decide : 1 ≤ 8)))
    (rfl : (standard .empty).dot _ _ = .ok property)
  refine ⟨_, _, _, (hname "a" (by simp)).parse_eq (by decide) ?_,
    hright.parse_eq (by decide) ?_, rfl, hwhole.parse_eq (by decide) ?_, ?_⟩
  · decide +kernel
  · decide +kernel
  · decide +kernel
  · intro hkeeps
    cases hkeeps with
    | chain hbase =>
      -- the chain goes through the call alone
      obtain ⟨⟩ | ⟨_, ⟨⟩⟩ := hbase

end Context

/-- The name of a property that does not have the dotted name of a variable is that of none. -/
theorem Kind.IsCollapsed.variableType?_eq {environment : Environment} {kind : Kind}
    (h : kind.IsCollapsed environment) (hproperty : kind.isProperty = true) {path : String}
    (hpath : Context.pathOf? kind.bare = some path) : environment.variableType? path = none := by
  cases kind with
  | property base name type =>
    rw [Context.pathOf?_property] at hpath
    split at hpath
    next => cases hpath
    next hunit =>
      obtain ⟨front, hfront, rfl⟩ := Option.map_eq_some_iff.1 hpath
      exact h ((Bool.not_eq_true _).mp hunit) front hfront
  | _ => cases hproperty

namespace Grammar

/-- `Passes ctx ts kind path`: among the tokens `ts` a chain in parentheses stands behind a dot, as
in `left.(b.c.d)`, and the node `kind` with the dotted name `path` is one of those in front of the
last, as `left.b` and `left.b.c` are. No dot looks up their names. -/
inductive Passes (ctx : Context) (ts : List Token) : Kind → String → Prop
  /-- What the chain goes through, on the left side of the dot. -/
  | intro {us vs : List Token} {left right inner : Expr} {path rest : String}
      (hdot : us ++ .operator .dot :: vs <:+: ts) (hleft : Derives ctx 8 us left)
      (hright : Derives ctx 9 vs right) (hpath : Context.pathOf? left = some path)
      (hinner : inner ∈ right.bases) (hrest : Context.pathOf? inner.kind.bare = some rest) :
      Passes ctx ts (Expr.graft left inner).kind (path ++ "." ++ rest)

/-- What has been passed by is a property of that name. -/
theorem Passes.isProperty {ctx : Context} {ts : List Token} {kind : Kind} {path : String}
    (h : Passes ctx ts kind path) :
    kind.isProperty = true ∧ Context.pathOf? kind.bare = some path := by
  obtain @⟨us, vs, left, right, inner, path, rest, -, -, -, hpath, -, hrest⟩ := h
  constructor
  · -- what is hung on the left side has a name, so it is a variable, which becomes a property, or
    -- a property
    obtain ⟨kind, unit⟩ := inner
    cases kind with
    | var | property => rfl
    | _ => simp [Context.pathOf?, Kind.bare, Expr.dottedName] at hrest
  · rw [Expr.graft_bare, Context.pathOf?_graft hpath, hrest]
    rfl

variable {environment : Environment}

/-- What has been passed by stands in parentheses behind a dot. -/
theorem Passes.parenthesized {ts : List Token} {kind : Kind} {path : String}
    (h : Passes (.standard environment) ts kind path) :
    [.operator .dot, .leftParen] <:+: ts := by
  obtain @⟨us, vs, left, right, inner, path, rest, hdot, -, hright, -, hinner, -⟩ := h
  -- the right side has bases, so it is a property, and a primary is one only in parentheses
  have hproperty : right.kind.isProperty = true := by
    obtain ⟨kind, unit⟩ := right
    cases kind with
    | property => rfl
    | _ => cases hinner
  obtain ⟨vs, rfl⟩ :=
    List.head?_eq_some_iff.1 (hright.head?_of_isProperty (Nat.le_refl 9) hproperty)
  exact List.IsInfix.trans ⟨us, vs, by simp⟩ hdot

/-- The node is no property with the dotted name of a variable, or it has been passed by. -/
def IsSettled (ctx : Context) (ts : List Token) (kind : Kind) : Prop :=
  kind.IsCollapsed ctx.environment ∨
    ∃ path, Passes ctx ts kind path ∧ ctx.environment.variableType? path ≠ none

/-- A chain whose name is looked up in vain is settled. -/
theorem IsSettled.of_forall {ctx : Context} {ts : List Token} {kind : Kind}
    (h : ∀ path, Context.pathOf? kind.bare = some path →
      ctx.environment.variableType? path = none) : IsSettled ctx ts kind :=
  .inl (Kind.isCollapsed_of_forall h)

/-- What a chain in parentheses goes through is settled on the left side of the dot. -/
theorem IsSettled.graft {ctx : Context} {ts us vs : List Token} {left right inner : Expr}
    {path : String} (hdot : us ++ .operator .dot :: vs <:+: ts) (hleft : Derives ctx 8 us left)
    (hright : Derives ctx 9 vs right) (hpath : Context.pathOf? left = some path)
    (hinner : inner ∈ right.bases) : IsSettled ctx ts (Expr.graft left inner).kind := by
  by_cases hnone : ∀ path, Context.pathOf? (Expr.graft left inner).kind.bare = some path →
      ctx.environment.variableType? path = none
  · exact .of_forall hnone
  · push Not at hnone
    obtain ⟨whole, hwhole, htype⟩ := hnone
    rw [Expr.graft_bare, Context.pathOf?_graft hpath] at hwhole
    obtain ⟨rest, hrest, rfl⟩ := Option.map_eq_some_iff.1 hwhole
    exact .inr ⟨_, .intro hdot hleft hright hpath hinner hrest, htype⟩

/-- What a dot makes of settled nodes is settled. -/
theorem IsSettled.of_dot {ctx : Context} {ts us vs : List Token} {left right e : Expr}
    (hmiddle : us ++ .operator .dot :: vs <:+: ts) (hleft : Derives ctx 8 us left)
    (hright : Derives ctx 9 vs right) (hdot : ctx.dot left right = .ok e)
    (hallleft : ∀ n ∈ left.nodes, IsSettled ctx ts n.kind)
    (hallright : ∀ n ∈ right.nodes, IsSettled ctx ts n.kind) :
    ∀ n ∈ e.nodes, IsSettled ctx ts n.kind := by
  obtain ⟨hjoins, -⟩ := Context.dot_eq_ok_iff.1 hdot
  obtain ⟨kind, unit⟩ := e
  obtain ⟨right, unit'⟩ := right
  have hvar : ∀ name type, IsSettled ctx ts (.var name type) := fun _ _ => .inl trivial
  dsimp only at hjoins
  -- the new node on top is looked up by this dot, and what is below it was settled before, unless
  -- the chain on the right is taken apart to be hung on the left side
  cases hjoins with
  | name name type =>
    refine Expr.forall_nodes_withUnit
      (Context.forall_nodes_collapse hvar IsSettled.of_forall ?_) unit
    simpa [Kind.bare, Expr.children] using hallleft
  | chain hpath base name type =>
    have hgraft : Expr.graft left (Kind.property base name type).bare =
        (Kind.property (Expr.graft left base) name type).bare := rfl
    rw [hgraft]
    refine Expr.forall_nodes_withUnit
      (Context.forall_nodes_collapse hvar IsSettled.of_forall ?_) unit
    simp only [Kind.bare, Expr.children, List.mem_singleton, forall_eq]
    intro n hn
    cases hname : base.dottedName with
    | none =>
      -- no name starts the chain, which stays as it was on the right
      rw [Expr.graft_of_dottedName_eq_none left hname] at hn
      exact hallright n (Expr.nodes_subset (by simp [Expr.children]) hn)
    | some rest =>
      rcases Expr.mem_nodes_graft (by simp [hname]) hn with hn | ⟨inner, hinner, rfl⟩
      · exact hallleft n hn
      · exact .graft hmiddle hleft hright hpath hinner
  | call hpath hresult =>
    rw [Expr.forall_mem_nodes] at hallright
    exact Expr.forall_mem_nodes.2 ⟨.inl trivial, hallright.2⟩

/-- What tokens mean is settled at every node. -/
theorem Derives.isSettled {p : Nat} {ts whole : List Token} {e : Expr}
    (h : Derives (.standard environment) p ts e) (hts : ts <:+: whole) :
    ∀ n ∈ e.nodes, IsSettled (.standard environment) whole n.kind := by
  have hplain : ∀ kind : Kind, kind.isProperty = false →
      IsSettled (.standard environment) whole kind := by
    intro kind hproperty
    cases kind with
    | property => cases hproperty
    | _ => exact .inl trivial
  exact h.forall_nodes (fun kind hproperty _ => hplain kind hproperty) (fun _ _ => hplain _ rfl)
    IsSettled.of_dot hts

end Grammar

namespace Expr

variable {environment : Environment}

/-- What a text is read as is settled at every node. -/
theorem isSettled_of_parse {text : String} {e : Expr}
    (h : Expr.parse (.standard environment) text = .ok e) :
    ∀ n ∈ e.nodes, Grammar.IsSettled (.standard environment) (Scan.ofText text).tokens n.kind := by
  obtain ⟨-, hformula⟩ := Grammar.Formula.of_parse h
  generalize (Scan.ofText text).tokens = ts at hformula
  cases hformula with
  | empty => exact forall_mem_nodes.2 ⟨.inl trivial, by simp [boolean, Kind.bare, children]⟩
  | level hderives => exact hderives.isSettled List.infix_rfl
  | clause hderives => exact hderives.isSettled (List.prefix_append ..).isInfix

/-- No property has the dotted name of a variable in what a text is read as, if no parenthesis
stands behind a dot. -/
theorem isCollapsed_of_unparenthesized {text : String} {e : Expr}
    (h : Expr.parse (.standard environment) text = .ok e)
    (hparen : ¬[.operator .dot, .leftParen] <:+: (Scan.ofText text).tokens) :
    ∀ n ∈ e.nodes, n.kind.IsCollapsed environment := by
  intro n hn
  rcases isSettled_of_parse h n hn with hcollapsed | ⟨path, hpasses, -⟩
  · exact hcollapsed
  · exact absurd hpasses.parenthesized hparen

/-- A node of what a text is read as is no property with the dotted name of a variable exactly if
it has been passed by under the name of no variable. -/
theorem isCollapsed_iff_of_parse {text : String} {e : Expr}
    (h : Expr.parse (.standard environment) text = .ok e) {n : Expr} (hn : n ∈ e.nodes) :
    n.kind.IsCollapsed environment ↔
      ∀ path, Grammar.Passes (.standard environment) (Scan.ofText text).tokens n.kind path →
        environment.variableType? path = none := by
  constructor
  · intro hcollapsed path hpasses
    obtain ⟨hproperty, hpath⟩ := hpasses.isProperty
    exact hcollapsed.variableType?_eq hproperty hpath
  · intro hnone
    rcases isSettled_of_parse h n hn with hcollapsed | ⟨path, hpasses, htype⟩
    · exact hcollapsed
    · exact absurd (hnone path hpasses) htype

/-- The chain `b.c` in parentheses brings the property `a.b` behind the dot of `a`, where no dot
looks its name up. -/
theorem exists_of_parse_parenthesized :
    let environment : Environment := ⟨[("a.b", .number)], []⟩
    ∃ e, Expr.parse (.standard environment) "a.(b.c)" = .ok e ∧
      ∃ n ∈ e.nodes, n.kind.isProperty = true ∧ n.carriesUnit = false ∧
        n.dottedName = some "a.b" := by
  intro environment
  have hread : (Expr.parse (.standard environment) "a.(b.c)").toOption.map (fun e =>
      e.bases.map fun b => (b.kind.isProperty, b.carriesUnit, b.dottedName)) =
        some [(true, false, some "a.b"), (false, false, some "a")] := by decide +kernel
  cases hparse : Expr.parse (.standard environment) "a.(b.c)" with
  | error err =>
    rw [hparse] at hread
    cases hread
  | ok e =>
    rw [hparse] at hread
    have hbases : e.bases.map (fun b => (b.kind.isProperty, b.carriesUnit, b.dottedName)) =
        [(true, false, some "a.b"), (false, false, some "a")] := Option.some.inj hread
    obtain ⟨n, hn, hnode⟩ := List.mem_map.1 (hbases ▸ List.mem_cons_self)
    simp only [Prod.mk.injEq] at hnode
    exact ⟨e, rfl, n, e.bases_subset_nodes hn, hnode⟩

/-- In `a.(b.c)` the property `a.b` stays, though `a.b` is a variable. -/
theorem parse_passed_property :
    let environment : Environment := ⟨[("a.b", .number)], []⟩
    environment.Reachable ∧ ∃ e, Expr.parse (.standard environment) "a.(b.c)" = .ok e ∧
      ∃ n ∈ e.nodes, n.kind.isProperty = true ∧ n.carriesUnit = false ∧
        n.dottedName = some "a.b" ∧ environment.variableType? "a.b" = some .number := by
  intro environment
  have hreach : Environment.Reachable environment :=
    .register (r := .binding "a.b" .number) .refl rfl
  obtain ⟨e, hparse, n, hn, hproperty, hunit, hname⟩ := exists_of_parse_parenthesized
  exact ⟨hreach, e, hparse, n, hn, hproperty, hunit, hname, rfl⟩

/-- In `a.(b.c)` the variable `a.b` has been passed by. -/
theorem passes_of_parse_parenthesized :
    let environment : Environment := ⟨[("a.b", .number)], []⟩
    ∃ e, Expr.parse (.standard environment) "a.(b.c)" = .ok e ∧ ∃ n ∈ e.nodes, ∃ path,
      Grammar.Passes (.standard environment) (Scan.ofText "a.(b.c)").tokens n.kind path ∧
        environment.variableType? path ≠ none := by
  intro environment
  obtain ⟨e, hparse, n, hn, hproperty, hunit, hname⟩ := exists_of_parse_parenthesized
  refine ⟨e, hparse, n, hn, ?_⟩
  -- otherwise the property would not have the name of a variable, but it has that of `a.b`
  by_contra hnone
  push Not at hnone
  have hcollapsed := (isCollapsed_iff_of_parse hparse hn).2 hnone
  have hpath : Context.pathOf? n = some "a.b" := Context.pathOf?_eq_some_iff.2 ⟨hunit, hname⟩
  have htype := hcollapsed.variableType?_eq hproperty (Context.bare_of_pathOf? hpath ▸ hpath)
  cases htype

end Expr

end Formulas
