import Formulas.Proofs.Expr.Chains
import Formulas.Proofs.Grammar.Exactness
import Formulas.Proofs.Text.Case

/-!
# Parsed expressions are well-formed

What the tokens of a text mean is a well-formed expression at every node. Names come from tokens, so
they hold no closing bracket, and a name that is a literal is read as the literal; a dotted name
holds a point, so it is neither a literal nor the name of a built-in function; and every built-in
function checks the shape of its arguments.

## Main results

* `Context.wellFormed_of_called` and `Context.wellFormed_of_dot`: calls and dots make well-formed
  nodes of well-formed expressions;
* `Grammar.Derives.wellFormed`: an operand of a stratum is well-formed;
* `Expr.wellFormed_of_parse`: so is what a text is read as.
-/

namespace Formulas

/-- The name of no built-in function has a point. -/
theorem Registry.get?_of_point {name : String} (h : '.' ∈ name.toList) :
    standard.get? name = none := by
  have hnames : ∀ entry ∈ standard.entries, '.' ∉ entry.1.toList := by decide
  rw [get?, List.lookup_eq_none_iff]
  intro entry hentry
  rw [bne_iff_ne]
  intro heq
  exact hnames entry hentry (heq ▸ Text.mem_upper (by decide) h)

/-- The functions of the registry are the built-in functions. -/
theorem Registry.mem_standard_of_get? {name : String} {f : Builtin}
    (h : standard.get? name = some f) : f ∈ Builtin.standard := by
  have hfunctions : ∀ entry ∈ standard.entries, entry.2 ∈ Builtin.standard := by decide
  obtain ⟨before, after, heq, -⟩ := List.lookup_eq_some_iff.1 h
  exact hfunctions (Text.upper name, f) (by simp [heq])

/-- A node without a unit is well-formed if its kind and its parts are. -/
theorem Kind.WellFormed.bare {environment : Environment} (kind : Kind)
    (hkind : kind.WellFormed environment)
    (h : ∀ c ∈ kind.bare.children, ∀ n ∈ c.nodes, n.WellFormed environment) :
    ∀ n ∈ kind.bare.nodes, n.WellFormed environment :=
  Expr.forall_mem_nodes.2 ⟨⟨hkind, fun _ hunit => by cases hunit⟩, h⟩

namespace Builtin

/-- A date-time that is built is real and has an offset that can be written. -/
theorem exists_of_buildDateTime {function : String} {default : Option Int}
    (hdefault : ∀ o ∈ default, o.natAbs ≤ 899) {arguments : List Expr} {kind : Kind}
    (h : buildDateTime function default arguments = .ok kind) :
    ∃ d : DateTime, kind = .constant (.dateTime d) ∧ d.IsReal ∧ d.HasOffset := by
  unfold buildDateTime at h
  split at h
  · split at h
    next d hd =>
      cases h
      -- a text without an offset gets the default of the function
      obtain ⟨hreal, hoffset⟩ := DateTime.isReal_of_ofText? hd
      refine ⟨_, rfl, (d.isReal_iff.1 hreal |> (DateTime.isReal_iff _).2), fun o ho => ?_⟩
      rcases Option.or_eq_some_iff.1 ho with ho | ⟨-, ho⟩
      · exact hoffset o ho
      · exact hdefault o ho
    next => cases h
  · split at h
    · split at h
      next d hd =>
        cases h
        refine ⟨d, rfl, DateTime.isReal_of_ofParts? hd, ?_⟩
        rw [DateTime.HasOffset, DateTime.offset_of_ofParts? hd]
        exact hdefault
      next => cases h
    · cases h

/-- The parts of a node that a built-in function makes are some of its arguments in their order, or
one array of them. -/
theorem children_of_build {f : Builtin} {arguments : List Expr} {kind : Kind}
    (h : f.build arguments = .ok kind) :
    kind.bare.children.Sublist arguments ∨ kind.bare.children = [(Kind.array arguments).bare] := by
  have htemporal : ∀ {function : TemporalFunction}, buildTemporal function arguments = .ok kind →
      kind.bare.children.Sublist arguments := by
    intro function h
    unfold buildTemporal at h
    split at h <;> cases h <;> exact .refl _
  cases f <;> simp only [build] at h
  case reducer =>
    split at h
    · cases h
      exact .inl (.refl _)
    · exact .inl (htemporal h)
  case temporal => exact .inl (htemporal h)
  case dateTime | dateTimeOffset =>
    obtain ⟨d, rfl, -⟩ := exists_of_buildDateTime (by simp) h
    exact .inl (List.nil_sublist _)
  case each =>
    split at h <;> cases h
    exact .inl (.cons_cons _ (.cons _ (.refl _)))
  case first =>
    split at h <;> cases h
    exact .inr rfl
  all_goals
    split at h <;> cases h <;> exact .inl (.refl _)

/-- What a built-in function makes of well-formed arguments is well-formed. -/
theorem wellFormed_of_build {environment : Environment} {f : Builtin} (hf : f ∈ standard)
    {arguments : List Expr} (harguments : ∀ a ∈ arguments, a.WellFormed environment) {kind : Kind}
    (h : f.build arguments = .ok kind) : kind.WellFormed environment := by
  have htemporal : ∀ {function : TemporalFunction}, buildTemporal function arguments = .ok kind →
      ∃ child period start measure, kind = .temporal function child period start measure ∧
        (start ≠ none → period ≠ none) ∧ (measure ≠ none → start ≠ none) ∧
          (arguments.length = 1 ∨ period ≠ none) := by
    intro function h
    unfold buildTemporal at h
    split at h <;> cases h <;> exact ⟨_, _, _, _, rfl, by simp⟩
  cases f <;> simp only [build] at h
  case reducer =>
    split at h
    · cases h
      trivial
    next hne =>
      obtain ⟨child, period, start, measure, rfl, hstart, hmeasure, hlength⟩ := htemporal h
      refine ⟨hlength.resolve_left fun hone => ?_, hmeasure⟩
      obtain ⟨a, rfl⟩ := List.length_eq_one_iff.1 hone
      exact hne a rfl
  case temporal function =>
    obtain ⟨child, period, start, measure, rfl, hstart, hmeasure, -⟩ := htemporal h
    -- a reducer over time and the time between values are registered in ways of their own
    have hplain : function ∈ [TemporalFunction.countLeading, .delta, .standardDeviation, .slope,
        .forecast] := by
      cases function with
      | reduce r => cases r <;> exact absurd hf (by decide)
      | deltaTime => exact absurd hf (by decide)
      | _ => decide
    cases function <;> first | exact ⟨hstart, hmeasure⟩ | simp at hplain
  case dateTime =>
    obtain ⟨d, rfl, hd⟩ := exists_of_buildDateTime (by simp) h
    exact hd
  case dateTimeOffset =>
    obtain ⟨d, rfl, hd⟩ := exists_of_buildDateTime (by simp) h
    exact hd
  case each =>
    split at h
    next collection name type unit body =>
      cases h
      have hvar := harguments ⟨.var name type, unit⟩ (by simp)
      exact hvar.kind.1
    next => cases h
    next => cases h
  case first =>
    split at h
    next => cases h
    next hne =>
      cases h
      exact ⟨arguments, by simpa using hne, rfl⟩
  all_goals
    split at h <;> cases h <;> simp_all [Kind.WellFormed, TemporalFunction.Accepts]

end Builtin

namespace Context

/-- A name whose lower case is none of the words that are literals is no literal. -/
theorem literal?_eq_none {name : String}
    (h : ∀ word ∈ ["true", "false", "null", "pi"], Text.lower name ≠ word) :
    literal? name = none := by
  simp only [List.forall_mem_cons] at h
  unfold literal?
  split
  next heq => exact absurd heq h.1
  next heq => exact absurd heq h.2.1
  next heq => exact absurd heq h.2.2.1
  next heq => exact absurd heq h.2.2.2.1
  next => rfl

/-- A name with a point is no literal. -/
theorem literal?_of_point {name : String} (h : '.' ∈ name.toList) : literal? name = none := by
  have hlower := Text.mem_lower (by decide) h
  have hpoint : ∀ word ∈ ["true", "false", "null", "pi"], '.' ∉ word.toList := by decide
  exact literal?_eq_none fun word hmem heq => hpoint word hmem (heq ▸ hlower)

variable {environment : Environment}

/-- A name means a literal or a variable. -/
theorem wellFormed_named {name : String} (h : ']' ∉ name.toList) :
    ∀ n ∈ ((standard environment).named name).nodes, n.WellFormed environment := by
  unfold named
  cases hliteral : literal? name with
  | none =>
    exact Kind.WellFormed.bare (.var ..) ⟨⟨h, hliteral⟩, rfl⟩
      (by simp [Kind.bare, Expr.children])
  | some e =>
    have hleaf : ∀ c : Constant, (Kind.constant c).WellFormed environment →
        ∀ n ∈ (Kind.constant c).bare.nodes, n.WellFormed environment :=
      fun c hc => Kind.WellFormed.bare _ hc (by simp [Kind.bare, Expr.children])
    unfold literal? at hliteral
    split at hliteral <;> cases hliteral
    case h_4 => exact hleaf (.number .pi) (Number.ofDecimal_nonneg ..)
    all_goals exact hleaf _ trivial

/-- A call makes a node without a unit, whose parts are some of its arguments in their order, or one
array of them. -/
theorem children_of_called {name : String} {arguments : List Expr} {e : Expr}
    (h : (standard environment).called name arguments = .ok e) :
    e.unit = none ∧
      (e.children.Sublist arguments ∨ e.children = [(Kind.array arguments).bare]) := by
  unfold called at h
  split at h
  · split at h
    next hbuild =>
      cases h
      exact ⟨rfl, Builtin.children_of_build hbuild⟩
    next => cases h
  · cases h
    exact ⟨rfl, .inl (.refl _)⟩

/-- A call of well-formed expressions means a well-formed one. -/
theorem wellFormed_of_called {name : String} (hname : ']' ∉ name.toList) {arguments : List Expr}
    (harguments : ∀ a ∈ arguments, ∀ n ∈ a.nodes, n.WellFormed environment) {e : Expr}
    (h : (standard environment).called name arguments = .ok e) :
    ∀ n ∈ e.nodes, n.WellFormed environment := by
  obtain ⟨hunit, hchildren⟩ := children_of_called h
  rw [Expr.forall_mem_nodes]
  refine ⟨⟨?_, by simp [hunit]⟩, ?_⟩
  · unfold called at h
    split at h
    next f hregistry =>
      split at h
      next hbuild =>
        cases h
        exact Builtin.wellFormed_of_build (Registry.mem_standard_of_get? hregistry)
          (fun a ha => harguments a ha a a.mem_nodes_self) hbuild
      next => cases h
    next hregistry =>
      cases h
      exact ⟨hname, hregistry, rfl⟩
  · rcases hchildren with hsublist | harray
    · exact fun c hc => harguments c (hsublist.subset hc)
    · rw [harray]
      simp only [List.mem_singleton, forall_eq]
      exact Kind.WellFormed.bare (.array arguments) trivial harguments

/-- A dotted name of names without closing brackets has none. -/
theorem bracket_notMem_dottedName {e : Expr} (h : ∀ n ∈ e.nodes, n.WellFormed environment)
    {path : String} (hpath : e.dottedName = some path) : ']' ∉ path.toList := by
  fun_induction Expr.dottedName e generalizing path with
  | case1 name type unit =>
    cases hpath
    exact (h _ (Expr.mem_nodes_self _)).kind.1.1
  | case2 base name type unit ih =>
    obtain ⟨inner, hinner, rfl⟩ := Option.map_eq_some_iff.1 hpath
    rw [Expr.forall_mem_nodes] at h
    have hname : ']' ∉ name.toList := h.1.kind.1.1
    have hbase := ih (h.2 base (by simp [Expr.children])) hinner
    simp [hname, hbase]
  | case3 => cases hpath

/-- A chain of properties of well-formed expressions that is collapsed is well-formed. -/
theorem wellFormed_collapse {base : Expr} {name : String} {type : ValueType} {unit : Option String}
    (h : ∀ n ∈ Expr.nodes ⟨.property base name type, unit⟩, n.WellFormed environment) :
    ∀ n ∈ ((standard environment).collapse ⟨.property base name type, unit⟩).nodes,
      n.WellFormed environment := by
  unfold collapse
  split
  next => exact h
  next path hpath =>
    split
    next type' htype =>
      have hdotted := dottedName_of_pathOf? hpath
      -- the dotted name of a property has the point in front of its last name
      have hpoint : '.' ∈ path.toList := by
        obtain ⟨inner, -, rfl⟩ := Option.map_eq_some_iff.1 hdotted
        simp
      have htype : type' = environment.variableType path := by
        change environment.variableType? path = some type' at htype
        rw [Environment.variableType, htype, Option.getD_some]
      exact Kind.WellFormed.bare (.var path type')
        ⟨⟨bracket_notMem_dottedName h hdotted, literal?_of_point hpoint⟩, htype⟩
        (by simp [Kind.bare, Expr.children])
    next => exact h

/-- A chain of properties that is grafted on a well-formed expression is well-formed. -/
theorem wellFormed_graft {root e : Expr} (hroot : ∀ n ∈ root.nodes, n.WellFormed environment)
    (he : ∀ n ∈ e.nodes, n.WellFormed environment) :
    ∀ n ∈ (Expr.graft root e).nodes, n.WellFormed environment := by
  fun_induction Expr.graft root e with
  | case1 name type unit =>
    obtain ⟨hkind, hunit⟩ := he _ (Expr.mem_nodes_self _)
    rw [Expr.forall_mem_nodes]
    exact ⟨⟨⟨hkind.1, rfl⟩, hunit⟩, by simpa [Expr.children] using hroot⟩
  | case2 base name type unit ih =>
    rw [Expr.forall_mem_nodes] at he ⊢
    have hbase := ih (he.2 base (by simp [Expr.children]))
    exact ⟨⟨he.1.kind, he.1.unit⟩, by simpa [Expr.children] using hbase⟩
  | case3 => exact he

/-- A well-formed expression stays so with another unit. -/
theorem wellFormed_withUnit {e : Expr} (h : ∀ n ∈ e.nodes, n.WellFormed environment)
    {unit : Option String} (hunit : ∀ u ∈ unit, Expr.IsUnit u) :
    ∀ n ∈ Expr.nodes ⟨e.kind, unit⟩, n.WellFormed environment := by
  rw [Expr.forall_mem_nodes] at h ⊢
  exact ⟨⟨h.1.kind, hunit⟩, h.2⟩

/-- What a dot makes of well-formed expressions is well-formed, units on the right apart. -/
theorem wellFormed_of_joins {left : Expr} {right kind : Kind}
    (hleft : ∀ n ∈ left.nodes, n.WellFormed environment)
    (hright : ∀ n ∈ right.bare.nodes, n.WellFormed environment)
    (h : Joins (standard environment) left right kind) :
    ∀ n ∈ kind.bare.nodes, n.WellFormed environment := by
  cases h with
  | name name type =>
    have hvar := hright _ (Expr.mem_nodes_self _)
    refine wellFormed_withUnit (wellFormed_collapse ?_) (by simp)
    exact Kind.WellFormed.bare (.property left name .object) ⟨hvar.kind.1, rfl⟩
      (by simpa [Kind.bare, Expr.children] using hleft)
  | chain hpath base name type =>
    exact wellFormed_withUnit (wellFormed_collapse (wellFormed_graft hleft hright)) (by simp)
  | @call path hpath name type result arguments hresult =>
    -- with a point in it, the name of the call is no built-in function's
    have hpoint : '.' ∈ (path ++ "." ++ name).toList := by simp
    have hpathname : ']' ∉ path.toList :=
      bracket_notMem_dottedName hleft (dottedName_of_pathOf? hpath)
    rw [Expr.forall_mem_nodes] at hright
    have hname : ']' ∉ name.toList := hright.1.kind.1
    refine Kind.WellFormed.bare _ ⟨?_, Registry.get?_of_point hpoint, ?_⟩ hright.2
    · simp [hname, hpathname]
    · have hresult : environment.resultType? (path ++ "." ++ name) arguments.length =
        some result := hresult
      rw [hresult, Option.getD_some]

/-- A dot between well-formed expressions makes a well-formed one. -/
theorem wellFormed_of_dot {left right e : Expr}
    (hleft : ∀ n ∈ left.nodes, n.WellFormed environment)
    (hright : ∀ n ∈ right.nodes, n.WellFormed environment)
    (h : (standard environment).dot left right = .ok e) :
    ∀ n ∈ e.nodes, n.WellFormed environment := by
  obtain ⟨hjoins, hunit⟩ := dot_eq_ok_iff.1 h
  obtain ⟨kind, unit⟩ := e
  have hkind := wellFormed_of_joins hleft (wellFormed_withUnit hright (by simp)) hjoins
  refine wellFormed_withUnit hkind fun u hu => ?_
  exact (hright _ right.mem_nodes_self).unit u (hunit ▸ hu)

end Context

/-- The canonical name of a word that can be a unit is a unit. -/
theorem Expr.isUnit_canonical {word : String} (hword : Grammar.IsUnitWord word)
    (hbracket : ']' ∉ word.toList) : Expr.IsUnit (UnitOfMeasure.canonical word) := by
  unfold UnitOfMeasure.canonical
  cases hlookup : UnitOfMeasure.lookup word with
  | none => exact ⟨hbracket, hword, by rw [UnitOfMeasure.canonical, Option.elim_none, hlookup]; rfl⟩
  | some unit =>
    -- the word is one of the known units, and stands for the name of the unit
    have hmem := List.mem_of_find?_eq_some hlookup
    have hnames : ∀ unit ∈ UnitOfMeasure.all, ']' ∉ unit.name.toList ∧
        Text.sameIgnoringCase unit.name "AND" = false ∧
          Text.sameIgnoringCase unit.name "OR" = false := by decide
    obtain ⟨hname, hand, hor⟩ := hnames unit hmem
    refine ⟨hname, ⟨hand, hor⟩, ?_⟩
    have hself := UnitOfMeasure.lookup_name unit hmem
    obtain ⟨unit', hunit', hname'⟩ := Option.map_eq_some_iff.1 hself
    rw [UnitOfMeasure.canonical, Option.elim_some, hunit']
    exact hname'

namespace Grammar

variable {environment : Environment}

/-- What written tokens mean is well-formed at every node. -/
theorem Derives.wellFormed {p : Nat} {ts : List Token} {e : Expr}
    (h : Derives (.standard environment) p ts e) (hts : ∀ t ∈ ts, t.Written) :
    ∀ n ∈ e.nodes, n.WellFormed environment := by
  induction h with
  | tighter _ ih => exact ih hts
  | @binary _ op node _ _ _ left right _ _ _ _ _ ihleft ihright =>
    simp only [List.forall_mem_append, List.forall_mem_cons] at hts
    refine Kind.WellFormed.bare (.binary node left right) trivial ?_
    simpa [Kind.bare, Expr.children] using ⟨ihleft hts.1, ihright hts.2.2⟩
  | @union _ _ left right _ _ ihleft ihright =>
    simp only [List.forall_mem_append, List.forall_mem_cons] at hts
    refine Kind.WellFormed.bare (.union [left, right])
      (by simp [Kind.WellFormed]) ?_
    simpa [Kind.bare, Expr.children] using ⟨ihleft hts.1, ihright hts.2.2⟩
  | dot _ _ hdot ihleft ihright =>
    simp only [List.forall_mem_append, List.forall_mem_cons] at hts
    exact Context.wellFormed_of_dot (ihleft hts.1) (ihright hts.2.2) hdot
  | @signed op _ e _ ih =>
    rw [List.forall_mem_cons] at hts
    refine Kind.WellFormed.bare (.unary op e) trivial ?_
    simpa [Kind.bare, Expr.children] using ih hts.2
  | group _ ih =>
    simp only [List.forall_mem_append, List.forall_mem_cons] at hts
    exact ih hts.2.1
  | @array items _ ih =>
    simp only [List.forall_mem_append, List.forall_mem_cons] at hts
    refine Kind.WellFormed.bare (.array (items.map Prod.snd)) trivial fun c hc => ?_
    obtain ⟨i, hi, rfl⟩ := List.mem_map.1 hc
    exact ih i hi fun t ht => hts.2.1 t ((Token.infix_separated (List.mem_map_of_mem hi)).subset ht)
  | number x =>
    exact Kind.WellFormed.bare (.constant (.number x)) (hts (.number x) (by simp))
      (by simp [Kind.bare, Expr.children])
  | string s =>
    exact Kind.WellFormed.bare (.constant (.string s)) trivial
      (by simp [Kind.bare, Expr.children])
  | name n => exact Context.wellFormed_named (hts (.identifier n) (by simp))
  | call _ hcall ih =>
    simp only [List.forall_mem_append, List.forall_mem_cons] at hts
    refine Context.wellFormed_of_called hts.1 (fun a ha => ?_) hcall
    obtain ⟨i, hi, rfl⟩ := List.mem_map.1 ha
    exact ih i hi fun t ht =>
      hts.2.2.1 t ((Token.infix_separated (List.mem_map_of_mem hi)).subset ht)
  | unit _ hword ih =>
    simp only [List.forall_mem_append, List.forall_mem_cons] at hts
    have hunit := Expr.isUnit_canonical hword hts.2.1
    exact Context.wellFormed_withUnit (ih hts.1) (by simpa using hunit)

end Grammar

/-- A text is read as an expression that is well-formed at every node. -/
theorem Expr.wellFormed_of_parse {environment : Environment} {text : String} {e : Expr}
    (h : Expr.parse (.standard environment) text = .ok e) :
    ∀ n ∈ e.nodes, n.WellFormed environment := by
  obtain ⟨-, hformula⟩ := Grammar.Formula.of_parse h
  -- the tokens that a scan can hold are restricted, and with them the names and the numbers
  have hwritten : ∀ t ∈ (Scan.ofText text).tokens, t.Written :=
    fun t ht => Scanner.written_of_mem_scan ht
  generalize (Scan.ofText text).tokens = ts at hformula hwritten
  cases hformula with
  | empty =>
    exact Kind.WellFormed.bare (.constant (.boolean true)) trivial
      (by simp [Kind.bare, Expr.children])
  | level hderives => exact hderives.wellFormed hwritten
  | clause hderives =>
    exact hderives.wellFormed fun t ht => hwritten t (List.mem_append_left _ ht)

end Formulas
