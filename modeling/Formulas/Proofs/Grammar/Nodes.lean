import Formulas.Proofs.Parser.WellFormed

/-!
# The nodes of what tokens mean

A node of what tokens mean comes from one token, from a rule that puts a new node above others, or
from a dot, which alone makes properties. What holds of all nodes is therefore shown for the nodes
that are no properties, whatever stands below them, and for what a dot makes.

## Main definitions

* `Kind.isProperty` and `Kind.isBuilt`: the nodes that have a dot, and those that built-in functions
  make.

## Main results

* `Builtin.isBuilt_of_build`: what built-in functions make;
* `Grammar.Derives.forall_nodes`: what holds of all nodes that tokens mean;
* `Grammar.Derives.head?_of_isProperty`: where the right side of a dot can be a chain of properties.
-/

namespace Formulas

/-- The node has a dot in front of its name. -/
def Kind.isProperty : Kind → Bool
  | .property .. => true
  | _ => false

/-- A built-in function can make the node. -/
def Kind.isBuilt : Kind → Bool
  | .constant (.dateTime _) | .ternary .. | .union _ | .tuple _ | .reduce .. | .temporal ..
  | .first _ | .failed _ | .timer .. | .each .. => true
  | _ => false

/-- What a built-in function makes is a node of such functions. -/
theorem Builtin.isBuilt_of_build {f : Builtin} {arguments : List Expr} {kind : Kind}
    (h : f.build arguments = .ok kind) : kind.isBuilt = true := by
  have htemporal : ∀ {function : TemporalFunction}, buildTemporal function arguments = .ok kind →
      kind.isBuilt = true := by
    intro function h
    unfold buildTemporal at h
    split at h <;> cases h <;> rfl
  cases f <;> simp only [build] at h
  case reducer =>
    split at h
    · cases h
      rfl
    · exact htemporal h
  case temporal => exact htemporal h
  case dateTime | dateTimeOffset =>
    obtain ⟨d, rfl, -⟩ := exists_of_buildDateTime (by simp) h
    rfl
  all_goals
    split at h <;> cases h <;> rfl

namespace Context

variable {environment : Environment}

/-- A name means a single node, which is no property, and `π` if it is a number. -/
theorem leaf_named (ctx : Context) (name : String) :
    (ctx.named name).children = [] ∧ (ctx.named name).kind.isProperty = false ∧
      ∀ x, (ctx.named name).kind = .constant (.number x) → x = .pi := by
  unfold named
  cases hliteral : literal? name with
  | none => exact ⟨rfl, rfl, by simp [Kind.bare]⟩
  | some e =>
    unfold literal? at hliteral
    split at hliteral <;> cases hliteral
    case h_4 => exact ⟨rfl, rfl, fun x hx => (Constant.number.inj (Kind.constant.inj hx)).symm⟩
    all_goals exact ⟨rfl, rfl, by simp [Expr.boolean, Expr.null, Kind.bare]⟩

/-- A call means what a built-in function makes, or a call. -/
theorem isBuilt_or_call_of_called {name : String} {arguments : List Expr} {e : Expr}
    (h : (standard environment).called name arguments = .ok e) :
    e.kind.isBuilt = true ∨ ∃ type, e.kind = .call name type arguments := by
  unfold called at h
  split at h
  · split at h
    next kind hbuild =>
      cases h
      exact .inl (Builtin.isBuilt_of_build hbuild)
    next => cases h
  · cases h
    exact .inr ⟨_, rfl⟩

/-- A call means neither a number nor a property. -/
theorem plain_of_called {name : String} {arguments : List Expr} {e : Expr}
    (h : (standard environment).called name arguments = .ok e) :
    e.kind.isProperty = false ∧ ∀ x, e.kind ≠ .constant (.number x) := by
  rcases isBuilt_or_call_of_called h with hbuilt | ⟨type, hcall⟩
  · cases hkind : e.kind with
    | property => simp [hkind, Kind.isBuilt] at hbuilt
    | constant value =>
      refine ⟨rfl, ?_⟩
      rintro x ⟨⟩
      simp [hkind, Kind.isBuilt] at hbuilt
    | _ => exact ⟨rfl, by simp⟩
  · simp [hcall, Kind.isProperty]

/-- What holds of all nodes of the arguments, and of every node that is neither a number nor a
property, holds of all nodes of a call. -/
theorem forall_nodes_of_called {P : Kind → Prop}
    (hplain : ∀ kind : Kind, kind.isProperty = false → (∀ x, kind ≠ .constant (.number x)) → P kind)
    {name : String} {arguments : List Expr} (harguments : ∀ a ∈ arguments, ∀ n ∈ a.nodes, P n.kind)
    {e : Expr} (h : (standard environment).called name arguments = .ok e) :
    ∀ n ∈ e.nodes, P n.kind := by
  obtain ⟨hproperty, hnumber⟩ := plain_of_called h
  rw [Expr.forall_mem_nodes]
  refine ⟨hplain e.kind hproperty hnumber, ?_⟩
  rcases (children_of_called h).2 with hsublist | harray
  · exact fun c hc => harguments c (hsublist.subset hc)
  · rw [harray]
    simp only [List.mem_singleton, forall_eq]
    exact Expr.forall_mem_nodes.2 ⟨hplain _ rfl (by simp [Kind.bare]), harguments⟩

end Context

namespace Grammar

variable {environment : Environment}

/-- What holds of every node that is neither a number nor a property, of the numbers that are read,
and of what a dot makes if it holds of the nodes on both its sides, holds of all nodes that tokens
mean. -/
theorem Derives.forall_nodes {P : Kind → Prop} {whole : List Token}
    (hplain : ∀ kind : Kind, kind.isProperty = false → (∀ x, kind ≠ .constant (.number x)) → P kind)
    (hnumber : ∀ x, x = .pi ∨ .number x ∈ whole → P (.constant (.number x)))
    (hdot : ∀ {ts us : List Token} {left right e : Expr}, ts ++ .operator .dot :: us <:+: whole →
      Derives (.standard environment) 8 ts left → Derives (.standard environment) 9 us right →
      (Context.standard environment).dot left right = .ok e → (∀ n ∈ left.nodes, P n.kind) →
      (∀ n ∈ right.nodes, P n.kind) → ∀ n ∈ e.nodes, P n.kind)
    {p : Nat} {ts : List Token} {e : Expr} (h : Derives (.standard environment) p ts e)
    (hts : ts <:+: whole) : ∀ n ∈ e.nodes, P n.kind := by
  have hbare : ∀ kind : Kind, kind.isProperty = false → (∀ x, kind ≠ .constant (.number x)) →
      (∀ c ∈ kind.bare.children, ∀ n ∈ c.nodes, P n.kind) → ∀ n ∈ kind.bare.nodes, P n.kind :=
    fun kind hproperty hne hchildren =>
      Expr.forall_mem_nodes.2 ⟨hplain kind hproperty hne, hchildren⟩
  have hitems : ∀ {items : List (List Token × Expr)},
      Token.separated (items.map Prod.fst) <:+: whole →
      (∀ i ∈ items, i.1 <:+: whole → ∀ n ∈ i.2.nodes, P n.kind) →
      ∀ a ∈ items.map Prod.snd, ∀ n ∈ a.nodes, P n.kind := by
    intro items hseparated hall a ha
    obtain ⟨i, hi, rfl⟩ := List.mem_map.1 ha
    exact hall i hi ((Token.infix_separated (List.mem_map_of_mem hi)).trans hseparated)
  induction h with
  | tighter _ ih => exact ih hts
  | @binary _ _ node t ts us left right _ _ _ _ _ ihleft ihright =>
    have hleft := ihleft ((List.prefix_append ..).isInfix.trans hts)
    have hright := ihright (List.IsInfix.trans ⟨ts ++ [t], [], by simp⟩ hts)
    exact hbare (.binary node left right) rfl (by simp)
      (by simpa [Kind.bare, Expr.children] using ⟨hleft, hright⟩)
  | @union ts us left right _ _ ihleft ihright =>
    have hleft := ihleft ((List.prefix_append ..).isInfix.trans hts)
    have hright := ihright (List.IsInfix.trans ⟨ts ++ [.operator .union], [], by simp⟩ hts)
    exact hbare (.union [left, right]) rfl (by simp)
      (by simpa [Kind.bare, Expr.children] using ⟨hleft, hright⟩)
  | @dot ts us _ _ _ hleft hright hjoin ihleft ihright =>
    exact hdot hts hleft hright hjoin (ihleft ((List.prefix_append ..).isInfix.trans hts))
      (ihright (List.IsInfix.trans ⟨ts ++ [.operator .dot], [], by simp⟩ hts))
  | @signed op ts e _ ih =>
    exact hbare (.unary op e) rfl (by simp)
      (by simpa [Kind.bare, Expr.children] using ih ((List.suffix_cons ..).isInfix.trans hts))
  | @group ts _ _ ih =>
    exact ih (List.IsInfix.trans ⟨[.leftParen], [.rightParen], by simp⟩ hts)
  | @array items _ ih =>
    refine hbare (.array (items.map Prod.snd)) rfl (by simp) (hitems ?_ ih)
    exact List.IsInfix.trans ⟨[.leftBrace], [.rightBrace], by simp⟩ hts
  | number x =>
    refine Expr.forall_mem_nodes.2 ⟨hnumber x (.inr (hts.subset (List.mem_singleton_self _))), ?_⟩
    simp [Expr.number, Kind.bare, Expr.children]
  | string s =>
    exact hbare (.constant (.string s)) rfl (by simp) (by simp [Kind.bare, Expr.children])
  | name n =>
    obtain ⟨hchildren, hproperty, hpi⟩ := Context.leaf_named (.standard environment) n
    refine Expr.forall_mem_nodes.2 ⟨?_, by simp [hchildren]⟩
    by_cases hx : ∃ x, ((Context.standard environment).named n).kind = .constant (.number x)
    · obtain ⟨x, hx⟩ := hx
      rw [hx]
      exact hnumber x (.inl (hpi x hx))
    · exact hplain _ hproperty (not_exists.1 hx)
  | @call n items _ _ hcall ih =>
    refine Context.forall_nodes_of_called hplain (hitems ?_ ih) hcall
    exact List.IsInfix.trans ⟨[.identifier n, .leftParen], [.rightParen], by simp⟩ hts
  | unit _ _ ih =>
    exact Expr.forall_nodes_withUnit (ih ((List.prefix_append ..).isInfix.trans hts)) _

/-- A primary that is a property stands in parentheses. -/
theorem Derives.head?_of_isProperty {p : Nat} {ts : List Token} {e : Expr}
    (h : Derives (.standard environment) p ts e) (hp : 9 ≤ p)
    (hproperty : e.kind.isProperty = true) : ts.head? = some .leftParen := by
  induction h with
  | tighter _ ih => exact ih (Nat.le_succ_of_le hp) hproperty
  | group => rfl
  | union | dot | signed => omega
  | binary | array | number | string => cases hproperty
  | name n =>
    rw [(Context.leaf_named _ n).2.1] at hproperty
    cases hproperty
  | call _ hcall =>
    rw [(Context.plain_of_called hcall).1] at hproperty
    cases hproperty
  | unit h _ ih =>
    obtain ⟨t, ts, rfl⟩ := List.exists_cons_of_ne_nil h.ne_nil
    exact ih hp hproperty

end Grammar

end Formulas
