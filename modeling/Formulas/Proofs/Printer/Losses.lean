import Mathlib.Algebra.GroupWithZero.Nat
import Mathlib.Algebra.Order.BigOperators.Group.List
import Mathlib.Algebra.Order.Group.Nat
import Formulas.Proofs.Grammar.Nodes
import Formulas.Proofs.Printer.Tokens

/-!
# What printed expressions lose

Three things are lost in print, and whatever the tokens of a printed expression mean does not have
them: a number that is infinite, since its text is a name; the property of a whole number, since
there are not enough dots; and a chain of properties with the dotted name of a variable, since every
dot that is printed stands in front of a name and is collapsed at once.

## Main definitions

* `Token.Tidy`: no number is infinite and a dot stands in front of a name only;
* `Kind.losesDot`: the nodes whose dot is lost;
* `Expr.tally`: how many nodes are of a kind;
* `Kind.IsResolved`: what tidy tokens can mean.

## Main results

* `Expr.tidy_tokens` and `Expr.count_dot_tokens`: the tokens of a printed expression are tidy, and
  how many dots they hold;
* `Grammar.Derives.isResolved` and `Grammar.Derives.tally_isProperty_le`: what tidy tokens mean, and
  how many dots it takes;
* `Expr.readsBack_of_derives`: an expression that its own tokens mean reads back.
-/

namespace Formulas

/-- No number is infinite, and a dot stands in front of a name only. -/
inductive Token.Tidy : List Token → Prop
  /-- No tokens. -/
  | nil : Tidy []
  /-- A token that is neither an infinite number nor a dot. -/
  | cons {t : Token} {ts : List Token} (hnumber : ∀ negative, t ≠ .number (.infinite negative))
      (hdot : t ≠ .operator .dot) (h : Tidy ts) : Tidy (t :: ts)
  /-- A dot and a name. -/
  | dot (n : String) {ts : List Token} (h : Tidy ts) : Tidy (.operator .dot :: .identifier n :: ts)

namespace Token.Tidy

variable {ts us : List Token}

theorem append (h : Tidy ts) (h' : Tidy us) : Tidy (ts ++ us) := by
  induction h with
  | nil => exact h'
  | cons hnumber hdot _ ih => exact .cons hnumber hdot ih
  | dot n _ ih => exact .dot n ih

theorem identifier (n : String) (h : Tidy ts) : Tidy (.identifier n :: ts) :=
  .cons (by simp) (by simp) h

theorem parenthesized (h : Tidy ts) (needed : Bool) : Tidy (Token.parenthesized needed ts) := by
  cases needed with
  | false => exact h
  | true => exact .cons (by simp) (by simp) (h.append (.cons (by simp) (by simp) .nil))

theorem separated {parts : List (List Token)} (h : ∀ part ∈ parts, Tidy part) :
    Tidy (Token.separated parts) := by
  fun_induction Token.separated parts with
  | case1 => exact .nil
  | case2 part => exact h part (by simp)
  | case3 part parts _ ih =>
    rw [List.forall_mem_cons] at h
    exact h.1.append (.cons (by simp) (by simp) (ih h.2))

theorem call (name : String) {parts : List (List Token)} (h : ∀ part ∈ parts, Tidy part) :
    Tidy (Token.call name parts) :=
  .identifier name (.cons (by simp) (by simp)
    ((separated h).append (.cons (by simp) (by simp) .nil)))

/-- Tidy tokens hold no infinite number. -/
theorem ne_infinite (h : Tidy ts) {t : Token} (ht : t ∈ ts) (negative : Bool) :
    t ≠ .number (.infinite negative) := by
  induction h with
  | nil => cases ht
  | cons hnumber _ _ ih =>
    rcases List.mem_cons.1 ht with rfl | ht
    · exact hnumber negative
    · exact ih ht
  | dot n _ ih =>
    simp only [List.mem_cons] at ht
    rcases ht with rfl | rfl | ht
    · simp
    · simp
    · exact ih ht

/-- What stands behind a dot in tidy tokens is a name. -/
theorem exists_of_infix (h : Tidy ts) {t : Token} (ht : [.operator .dot, t] <:+: ts) :
    ∃ n, t = .identifier n := by
  induction h with
  | nil => simp at ht
  | @cons t' ts _ hdot _ ih =>
    rcases List.infix_cons_iff.1 ht with hfront | hmiddle
    · obtain ⟨rest, hrest⟩ := hfront
      exact absurd (List.cons.inj hrest).1.symm hdot
    · exact ih hmiddle
  | dot n _ ih =>
    rcases List.infix_cons_iff.1 ht with hfront | hmiddle
    · obtain ⟨rest, hrest⟩ := hfront
      obtain ⟨-, hrest⟩ := List.cons.inj hrest
      exact ⟨n, (List.cons.inj hrest).1⟩
    · rcases List.infix_cons_iff.1 hmiddle with hfront | hmiddle
      · obtain ⟨rest, hrest⟩ := hfront
        cases (List.cons.inj hrest).1
      · exact ih hmiddle

end Token.Tidy

/-- No number among the tokens is infinite, and what stands behind a dot is a name. -/
structure Token.Resolves (ts : List Token) : Prop where
  ne_infinite : ∀ t ∈ ts, ∀ negative, t ≠ .number (.infinite negative)
  exists_of_infix : ∀ t, [.operator .dot, t] <:+: ts → ∃ n, t = .identifier n

theorem Token.Resolves.of_infix {ts us : List Token} (h : Resolves ts) (hmiddle : us <:+: ts) :
    Resolves us :=
  ⟨fun t ht => h.ne_infinite t (hmiddle.subset ht),
    fun t ht => h.exists_of_infix t (ht.trans hmiddle)⟩

theorem Token.Tidy.resolves {ts : List Token} (h : Tidy ts) : Resolves ts :=
  ⟨fun _ => h.ne_infinite, fun _ => h.exists_of_infix⟩

namespace Token

theorem count_dot_parenthesized (needed : Bool) (ts : List Token) :
    (parenthesized needed ts).count (.operator .dot) = ts.count (.operator .dot) := by
  cases needed <;> simp [parenthesized]

theorem count_dot_separated (parts : List (List Token)) :
    (separated parts).count (.operator .dot) = (parts.map (·.count (.operator .dot))).sum := by
  fun_induction separated parts with
  | case1 => rfl
  | case2 part => simp
  | case3 part parts _ ih => simp [ih]

theorem count_dot_call (name : String) (parts : List (List Token)) :
    (call name parts).count (.operator .dot) = (parts.map (·.count (.operator .dot))).sum := by
  simp [call, count_dot_separated]

end Token

/-- The node has a dot that the whole number in front of it takes for its point. -/
def Kind.losesDot : Kind → Bool
  | .property base _ _ => base.isWhole
  | _ => false

namespace Expr

/-- The tokens of a literal are tidy. -/
theorem tidy_constant (c : Constant) : Token.Tidy c.tokens := by
  cases c with
  | boolean b => exact .identifier _ .nil
  | null => exact .identifier _ .nil
  | string s => exact .cons (by simp) (by simp) .nil
  | dateTime d => exact .call _ (by simpa using .cons (by simp) (by simp) .nil)
  | number x =>
    cases x with
    | infinite negative => exact .identifier _ .nil
    | _ => exact .cons (by simp [Number.token]) (by simp [Number.token]) .nil

/-- The tokens of a printed expression are tidy. -/
theorem tidy_tokens (e : Expr) : Token.Tidy e.tokens := by
  refine induction_on_written (Q := fun _ => True) (R := fun e => Token.Tidy e.tokens)
    (fun kind unit _ hpart hargument => ?_) fun _ _ => trivial
  have hkind : Token.Tidy kind.tokens := by
    cases kind using Kind.cases_written with
    | call kind name arguments hcall =>
      rw [Kind.tokens_of_call? hcall]
      exact .call name fun part hpart => by
        obtain ⟨a, ha, rfl⟩ := List.mem_map.1 hpart
        exact hargument name arguments hcall a ha
    | constant c => exact tidy_constant c
    | var name type => exact .identifier name .nil
    | property base name type =>
      have hbase := (hpart base (by simp [children])).parenthesized
        (base.precedence < Operator.dot.precedence)
      rw [Kind.tokens]
      refine hbase.append ?_
      -- behind a whole number the dot is part of the number's token
      split
      · exact .identifier name .nil
      · exact .dot name .nil
    | binary op left right =>
      have hleft := (hpart left (by simp [children])).parenthesized
        (left.needsParensLeft op.operator)
      have hright := (hpart right (by simp [children])).parenthesized
        (right.needsParensRight op.operator)
      exact hleft.append (.cons (by simp) (by cases op <;> simp [BinaryOp.operator]) hright)
    | unary op operand =>
      have hoperand := (hpart operand (by simp [children])).parenthesized
        (operand.precedence < op.operator.precedence)
      cases op <;> exact .cons (by simp [UnaryOp.sign]) (by simp [UnaryOp.sign]) hoperand
    | union left right =>
      have hleft := (hpart left (by simp [children])).parenthesized (left.needsParensLeft .union)
      have hright := (hpart right (by simp [children])).parenthesized
        (right.needsParensRight .union)
      exact hleft.append (.cons (by simp) (by simp) hright)
    | array items =>
      have hitems : Token.Tidy (Token.separated (items.map tokens)) :=
        .separated fun part hmem => by
          obtain ⟨i, hi, rfl⟩ := List.mem_map.1 hmem
          exact hpart i hi
      rw [Kind.tokens, tokenLists_eq_map]
      exact .cons (by simp) (by simp) (hitems.append (.cons (by simp) (by simp) .nil))
    | each collection name body =>
      refine .call "EACH" ?_
      simp only [List.forall_mem_cons, List.not_mem_nil, false_implies, implies_true, and_true]
      exact ⟨hpart collection (by simp [children]), .identifier name .nil,
        hpart body (by simp [children])⟩
  -- a unit stands behind the node, as one more name
  cases unit with
  | none => exact hkind
  | some unit => exact (hkind.parenthesized _).append (.identifier unit .nil)

/-- How many nodes are of a kind with the property. -/
def tally (p : Kind → Bool) (e : Expr) : Nat := e.nodes.countP fun n => p n.kind

/-- The nodes of a kind are the node, if it is of the kind, and those of its parts. -/
theorem tally_eq (p : Kind → Bool) (e : Expr) :
    e.tally p = (if p e.kind then 1 else 0) + (e.children.map (tally p)).sum := by
  rw [tally, nodes_eq, List.countP_cons, List.countP_flatMap, Nat.add_comm]
  rfl

/-- The nodes of a kind are those of its parts, if the node is not of the kind. -/
theorem tally_eq_sum {p : Kind → Bool} {e : Expr} (hkind : p e.kind = false) :
    e.tally p = (e.children.map (tally p)).sum := by
  rw [tally_eq, hkind, if_neg Bool.false_ne_true, Nat.zero_add]

theorem tally_leaf {p : Kind → Bool} {e : Expr} (hkind : p e.kind = false)
    (hchildren : e.children = []) : e.tally p = 0 := by
  rw [tally_eq_sum hkind, hchildren]
  rfl

/-- A property counts beside those of its base. -/
theorem tally_property (base : Expr) (name : String) (type : ValueType) (unit : Option String) :
    tally Kind.isProperty ⟨.property base name type, unit⟩ =
      base.tally Kind.isProperty + 1 := by
  rw [tally_eq]
  simp only [children, Kind.isProperty, if_true, List.map_cons, List.map_nil, List.sum_cons,
    List.sum_nil]
  omega

/-- A count over the parts of a node that is written as a call is one over the arguments of the
call, if that of an array is one over its items. -/
theorem sum_map_of_call? {f : Expr → Nat}
    (hf : ∀ items unit, f ⟨.array items, unit⟩ = (items.map f).sum) {kind : Kind} {name : String}
    {arguments : List Expr} (h : kind.call? = some (name, arguments)) (unit : Option String) :
    ((children ⟨kind, unit⟩).map f).sum = (arguments.map f).sum := by
  unfold Kind.call? at h
  split at h <;> cases h <;> simp [children, hf]

/-- The tokens of a unit hold no dot. -/
theorem count_dot_unit (kind : Kind) (unit : Option String) :
    (tokens ⟨kind, unit⟩).count (.operator .dot) = kind.tokens.count (.operator .dot) := by
  cases unit <;> simp [tokens, Token.count_dot_parenthesized]

/-- The tokens of a node that is no property hold the dots of its parts. -/
theorem count_dot_of_plain {kind : Kind} (h : kind.isProperty = false) (unit : Option String) :
    kind.tokens.count (.operator .dot) =
      ((children ⟨kind, unit⟩).map fun c => c.tokens.count (.operator .dot)).sum := by
  have harray : ∀ items unit, (tokens ⟨.array items, unit⟩).count (.operator .dot) =
      (items.map fun c => c.tokens.count (.operator .dot)).sum := by
    intro items unit
    rw [count_dot_unit, Kind.tokens, tokenLists_eq_map]
    simp [Token.count_dot_separated, Function.comp_def]
  cases kind using Kind.cases_written with
  | call kind name arguments hcall =>
    rw [Kind.tokens_of_call? hcall, Token.count_dot_call, List.map_map,
      sum_map_of_call? harray hcall]
    rfl
  | constant c =>
    cases c with
    | number x => cases x <;> rfl
    | _ => simp [Kind.tokens, Constant.tokens, children, Token.call, Token.separated]
  | var name type => simp [Kind.tokens, children]
  | property base name type => cases h
  | binary op left right =>
    have hop : op.operator ≠ .dot := by cases op <;> decide
    simp [children, Kind.tokens, Token.count_dot_parenthesized, hop]
  | unary op operand =>
    have hop : op.sign ≠ .operator .dot := by cases op <;> decide
    simp [children, Kind.tokens, Token.count_dot_parenthesized, hop]
  | union left right => simp [children, Kind.tokens, Token.count_dot_parenthesized]
  | array items =>
    rw [← count_dot_unit _ unit]
    exact harray items unit
  | each collection name body => simp [children, Kind.tokens, Token.count_dot_call]

/-- The tokens of a printed expression hold a dot for every property but those that lose it. -/
theorem count_dot_tokens (e : Expr) :
    e.tokens.count (.operator .dot) + e.tally Kind.losesDot = e.tally Kind.isProperty := by
  induction e using induction_on_size with
  | h e ih =>
    have hchildren : (e.children.map fun c => c.tokens.count (.operator .dot)).sum +
        (e.children.map (tally Kind.losesDot)).sum =
          (e.children.map (tally Kind.isProperty)).sum := by
      rw [← List.sum_map_add]
      exact congrArg List.sum (List.map_congr_left fun c hc => ih c (sizeOf_lt_of_mem_children hc))
    obtain ⟨kind, unit⟩ := e
    rw [count_dot_unit]
    cases hproperty : kind.isProperty with
    | false =>
      have hloses : kind.losesDot = false := by
        cases kind with
        | property => cases hproperty
        | _ => rfl
      rw [count_dot_of_plain hproperty unit, tally_eq_sum hloses, tally_eq_sum hproperty]
      exact hchildren
    | true =>
      cases kind with
      | property base name type =>
        have hbase := ih base (sizeOf_lt_of_mem_children (by simp [children]))
        rw [tally_property, Kind.tokens, List.count_append, Token.count_dot_parenthesized]
        by_cases hwhole : base.isWhole = true
        · -- the base takes the dot for its point
          have hlost : tally Kind.losesDot ⟨.property base name type, unit⟩ =
              base.tally Kind.losesDot + 1 := by
            rw [tally_eq]
            simp [children, Kind.losesDot, hwhole, Nat.add_comm]
          rw [hlost, if_pos hwhole]
          simp only [List.count_singleton, reduceCtorEq, beq_iff_eq, if_false]
          omega
        · have hkept : tally Kind.losesDot ⟨.property base name type, unit⟩ =
              base.tally Kind.losesDot := by
            rw [tally_eq_sum (by simpa [Kind.losesDot] using hwhole)]
            simp [children]
          rw [hkept, if_neg hwhole]
          simp only [List.count_cons, List.count_nil, reduceCtorEq, beq_iff_eq, if_true, if_false]
          omega
      | _ => cases hproperty

/-- A unit is no node. -/
theorem tally_withUnit (p : Kind → Bool) (kind : Kind) (unit unit' : Option String) :
    tally p ⟨kind, unit⟩ = tally p ⟨kind, unit'⟩ := by
  rw [tally_eq, tally_eq p ⟨kind, unit'⟩]
  rfl

/-- Grafting adds the dot between the root and the chain. -/
theorem tally_graft_le (root e : Expr) :
    (graft root e).tally Kind.isProperty ≤
      root.tally Kind.isProperty + e.tally Kind.isProperty + 1 := by
  fun_induction graft root e with
  | case1 name type unit =>
    rw [tally_property]
    omega
  | case2 base name type unit ih =>
    rw [tally_property, tally_property]
    omega
  | case3 => omega

end Expr

namespace Context

variable {environment : Environment}

/-- A call has no more properties than its arguments. -/
theorem tally_of_called {name : String} {arguments : List Expr} {e : Expr}
    (h : (standard environment).called name arguments = .ok e) :
    e.tally Kind.isProperty ≤ (arguments.map (Expr.tally Kind.isProperty)).sum := by
  obtain ⟨-, hchildren⟩ := children_of_called h
  rw [Expr.tally_eq_sum (plain_of_called h).1]
  rcases hchildren with hsublist | harray
  · exact (hsublist.map _).sum_le_sum fun _ _ => Nat.zero_le _
  · rw [harray, List.map_singleton, List.sum_singleton]
    exact Nat.le_of_eq (Expr.tally_eq_sum rfl)

/-- A chain that is collapsed has no more properties than before. -/
theorem tally_collapse_le (chain : Expr) :
    ((standard environment).collapse chain).kind.bare.tally Kind.isProperty ≤
      chain.tally Kind.isProperty := by
  obtain ⟨_, _, -, -, heq⟩ | ⟨-, heq⟩ := collapse_cases (standard environment) chain
  · rw [heq, Expr.tally_leaf rfl rfl]
    exact Nat.zero_le _
  · rw [heq]
    obtain ⟨kind, unit⟩ := chain
    exact Nat.le_of_eq (Expr.tally_withUnit ..)

/-- A dot makes one property at most. -/
theorem tally_of_joins {left : Expr} {right kind : Kind}
    (h : Joins (standard environment) left right kind) :
    kind.bare.tally Kind.isProperty ≤
      left.tally Kind.isProperty + right.bare.tally Kind.isProperty + 1 := by
  cases h with
  | name name type =>
    refine Nat.le_trans (tally_collapse_le _) ?_
    rw [Kind.bare, Expr.tally_property]
    omega
  | chain hpath base name type =>
    exact Nat.le_trans (tally_collapse_le _) (Expr.tally_graft_le left _)
  | call hpath hresult =>
    rw [Expr.tally_eq, Expr.tally_eq _ (Kind.bare _)]
    simp only [Kind.bare, Expr.children, Kind.isProperty, Bool.false_eq_true, if_false]
    omega

/-- A dot makes one property at most. -/
theorem tally_of_dot {left right e : Expr} (h : (standard environment).dot left right = .ok e) :
    e.tally Kind.isProperty ≤ left.tally Kind.isProperty + right.tally Kind.isProperty + 1 := by
  have hle := tally_of_joins (dot_eq_ok_iff.1 h).1
  obtain ⟨kind, unit⟩ := e
  obtain ⟨right, unit'⟩ := right
  rw [Kind.bare, Expr.tally_withUnit _ kind none unit, Kind.bare,
    Expr.tally_withUnit _ right none unit'] at hle
  exact hle

end Context

/-- The node is neither an infinite number nor a property with the dotted name of a variable. -/
def Kind.IsResolved (environment : Environment) (kind : Kind) : Prop :=
  kind.IsFinite ∧ kind.IsCollapsed environment

namespace Context

variable {environment : Environment}

/-- A dot between a resolved expression and a name or a call makes a resolved expression. -/
theorem isResolved_of_dot {left right e : Expr}
    (hleft : ∀ n ∈ left.nodes, n.kind.IsResolved environment)
    (hright : ∀ n ∈ right.nodes, n.kind.IsResolved environment)
    (hproperty : right.kind.isProperty = false)
    (h : (standard environment).dot left right = .ok e) :
    ∀ n ∈ e.nodes, n.kind.IsResolved environment := by
  obtain ⟨hjoins, -⟩ := dot_eq_ok_iff.1 h
  obtain ⟨kind, unit⟩ := e
  obtain ⟨right, unit'⟩ := right
  dsimp only at hjoins hproperty
  cases hjoins with
  | name name type =>
    refine Expr.forall_nodes_withUnit (forall_nodes_collapse (fun _ _ => ⟨trivial, trivial⟩)
      (fun hnone => ⟨trivial, Kind.isCollapsed_of_forall hnone⟩) ?_) unit
    simpa [Kind.bare, Expr.children] using hleft
  | chain => cases hproperty
  | call hpath hresult =>
    rw [Expr.forall_mem_nodes] at hright
    exact Expr.forall_mem_nodes.2 ⟨⟨trivial, trivial⟩, hright.2⟩

end Context

namespace Grammar

variable {environment : Environment}

/-- What tokens mean has no more properties than there are dots. -/
theorem Derives.tally_isProperty_le {p : Nat} {ts : List Token} {e : Expr}
    (h : Derives (.standard environment) p ts e) :
    e.tally Kind.isProperty ≤ ts.count (.operator .dot) := by
  have hitems : ∀ {items : List (List Token × Expr)},
      (∀ i ∈ items, i.2.tally Kind.isProperty ≤ i.1.count (.operator .dot)) →
      ((items.map Prod.snd).map (Expr.tally Kind.isProperty)).sum ≤
        (Token.separated (items.map Prod.fst)).count (.operator .dot) := by
    intro items hall
    -- the commas hold no dot, so the counts add up over the items
    rw [Token.count_dot_separated, List.map_map, List.map_map]
    exact List.sum_le_sum hall
  induction h with
  | tighter _ ih => exact ih
  | @binary _ _ node t _ _ left right _ _ _ _ _ ihleft ihright =>
    rw [Expr.tally_eq_sum rfl, List.count_append, List.count_cons]
    simp only [Kind.bare, Expr.children, List.map_cons, List.map_nil, List.sum_cons, List.sum_nil]
    omega
  | union _ _ ihleft ihright =>
    rw [Expr.tally_eq_sum rfl, List.count_append, List.count_cons]
    simp only [Kind.bare, Expr.children, List.map_cons, List.map_nil, List.sum_cons, List.sum_nil]
    omega
  | dot _ _ hdot ihleft ihright =>
    have hle := Context.tally_of_dot hdot
    rw [List.count_append, List.count_cons_self]
    omega
  | signed _ ih =>
    rw [Expr.tally_eq_sum rfl, List.count_cons]
    simp only [Kind.bare, Expr.children, List.map_cons, List.map_nil, List.sum_cons, List.sum_nil]
    omega
  | group _ ih =>
    rw [List.count_cons, List.count_append]
    omega
  | array _ ih =>
    have hle := hitems ih
    rw [Expr.tally_eq_sum rfl, List.count_cons, List.count_append]
    simp only [Kind.bare, Expr.children]
    omega
  | number x =>
    rw [Expr.tally_leaf rfl rfl]
    exact Nat.zero_le _
  | string s =>
    rw [Expr.tally_leaf rfl rfl]
    exact Nat.zero_le _
  | name n =>
    obtain ⟨hchildren, hkind, -⟩ := Context.leaf_named (.standard environment) n
    rw [Expr.tally_leaf hkind hchildren]
    exact Nat.zero_le _
  | call _ hcall ih =>
    have hle := hitems ih
    have hle' := Context.tally_of_called hcall
    rw [List.count_cons, List.count_cons, List.count_append]
    omega
  | @unit _ e _ _ _ ih =>
    obtain ⟨kind, unit⟩ := e
    rw [Expr.tally_withUnit _ kind _ unit, List.count_append]
    omega

/-- What tokens mean is resolved at every node if no number among them is infinite and a dot stands
in front of a name only. -/
theorem Derives.isResolved {p : Nat} {ts : List Token} {e : Expr}
    (h : Derives (.standard environment) p ts e) (hts : Token.Resolves ts) :
    ∀ n ∈ e.nodes, n.kind.IsResolved environment := by
  have hplain : ∀ kind : Kind, kind.isProperty = false → (∀ x, kind ≠ .constant (.number x)) →
      kind.IsResolved environment := by
    intro kind hproperty hnumber
    cases kind with
    | constant c =>
      cases c with
      | number x => exact absurd rfl (hnumber x)
      | _ => exact ⟨trivial, trivial⟩
    | property => cases hproperty
    | _ => exact ⟨trivial, trivial⟩
  have hnumber : ∀ x, x = .pi ∨ .number x ∈ ts →
      (Kind.constant (.number x)).IsResolved environment := by
    refine fun x hx => ⟨fun negative hinf => ?_, trivial⟩
    rcases hx with heq | hx
    · have hpi : ∀ negative, Number.pi ≠ .infinite negative := by decide +kernel
      exact hpi negative (heq.symm.trans hinf)
    · exact hts.ne_infinite _ hx negative (by rw [hinf])
  refine h.forall_nodes hplain hnumber ?_ List.infix_rfl
  intro us vs left right e hmiddle _ hright hdot hallleft hallright
  refine Context.isResolved_of_dot hallleft hallright ?_ hdot
  -- a chain that could pass a variable stands in parentheses, but a name stands behind the dot
  by_contra hproperty
  obtain ⟨vs, rfl⟩ := List.head?_eq_some_iff.1
    (hright.head?_of_isProperty (Nat.le_refl 9) (by simpa using hproperty))
  obtain ⟨n, hn⟩ := hts.exists_of_infix .leftParen (List.IsInfix.trans ⟨us, vs, by simp⟩ hmiddle)
  cases hn

end Grammar

/-- An expression that its own tokens mean, or those in front of a last semicolon, reads back. -/
theorem Expr.readsBack_of_derives {environment : Environment} {e : Expr} {ts : List Token}
    (h : Grammar.Derives (.standard environment) 1 ts e) (hfront : ts <+: e.tokens) :
    ∀ n ∈ e.nodes, n.kind.ReadsBack environment := by
  have hresolved := h.isResolved (e.tidy_tokens.resolves.of_infix hfront.isInfix)
  have hle := h.tally_isProperty_le
  have hcount := hfront.sublist.count_le (.operator .dot)
  have hdots := e.count_dot_tokens
  -- the tokens hold as many dots as there are properties, so no property has lost its dot
  have hnone : e.tally Kind.losesDot = 0 := by omega
  intro n hn
  refine ⟨(hresolved n hn).1, ?_, (hresolved n hn).2⟩
  have hkeeps := List.countP_eq_zero.1 hnone n hn
  unfold Kind.losesDot at hkeeps
  unfold Kind.KeepsDot
  split
  next hkind =>
    rw [hkind] at hkeeps
    simpa using hkeeps
  next => trivial

end Formulas
