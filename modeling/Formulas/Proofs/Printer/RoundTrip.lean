import Formulas.Proofs.Expr.Equality
import Formulas.Proofs.Printer.Derivation
import Formulas.Proofs.Printer.Losses

/-!
# Printing and reading back

The canonical text of a well-formed expression is read as the expression exactly if every node of it
reads back. Of the expressions that are read from texts, all are well-formed, but some do not read
back: a literal may be too large for a number, a property may be one of a whole number, and a chain
of properties that was put together in parentheses may have the dotted name of a variable.

## Main definitions

* `Expr.Canonical`: a node that a formula can have and that keeps its meaning in print.

## Main results

* `Expr.parse_toText_eq_ok_iff`: the expressions that their own texts mean;
* `Expr.parse_toText_same_iff`: those that are read again from their own texts, among the ones that
  were read from a text.
-/

namespace Formulas

/-- A formula can have this node, and its text keeps what there is to say of it. -/
structure Expr.Canonical (environment : Environment) (e : Expr) : Prop where
  wellFormed : e.WellFormed environment
  readsBack : e.kind.ReadsBack environment

namespace Expr

variable {environment : Environment}

/-- An expression whose text is read as the expression reads back at every node. -/
theorem readsBack_of_parse_toText {e : Expr}
    (h : Expr.parse (.standard environment) e.toText = .ok e) :
    ∀ n ∈ e.nodes, n.kind.ReadsBack environment := by
  have hwf := wellFormed_of_parse h
  obtain ⟨-, hformula⟩ := Grammar.Formula.of_parse h
  have hscan : (Scan.ofText e.toText).tokens = e.tokens := by rw [scan_toText hwf]
  rw [hscan] at hformula
  -- the tokens of the text are a formula that means the expression, whole or with a last semicolon
  generalize htokens : e.tokens = ts at hformula
  cases hformula with
  | empty =>
    refine forall_mem_nodes.2 ⟨⟨trivial, trivial, trivial⟩, ?_⟩
    simp [boolean, Kind.bare, children]
  | level hderives => exact readsBack_of_derives hderives (htokens ▸ List.prefix_rfl)
  | clause hderives =>
    refine readsBack_of_derives hderives ?_
    rw [htokens]
    exact List.prefix_append ..

/-- The expressions that their own texts mean are those whose nodes are all canonical. -/
theorem parse_toText_eq_ok_iff (environment : Environment) (e : Expr) :
    Expr.parse (.standard environment) e.toText = .ok e ↔
      ∀ n ∈ e.nodes, n.Canonical environment := by
  constructor
  · intro h n hn
    exact ⟨wellFormed_of_parse h n hn, readsBack_of_parse_toText h n hn⟩
  · intro h
    have hwf : ∀ n ∈ e.nodes, n.WellFormed environment := fun n hn => (h n hn).wellFormed
    exact parse_eq_of_readsBack hwf fun n hn => (h n hn).readsBack

/-- The property of a sum with a unit is what its text means. -/
theorem parse_toText_sum_property :
    let sum : Expr := ⟨.binary .add (Kind.var "x" .object).bare (Kind.var "y" .object).bare,
      some "degC"⟩
    let e := (Kind.property sum "z" .object).bare
    (∀ n ∈ e.nodes, n.Canonical .empty) ∧ Expr.parse (.standard .empty) e.toText = .ok e := by
  intro sum e
  have hname : ∀ name ∈ ["x", "y", "z"], IsName name := by
    simp only [IsName]
    decide
  have hunit : IsUnit "degC" := by
    refine ⟨by decide, ⟨?_, ?_⟩, ?_⟩ <;> decide
  have hvar : ∀ name ∈ ["x", "y"], ∀ n ∈ (Kind.var name .object).bare.nodes,
      n.Canonical .empty := by
    intro name hmem
    have hself : IsName name := hname name (List.mem_append_left ["z"] hmem)
    refine forall_mem_nodes.2 ⟨⟨⟨⟨hself, rfl⟩, ?_⟩, trivial, trivial, trivial⟩, ?_⟩
    · simp [Kind.bare]
    · simp [Kind.bare, children]
  have hsum : ∀ n ∈ sum.nodes, n.Canonical .empty := by
    refine forall_mem_nodes.2 ⟨⟨⟨trivial, ?_⟩, trivial, trivial, trivial⟩, ?_⟩
    · simpa [sum] using hunit
    · simpa [sum, children] using And.intro (hvar "x" (by simp)) (hvar "y" (by simp))
  have hall : ∀ n ∈ e.nodes, n.Canonical .empty := by
    refine forall_mem_nodes.2 ⟨⟨⟨⟨hname "z" (by simp), rfl⟩, ?_⟩, trivial, rfl, ?_⟩, ?_⟩
    · simp [e, Kind.bare]
    · intro hcarries
      cases hcarries
    · simpa [e, Kind.bare, children] using hsum
  exact ⟨hall, (parse_toText_eq_ok_iff .empty e).2 hall⟩

/-- An expression that was read from a text is read again from its own text exactly if it reads back
at every node. -/
theorem parse_toText_same_iff {text : String} {e : Expr}
    (h : Expr.parse (.standard environment) text = .ok e) :
    (∃ e', Expr.parse (.standard environment) e.toText = .ok e' ∧ e'.same e = true) ↔
      ∀ n ∈ e.nodes, n.kind.ReadsBack environment := by
  have hwf := wellFormed_of_parse h
  constructor
  · rintro ⟨e', he', hsame⟩
    obtain rfl := eq_of_same (wellFormed_of_parse he') hwf hsame
    exact readsBack_of_parse_toText he'
  · intro hback
    exact ⟨e, parse_eq_of_readsBack hwf hback, same_self hwf⟩

/-- Parentheses put a chain of properties together that passes by the variable `a.b`. Its text is
`a.b.c`, where the variable is found. -/
theorem parse_toText_passed_variable :
    let environment : Environment := ⟨[("a.b", .number)], []⟩
    let base := (Kind.property (Kind.var "a" .object).bare "b" .object).bare
    let e := (Kind.property base "c" .object).bare
    Expr.parse (.standard environment) "a.(b.c)" = .ok e ∧
      ¬∃ e', Expr.parse (.standard environment) e.toText = .ok e' ∧ e'.same e = true := by
  intro environment base e
  have hparse : Expr.parse (.standard environment) "a.(b.c)" = .ok e := by
    have hscan : Scan.ofText "a.(b.c)" = ⟨[.identifier "a", .operator .dot, .leftParen,
        .identifier "b", .operator .dot, .identifier "c", .rightParen], none⟩ := by decide +kernel
    have hname : ∀ name ∈ ["a", "b", "c"], Grammar.Derives (.standard environment) 9
        [.identifier name] (Kind.var name (environment.variableType name)).bare := by
      have hliteral : ∀ name ∈ ["a", "b", "c"], IsName name := by
        simp only [IsName]
        decide
      exact fun name hmem => derives_name (hliteral name hmem)
    have hinner : (Context.standard environment).dot (Kind.var "b" .object).bare
        (Kind.var "c" .object).bare =
          .ok (Kind.property (Kind.var "b" .object).bare "c" .object).bare := rfl
    have houter : (Context.standard environment).dot (Kind.var "a" .object).bare
        (Kind.property (Kind.var "b" .object).bare "c" .object).bare = .ok e := rfl
    have hgroup := Grammar.Derives.group
      ((Grammar.Derives.dot ((hname "b" (by simp)).loosen (by decide : 8 ≤ 9))
        (hname "c" (by simp)) hinner).loosen (by decide : 1 ≤ 8))
    refine Grammar.Formula.parse_eq (by rw [hscan]) ?_
    rw [hscan]
    exact .level ((Grammar.Derives.dot ((hname "a" (by simp)).loosen (by decide : 8 ≤ 9))
      hgroup houter).loosen (by decide : 1 ≤ 8))
  refine ⟨hparse, fun hagain => ?_⟩
  have hback := (parse_toText_same_iff hparse).1 hagain
  -- but the inner property `a.b` has the dotted name of a variable
  have hbase : base ∈ e.nodes := nodes_subset List.mem_cons_self base.mem_nodes_self
  have hnone := (hback base hbase).isCollapsed rfl "a" rfl
  revert hnone
  decide

/-- The text `(5).b` is read as a property of a number, whose text `5.b` is the number with a
unit. -/
theorem parse_toText_whole_number :
    ∃ e, Expr.parse (.standard .empty) "(5).b" = .ok e ∧
      ¬∃ e', Expr.parse (.standard .empty) e.toText = .ok e' ∧ e'.same e = true := by
  have hread : (Expr.parse (.standard .empty) "(5).b").toOption.map (fun e => (e.toText, e.unit)) =
      some ("5.b", none) := by decide +kernel
  have hagain : (Expr.parse (.standard .empty) "5.b").toOption.map (·.unit) = some (some "b") := by
    decide +kernel
  cases hparse : Expr.parse (.standard .empty) "(5).b" with
  | error err =>
    rw [hparse] at hread
    cases hread
  | ok e =>
    rw [hparse] at hread
    obtain ⟨htext, hunit⟩ := Prod.mk.inj (Option.some.inj hread)
    refine ⟨e, rfl, ?_⟩
    rintro ⟨e', he', hsame⟩
    have heq := eq_of_same (wellFormed_of_parse he') (wellFormed_of_parse hparse) hsame
    rw [← htext, he', heq] at hagain
    have hunit' : e.unit = some "b" := Option.some.inj hagain
    rw [hunit] at hunit'
    cases hunit'

end Expr

end Formulas
