import Formulas.Expr

/-!
# The nodes of an expression

A statement about an expression at every depth is one about all its nodes, and is proved by an
induction that goes from the parts of a node to the node.

## Main definitions

* `Expr.nodes`: the node with all nodes below it.

## Main results

* `Expr.forall_mem_nodes`: all nodes are the node and those of its parts;
* `Expr.induction_on_size`: what passes from all smaller expressions to an expression holds of every
  expression.
-/

namespace Formulas.Expr

/-- What passes from all smaller expressions to an expression holds of every expression. -/
theorem induction_on_size {P : Expr → Prop}
    (h : ∀ e : Expr, (∀ c : Expr, sizeOf c < sizeOf e → P c) → P e) (e : Expr) : P e :=
  (measure sizeOf).wf.induction e h

/-- The node and all nodes below it, each in front of its parts. -/
def nodes (e : Expr) : List Expr := e :: e.children.attach.flatMap fun c => nodes c.1
termination_by sizeOf e
decreasing_by exact sizeOf_lt_of_mem_children c.2

/-- The nodes are the node and those of its parts. -/
theorem nodes_eq (e : Expr) : e.nodes = e :: e.children.flatMap nodes := by
  rw [nodes, List.flatMap_subtype fun _ _ => rfl, List.unattach_attach]

@[simp]
theorem mem_nodes_self (e : Expr) : e ∈ e.nodes := by
  rw [nodes_eq e]
  exact List.mem_cons_self

/-- The nodes of a part are nodes of the whole. -/
theorem nodes_subset {c e : Expr} (h : c ∈ e.children) : c.nodes ⊆ e.nodes := by
  intro n hn
  rw [nodes_eq e]
  exact List.mem_cons_of_mem _ (List.mem_flatMap.2 ⟨c, h, hn⟩)

/-- A statement holds of all nodes if it holds of the node and of all nodes of its parts. -/
theorem forall_mem_nodes {P : Expr → Prop} {e : Expr} :
    (∀ n ∈ e.nodes, P n) ↔ P e ∧ ∀ c ∈ e.children, ∀ n ∈ c.nodes, P n := by
  rw [nodes_eq e, List.forall_mem_cons]
  simp only [List.mem_flatMap]
  refine and_congr_right fun _ => ⟨fun h c hc n hn => h n ⟨c, hc, hn⟩, ?_⟩
  rintro h n ⟨c, hc, hn⟩
  exact h c hc n hn

/-- What holds of the kinds of all nodes holds of them with another unit at the root. -/
theorem forall_nodes_withUnit {P : Kind → Prop} {e : Expr} (h : ∀ n ∈ e.nodes, P n.kind)
    (unit : Option String) : ∀ n ∈ nodes ⟨e.kind, unit⟩, P n.kind := by
  rw [forall_mem_nodes] at h ⊢
  exact h

end Formulas.Expr
