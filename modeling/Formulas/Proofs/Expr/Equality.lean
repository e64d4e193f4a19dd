import Formulas.Proofs.Expr.WellFormed

/-!
# Equality of expressions

`Expr.same` compares numbers as values, so that the two zeros are the same and a value that is not a
number is not even the same as itself. No well-formed expression has a number with a sign, nor one
that is no number, and there it is equality.

## Main results

* `Expr.same_iff_eq`: well-formed expressions are the same exactly if they are equal.
-/

namespace Formulas

/-- Numbers without a sign that have the same value are equal. -/
theorem Number.eq_of_eqv {x y : Number} (hx : x.isNegative = false) (hy : y.isNegative = false)
    (h : x.eqv y = true) : x = y := by
  cases x <;> cases y <;> simp_all [eqv, isNegative]

variable {environment : Environment}

/-- A literal that a formula can mean is the same as itself. -/
theorem Constant.same_self {c : Constant} (h : (Kind.constant c).WellFormed environment) :
    c.same c = true := by
  cases c with
  | number x => exact (Number.eqv_self_iff x).2 h.1
  | _ => simp [same]

/-- Literals that a formula can mean are equal if they are the same. -/
theorem Constant.eq_of_same {c c' : Constant} (hc : (Kind.constant c).WellFormed environment)
    (hc' : (Kind.constant c').WellFormed environment) (h : c.same c' = true) : c = c' := by
  unfold same at h
  split at h
  · rw [Number.eq_of_eqv hc.2 hc'.2 h]
  · exact beq_iff_eq.1 h

namespace Expr

/-- Lists are the same if their members are the same as themselves. -/
theorem sameList_self {es : List Expr} (h : ∀ e ∈ es, e.same e = true) :
    sameList es es = true := by
  induction es with
  | nil => simp only [sameList]
  | cons e es ih =>
    rw [List.forall_mem_cons] at h
    simp only [sameList, h.1, ih h.2, Bool.and_self]

/-- Lists that are the same are equal if their members are. -/
theorem eq_of_sameList {es es' : List Expr}
    (h : ∀ e ∈ es, ∀ e' ∈ es', e.same e' = true → e = e') (hsame : sameList es es' = true) :
    es = es' := by
  induction es generalizing es' with
  | nil =>
    cases es' with
    | nil => rfl
    | cons => simp [sameList] at hsame
  | cons e es ih =>
    cases es' with
    | nil => simp [sameList] at hsame
    | cons e' es' =>
      simp only [sameList, Bool.and_eq_true] at hsame
      have hhead := h e List.mem_cons_self e' List.mem_cons_self hsame.1
      have htail := ih (fun a ha a' ha' =>
        h a (List.mem_cons_of_mem _ ha) a' (List.mem_cons_of_mem _ ha')) hsame.2
      rw [hhead, htail]

/-- An optional expression is the same as itself if the expression is. -/
theorem sameOption_self {o : Option Expr} (h : ∀ e, o = some e → e.same e = true) :
    sameOption o o = true := by
  cases o <;> simp_all [sameOption]

/-- Optional expressions that are the same are equal if the expressions are. -/
theorem eq_of_sameOption {o o' : Option Expr}
    (h : ∀ e e', o = some e → o' = some e' → e.same e' = true → e = e')
    (hsame : sameOption o o' = true) : o = o' := by
  cases o <;> cases o' <;> simp_all [sameOption]

/-- A well-formed expression is the same as itself. -/
theorem same_self {e : Expr} (he : ∀ n ∈ e.nodes, n.WellFormed environment) :
    e.same e = true := by
  induction e using induction_on_size with
  | h e ih =>
    have hpart : ∀ c ∈ e.children, c.same c = true := fun c hc =>
      ih c (sizeOf_lt_of_mem_children hc) fun n hn => he n (nodes_subset hc hn)
    obtain ⟨hwf, -⟩ := he _ (mem_nodes_self _)
    clear ih he
    obtain ⟨kind, unit⟩ := e
    simp only [same, beq_self_eq_true, Bool.and_true]
    cases kind with
    | constant c =>
      rw [Kind.same]
      exact Constant.same_self hwf
    | _ => simp_all [children, Kind.same, sameList_self, sameOption_self]

/-- Well-formed expressions that are the same are equal. -/
theorem eq_of_same {e e' : Expr} (he : ∀ n ∈ e.nodes, n.WellFormed environment)
    (he' : ∀ n ∈ e'.nodes, n.WellFormed environment) (h : e.same e' = true) : e = e' := by
  induction e using induction_on_size generalizing e' with
  | h e ih =>
    have hpart : ∀ c ∈ e.children, ∀ c' ∈ e'.children, c.same c' = true → c = c' :=
      fun c hc c' hc' => ih c (sizeOf_lt_of_mem_children hc)
        (fun n hn => he n (nodes_subset hc hn)) fun n hn => he' n (nodes_subset hc' hn)
    obtain ⟨hwf, -⟩ := he _ (mem_nodes_self _)
    obtain ⟨hwf', -⟩ := he' _ (mem_nodes_self _)
    clear ih he he'
    obtain ⟨kind, unit⟩ := e
    obtain ⟨kind', unit'⟩ := e'
    simp only [same, Bool.and_eq_true, beq_iff_eq] at h
    obtain ⟨hkind, rfl⟩ := h
    -- different kinds of nodes are never the same; the parts of equal kinds are pairwise equal
    suffices kind = kind' by rw [this]
    fun_cases Kind.same kind kind' with
    | case1 c c' =>
      rw [Kind.same] at hkind
      rw [Constant.eq_of_same hwf hwf' hkind]
    | _ => grind [Kind.same, children, eq_of_sameList, eq_of_sameOption]

/-- Well-formed expressions are the same exactly if they are equal. -/
theorem same_iff_eq {e e' : Expr} (he : ∀ n ∈ e.nodes, n.WellFormed environment)
    (he' : ∀ n ∈ e'.nodes, n.WellFormed environment) : e.same e' = true ↔ e = e' := by
  constructor
  · exact eq_of_same he he'
  · rintro rfl
    exact same_self he

end Expr

end Formulas
