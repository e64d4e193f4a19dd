import Formulas.Proofs.Grammar.Soundness
import Formulas.Proofs.Scan.Tokens

/-!
# The parser accepts exactly the grammar

A text is a formula if it scans without an error and its tokens are a formula of the grammar; its
meaning is the one that the grammar gives.

## Main results

* `Expr.parse_eq_ok_iff`: the texts that are read, and as what.
-/

namespace Formulas

open Grammar

/-- The tokens of a text hold no prefix sign of their own: that a `-` is one shows only by where it
stands. -/
theorem negate_notMem_tokens (text : String) :
    .operator .negate ∉ (Scan.ofText text).tokens :=
  fun hmem => absurd (Scanner.written_of_mem_scan hmem) (by simp [Token.Written])

/-- A text that is read has tokens that are a formula, and means what the formula means. -/
theorem Grammar.Formula.of_parse {ctx : Context} {text : String} {e : Expr}
    (h : Expr.parse ctx text = .ok e) :
    (Scan.ofText text).fault = none ∧ Formula ctx (Scan.ofText text).tokens e := by
  by_cases hne : (Scan.ofText text).tokens = []
  · rw [Expr.parse_of_tokens_eq_nil ctx hne] at h
    cases hfault : (Scan.ofText text).fault with
    | some err =>
      rw [hfault] at h
      cases h
    | none =>
      rw [hfault] at h
      cases h
      exact ⟨rfl, hne ▸ .empty⟩
  · rw [Expr.parse_of_tokens_ne_nil ctx hne] at h
    cases hrun : Machine.start.run ctx (Scan.ofText text).tokens with
    | error err =>
      rw [hrun] at h
      cases h
    | ok m =>
      have hread := Machine.hasRead_start.run (negate_notMem_tokens text) hrun
      rw [hrun] at h
      cases hfault : (Scan.ofText text).fault with
      | some err =>
        rw [hfault] at h
        cases h
      | none =>
        rw [hfault] at h
        have hfinish : m.finish ctx = .ok e := h
        have hyields := hread.finish
        rw [hfinish] at hyields
        exact ⟨rfl, hyields⟩

/-- A text is read as an expression exactly if it scans without an error and its tokens are a
formula that means the expression. -/
theorem Expr.parse_eq_ok_iff (environment : Environment) (text : String) (e : Expr) :
    Expr.parse (.standard environment) text = .ok e ↔
      (Scan.ofText text).fault = none ∧
        Formula (.standard environment) (Scan.ofText text).tokens e := by
  constructor
  · exact Formula.of_parse
  · rintro ⟨hfault, hformula⟩
    exact hformula.parse_eq hfault

end Formulas
