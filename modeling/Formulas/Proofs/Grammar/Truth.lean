import Formulas.Proofs.Grammar.Nodes
import Formulas.Proofs.Scan.Pieces

/-!
# The formulas that are true

A formula is read and not computed, so it is the constant true only where it is written as that: a
text of blanks, or the word `true` in any case of letters, in parentheses or not, with units behind
it or not, and with or without a semicolon at the end.

## Main definitions

* `Grammar.SpellsTrue`: tokens that spell the constant.

## Main results

* `Grammar.Formula.isTrue_iff`: the tokens that mean the constant true;
* `Expr.isTrue_iff_of_parse`: the texts that are read as the constant true.
-/

namespace Formulas

/-- An expression is true if its node is the constant. -/
theorem Expr.isTrue_iff {e : Expr} : e.isTrue = true ↔ e.kind = .constant (.boolean true) := by
  obtain ⟨kind, unit⟩ := e
  unfold isTrue
  constructor
  · intro h
    split at h
    next b hkind => rw [hkind, h]
    next => cases h
  · rintro rfl
    rfl

namespace Context

variable {environment : Environment}

/-- A name is true if it is the word `true`. -/
theorem isTrue_named_iff (ctx : Context) (name : String) :
    (ctx.named name).isTrue = true ↔ Text.lower name = "true" := by
  unfold named literal?
  split <;> simp_all [Expr.isTrue, Expr.boolean, Expr.null, Expr.number, Kind.bare]

/-- No call is true. -/
theorem isTrue_of_called {name : String} {arguments : List Expr} {e : Expr}
    (h : (standard environment).called name arguments = .ok e) : e.isTrue = false := by
  rw [Bool.eq_false_iff]
  intro htrue
  rw [Expr.isTrue_iff] at htrue
  rcases isBuilt_or_call_of_called h with hbuilt | ⟨type, hcall⟩
  · rw [htrue] at hbuilt
    cases hbuilt
  · rw [htrue] at hcall
    cases hcall

/-- Nothing that a dot makes is true. -/
theorem isTrue_of_dot {ctx : Context} {left right e : Expr} (h : ctx.dot left right = .ok e) :
    e.isTrue = false := by
  have hcollapse : ∀ chain : Expr, chain.isTrue = false → (ctx.collapse chain).isTrue = false := by
    intro chain hchain
    obtain ⟨path, type, -, -, heq⟩ | ⟨-, heq⟩ := collapse_cases ctx chain
    · rw [heq]
      rfl
    · rw [heq, hchain]
  -- only the kind of what is made counts, not the unit that it takes from the right side
  obtain ⟨hjoins, -⟩ := dot_eq_ok_iff.1 h
  obtain ⟨kind, unit⟩ := e
  generalize right.kind = right at hjoins
  cases hjoins with
  | name name type => exact hcollapse _ rfl
  | chain _ base name type => exact hcollapse _ rfl
  | call _ _ => rfl

end Context

namespace Grammar

variable {environment : Environment} {ts : List Token} {e : Expr}

/-- The tokens spell the constant true. -/
inductive SpellsTrue : List Token → Prop
  /-- The word `true`, in any case of letters. -/
  | word {n : String} (h : Text.lower n = "true") : SpellsTrue [.identifier n]
  /-- In parentheses. -/
  | group {ts : List Token} (h : SpellsTrue ts) : SpellsTrue (.leftParen :: (ts ++ [.rightParen]))
  /-- With a unit behind. -/
  | unit {ts : List Token} {word : String} (h : SpellsTrue ts) (hword : IsUnitWord word) :
      SpellsTrue (ts ++ [.identifier word])

/-- Tokens that spell the constant true mean it. -/
theorem SpellsTrue.exists_derives (h : SpellsTrue ts) (ctx : Context) :
    ∃ e, Derives ctx 9 ts e ∧ e.isTrue = true := by
  induction h with
  | @word n h => exact ⟨_, .name n, (ctx.isTrue_named_iff n).2 h⟩
  | group _ ih =>
    obtain ⟨e, he, htrue⟩ := ih
    exact ⟨e, .group (he.loosen (by decide)), htrue⟩
  | unit _ hword ih =>
    obtain ⟨e, he, htrue⟩ := ih
    exact ⟨_, .unit he hword, Expr.isTrue_iff.2 (Expr.isTrue_iff.1 htrue)⟩

/-- Tokens that mean the constant true spell it. -/
theorem Derives.spellsTrue {p : Nat} (h : Derives (.standard environment) p ts e)
    (htrue : e.isTrue = true) : SpellsTrue ts := by
  induction h with
  | tighter _ ih => exact ih htrue
  | dot _ _ hdot _ _ => simp [Context.isTrue_of_dot hdot] at htrue
  | group _ ih => exact .group (ih htrue)
  | name n => exact .word ((Context.isTrue_named_iff _ n).1 htrue)
  | call _ hcall _ => simp [Context.isTrue_of_called hcall] at htrue
  | unit _ hword ih => exact .unit (ih (Expr.isTrue_iff.2 (Expr.isTrue_iff.1 htrue))) hword
  -- every other rule puts a node of its own on top
  | _ => cases htrue

/-- A formula is true exactly if it has no tokens, or spells the constant, with or without a
semicolon at the end. -/
theorem Formula.isTrue_iff (h : Formula (.standard environment) ts e) :
    e.isTrue = true ↔ ts = [] ∨
      ∃ us, SpellsTrue us ∧ (ts = us ∨ ts = us ++ [.operator .semicolon]) := by
  constructor
  · intro htrue
    cases h with
    | empty => exact .inl rfl
    | level hderives => exact .inr ⟨_, hderives.spellsTrue htrue, .inl rfl⟩
    | clause hderives => exact .inr ⟨_, hderives.spellsTrue htrue, .inr rfl⟩
  · rintro (rfl | ⟨us, hspells, hts⟩)
    · rw [h.eq_of_nil]
      rfl
    · -- the constant that is spelled is what the tokens mean
      obtain ⟨e', he', htrue⟩ := hspells.exists_derives (.standard environment)
      have hlevel := he'.loosen (by decide : 1 ≤ 9)
      have hformula : Formula (.standard environment) ts e' := by
        rcases hts with rfl | rfl
        · exact .level hlevel
        · exact .clause hlevel
      rw [h.unique hformula, htrue]

end Grammar

/-- A text that is read is the constant true exactly if it is blank or spells the constant, with or
without a semicolon at the end. -/
theorem Expr.isTrue_iff_of_parse {environment : Environment} {text : String} {e : Expr}
    (h : Expr.parse (.standard environment) text = .ok e) :
    e.isTrue = true ↔ (∀ c ∈ text.toList, Text.isBlank c = true) ∨
      ∃ ts, Grammar.SpellsTrue ts ∧ ((Scan.ofText text).tokens = ts ∨
        (Scan.ofText text).tokens = ts ++ [.operator .semicolon]) := by
  obtain ⟨hfault, hformula⟩ := Grammar.Formula.of_parse h
  rw [← Scanner.ofText_eq_nothing_iff]
  generalize Scan.ofText text = scan at hfault hformula ⊢
  obtain ⟨tokens, fault⟩ := scan
  obtain rfl : fault = none := hfault
  rw [hformula.isTrue_iff, Scan.mk.injEq, eq_self, and_true]

end Formulas
