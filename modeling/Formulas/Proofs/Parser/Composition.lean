import Formulas.Proofs.Grammar.Exactness
import Formulas.Proofs.Parser.Paths
import Formulas.Proofs.Printer.Spelling
import Formulas.Proofs.Scan.Pieces
import Mathlib.Logic.Function.Iterate

/-!
# Formulas inside formulas

A text that is read on its own, and has something to read that does not end with a semicolon, can be
written into other formulas: in parentheses, and with commas between such texts in the braces of an
array or behind the name of a call. It means there what it means on its own. No token of it goes on
with the bracket or the comma behind it, and the operators that wait at the end of the text wait at
the end of its level as well.

## Main definitions

* `Expr.IsArgument`: a text that can be written into formulas.

## Main results

* `Expr.isArgument_iff`: these are the texts that are read, are not blank and do not end with a
  semicolon;
* `Grammar.run_finish_call`: what the machine makes of a call, errors included;
* `Expr.parse_composed`: arrays, parentheses and calls.
-/

namespace Formulas

namespace Grammar

variable {ctx : Context}

/-- At the end of a formula that ends with a call the machine asks what the call means, and puts
that on the level. -/
theorem finish_afterCall (n : String) (arguments : List Expr) (level : Level) :
    Machine.finish ctx ⟨.afterCall n arguments, level, []⟩ =
      (ctx.called n arguments).bind fun e => (level.pushValue e).close ctx := by
  cases hcalled : ctx.called n arguments with
  | error err =>
    simp only [Machine.finish, Machine.finishCall, hcalled]
    rfl
  | ok e =>
    rw [(Machine.behind_afterCall hcalled _ _).finish_eq]
    change (Level.close ctx _).bind _ = Level.close ctx _
    cases Level.close ctx (level.pushValue e) <;> rfl

/-- A formula that is a call means what the call means, or is refused as the call is. -/
theorem run_finish_call (n : String) {items : List (List Token × Expr)}
    (hitems : ∀ i ∈ items, Derives ctx 1 i.1 i.2) :
    (Machine.start.run ctx (.identifier n :: .leftParen ::
        (Token.separated (items.map Prod.fst) ++ [.rightParen]))).bind (Machine.finish ctx) =
      ctx.called n (items.map Prod.snd) := by
  have hawaits : Machine.start.Awaits ctx .empty [] := Machine.awaits_operand .empty []
  have hrun := run_call (n := n) (fun i hi => (hitems i hi).readBy) hawaits
  have hadmits : Level.Admits 1 .empty := fun o ho => by simp [Level.empty] at ho
  -- the call is all of its level
  have hclose : ∀ e, (Level.empty.pushValue e).close ctx = .ok e :=
    fun e => (Level.piled_pushValue hadmits e).close Nat.one_pos
  rw [hrun]
  refine (finish_afterCall n _ _).trans ?_
  simp only [hclose]
  cases ctx.called n (items.map Prod.snd) <;> rfl

end Grammar

namespace Expr

/-- The text can stand as an argument and means `e` there. -/
structure IsArgument (ctx : Context) (text : String) (e : Expr) : Prop where
  /-- On its own the text is read as the expression. -/
  parse_eq : Expr.parse ctx text = .ok e
  /-- The text is not blank. -/
  tokens_ne_nil : (Scan.ofText text).tokens ≠ []
  /-- The text does not end with a semicolon. -/
  getLast?_ne : (Scan.ofText text).tokens.getLast? ≠ some (.operator .semicolon)

variable {ctx : Context}

/-- The tokens of an argument are an operand of the loosest stratum. -/
theorem IsArgument.derives {text : String} {e : Expr} (h : IsArgument ctx text e) :
    Grammar.Derives ctx 1 (Scan.ofText text).tokens e := by
  obtain ⟨hparse, hne, hlast⟩ := h
  obtain ⟨-, hformula⟩ := Grammar.Formula.of_parse hparse
  generalize (Scan.ofText text).tokens = ts at hformula hne hlast
  -- a formula is more than an operand only if it is empty or ends with a semicolon
  cases hformula with
  | empty => exact absurd rfl hne
  | level hderives => exact hderives
  | clause _ => simp at hlast

/-- A text whose tokens are an operand of the loosest stratum, and do not end with a semicolon, can
be written into formulas. -/
theorem IsArgument.of_derives {text : String} {ts : List Token} {e : Expr}
    (hscan : Scan.ofText text = ⟨ts, none⟩) (h : Grammar.Derives ctx 1 ts e)
    (hlast : ts.getLast? ≠ some (.operator .semicolon)) : IsArgument ctx text e :=
  ⟨h.parse_eq (Nat.le_refl 1) hscan, by simpa [hscan] using h.ne_nil, by simpa [hscan] using hlast⟩

/-- A text that can be written into formulas is scanned without an error. -/
theorem IsArgument.fault_eq_none {text : String} {e : Expr} (h : IsArgument ctx text e) :
    (Scan.ofText text).fault = none :=
  (Grammar.Formula.of_parse h.parse_eq).1

/-- The texts that can be written into formulas are those that are read, are not blank and do not
end with a semicolon. -/
theorem isArgument_iff {text : String} {e : Expr} :
    IsArgument ctx text e ↔ Expr.parse ctx text = .ok e ∧
      (∃ c ∈ text.toList, Text.isBlank c = false) ∧
      (Scan.ofText text).tokens.getLast? ≠ some (.operator .semicolon) := by
  have hblank : Expr.parse ctx text = .ok e →
      ((Scan.ofText text).tokens ≠ [] ↔ ∃ c ∈ text.toList, Text.isBlank c = false) := by
    intro hparse
    obtain ⟨hfault, -⟩ := Grammar.Formula.of_parse hparse
    have hnothing : (Scan.ofText text).tokens = [] ↔ Scan.ofText text = ⟨[], none⟩ :=
      ⟨fun h => by rw [← h, ← hfault], fun h => by rw [h]⟩
    rw [ne_eq, hnothing, Scanner.ofText_eq_nothing_iff]
    simp
  constructor
  · rintro ⟨hparse, hne, hlast⟩
    exact ⟨hparse, (hblank hparse).1 hne, hlast⟩
  · rintro ⟨hparse, hne, hlast⟩
    exact ⟨hparse, (hblank hparse).2 hne, hlast⟩

/-- A plain name is read as the variable, and can be written into formulas. -/
theorem IsArgument.of_isPlainName {name : String} (h : isPlainName name = true) :
    IsArgument ctx name (Kind.var name (ctx.environment.variableType name)).bare := by
  have hscan := (Scanner.spells_plain h (Text.ends_nil _)).ofText_eq
  have hderives : Grammar.Derives ctx 9 [.identifier name] _ :=
    derives_name (isName_of_isPlainName h)
  exact .of_derives hscan (hderives.loosen (by decide)) (by simp)

/-- No token of the text goes on with a character that closes it. -/
theorem IsArgument.spells {text : String} {e : Expr} (h : IsArgument ctx text e) {c : Char}
    (hc : Scanner.goesOn c = false) (rest : List Char) :
    Scanner.Spells text.toList (Scan.ofText text).tokens (c :: rest) :=
  Scanner.spells_of_scan (s := Scanner.ofText text) ((Text.ends_cons ..).2 hc) h.fault_eq_none

/-! ### Parentheses -/

/-- A text in parentheses means what it means without them. -/
theorem IsArgument.parenthesized {text : String} {e : Expr} (h : IsArgument ctx text e) :
    IsArgument ctx (Formulas.parenthesized true text) e := by
  have hspells := spells_bracketing (c := '(') rfl rfl
    (h.spells (by decide : Scanner.goesOn ')' = false) [])
  have hscan : Scan.ofText (Formulas.parenthesized true text) = _ :=
    Scanner.Spells.ofText_eq (by simpa [Formulas.parenthesized] using hspells)
  refine .of_derives hscan (h.derives.group.loosen (by decide)) ?_
  rw [← List.cons_append, List.getLast?_concat]
  simp

/-- So it does in any number of parentheses. -/
theorem IsArgument.iterate_parenthesized {text : String} {e : Expr} (h : IsArgument ctx text e)
    (k : Nat) : IsArgument ctx ((Formulas.parenthesized true)^[k] text) e := by
  induction k with
  | zero => exact h
  | succ k ih =>
    rw [Function.iterate_succ_apply']
    exact ih.parenthesized

/-! ### Lists -/

/-- The tokens of the texts of arguments, with what they mean. -/
def argumentItems (arguments : List (String × Expr)) : List (List Token × Expr) :=
  arguments.map fun a => ((Scan.ofText a.1).tokens, a.2)

@[simp]
theorem map_snd_argumentItems (arguments : List (String × Expr)) :
    (argumentItems arguments).map Prod.snd = arguments.map Prod.snd := by
  simp [argumentItems]

variable {arguments : List (String × Expr)}

/-- Every argument is an operand of the loosest stratum. -/
theorem derives_argumentItems (h : ∀ a ∈ arguments, IsArgument ctx a.1 a.2) :
    ∀ i ∈ argumentItems arguments, Grammar.Derives ctx 1 i.1 i.2 := by
  intro i hi
  obtain ⟨a, ha, rfl⟩ := List.mem_map.1 hi
  exact (h a ha).derives

/-- Arguments with commas between them are scanned as their tokens in front of a character that
closes them. -/
theorem spells_arguments (h : ∀ a ∈ arguments, IsArgument ctx a.1 a.2) {c : Char}
    (hc : Scanner.goesOn c = false) (rest : List Char) :
    Scanner.Spells (commaSeparated (arguments.map Prod.fst)).toList
      (Token.separated ((argumentItems arguments).map Prod.fst)) (c :: rest) := by
  -- a comma follows every argument but the last
  have hparts : ∀ part ∈ arguments.map fun a => (a.1, (Scan.ofText a.1).tokens),
      ∀ d ∈ [',', c], ∀ behind, Scanner.Spells part.1.toList part.2 (d :: behind) := by
    intro part hpart d hd behind
    obtain ⟨a, ha, rfl⟩ := List.mem_map.1 hpart
    have hcloses : Scanner.goesOn d = false := by
      simp only [List.mem_cons, List.not_mem_nil, or_false] at hd
      rcases hd with rfl | rfl
      · decide
      · exact hc
    exact (h a ha).spells hcloses behind
  have hseparated : Scanner.Spells _ _ (c :: rest) := Scanner.spells_separated hparts
  simpa only [argumentItems, List.map_map, Function.comp_def] using hseparated

/-- Arguments in braces are read as the array of what they mean. -/
theorem parse_array (h : ∀ a ∈ arguments, IsArgument ctx a.1 a.2) :
    Expr.parse ctx ("\x7b" ++ commaSeparated (arguments.map Prod.fst) ++ "\x7d") =
      .ok (Kind.array (arguments.map Prod.snd)).bare := by
  have hspells := spells_bracketing (c := '\x7b') rfl rfl
    (spells_arguments h (by decide : Scanner.goesOn '\x7d' = false) [])
  have hscan : Scan.ofText ("\x7b" ++ commaSeparated (arguments.map Prod.fst) ++ "\x7d") = _ :=
    Scanner.Spells.ofText_eq (by simpa using hspells)
  have hderives := Grammar.Derives.array (derives_argumentItems h)
  rw [map_snd_argumentItems] at hderives
  exact hderives.parse_eq (by decide) hscan

/-- A call is scanned as its tokens if its name is, whatever follows. -/
theorem spells_call (h : ∀ a ∈ arguments, IsArgument ctx a.1 a.2) {cs : List Char}
    {ts : List Token} (hname : ∀ rest, Scanner.Spells cs ts ('(' :: rest)) (rest : List Char) :
    Scanner.Spells (cs ++ '(' :: ((commaSeparated (arguments.map Prod.fst)).toList ++ [')']))
      (ts ++ .leftParen ::
        (Token.separated ((argumentItems arguments).map Prod.fst) ++ [.rightParen])) rest := by
  have harguments := spells_arguments h (by decide : Scanner.goesOn ')' = false) rest
  exact (hname _).append (spells_bracketing rfl rfl harguments)

/-- A call is read as what its name means with what the arguments mean, or refused as that call is,
in whatever way the name is written. -/
theorem parse_call (h : ∀ a ∈ arguments, IsArgument ctx a.1 a.2) {name text : String}
    {cs : List Char} (hname : ∀ rest, Scanner.Spells cs [.identifier name] ('(' :: rest))
    (htext : text.toList =
      cs ++ '(' :: ((commaSeparated (arguments.map Prod.fst)).toList ++ [')'])) :
    Expr.parse ctx text = ctx.called name (arguments.map Prod.snd) := by
  have hscan : Scan.ofText text = _ :=
    Scanner.Spells.ofText_eq (by rw [htext]; exact spells_call h hname [])
  have hcall := Grammar.run_finish_call name (derives_argumentItems h)
  rw [map_snd_argumentItems] at hcall
  rw [Expr.parse_of_tokens_ne_nil ctx (by simp [hscan]), hscan]
  exact hcall

/-- Texts that can be written into formulas mean there what they mean on their own. With commas
between them and in braces they are the array of what they mean. In any number of parentheses one
of them means what it means without. Behind a plain name, in parentheses, they are the call of that
name with what they mean, or are refused as that call is. -/
theorem parse_composed (h : ∀ a ∈ arguments, IsArgument ctx a.1 a.2) :
    let list := commaSeparated (arguments.map Prod.fst)
    let meanings := arguments.map Prod.snd
    Expr.parse ctx ("\x7b" ++ list ++ "\x7d") = .ok (Kind.array meanings).bare ∧
      (∀ a ∈ arguments, ∀ k, Expr.parse ctx ((Formulas.parenthesized true)^[k] a.1) = .ok a.2) ∧
      ∀ name, isPlainName name = true →
        Expr.parse ctx (name ++ "(" ++ list ++ ")") = ctx.called name meanings := by
  refine ⟨parse_array h, fun a ha k => ((h a ha).iterate_parenthesized k).parse_eq, ?_⟩
  intro name hplain
  have hname : ∀ rest, Scanner.Spells name.toList [.identifier name] ('(' :: rest) :=
    fun rest => Scanner.spells_plain hplain ((Text.ends_cons ..).2 (by decide))
  exact parse_call h hname (by simp)

/-- A text with a semicolon in it and one that ends with a unit, in braces, in parentheses, as the
arguments of a function that is not known, and as those of an iteration, which takes three. -/
theorem parse_composed_pair :
    let ctx : Context := .standard .empty
    let clause := (Kind.binary .and (Kind.var "x" .object).bare (Kind.var "y" .object).bare).bare
    let duration : Expr := ⟨.var "x" .object, some "h"⟩
    IsArgument ctx "x;y" clause ∧ IsArgument ctx "x hours" duration ∧
      Expr.parse ctx "\x7bx;y,x hours\x7d" = .ok (Kind.array [clause, duration]).bare ∧
      Expr.parse ctx "((x;y))" = .ok clause ∧
      Expr.parse ctx "f(x;y,x hours)" = .ok (Kind.call "f" .object [clause, duration]).bare ∧
      Expr.parse ctx "each(x;y,x hours)" = .error (.grammar (.call .eachArity)) := by
  intro ctx clause duration
  have hname : ∀ n, isPlainName n = true →
      Grammar.Derives ctx 9 [.identifier n] (Kind.var n .object).bare :=
    fun n hn => derives_name (isName_of_isPlainName hn)
  have hx := hname "x" (by decide)
  have hy := hname "y" (by decide)
  have hclause : IsArgument ctx "x;y" clause :=
    .of_derives (by decide +kernel)
      (.binary (by decide : Operator.and ∈ Grammar.joining 1) .semicolon rfl
        (hx.loosen (by decide)) (hy.loosen (by decide)))
      (by decide)
  have hunit : Grammar.IsUnitWord "hours" := by
    constructor <;> decide
  have hduration : IsArgument ctx "x hours" duration :=
    .of_derives (by decide +kernel) ((hx.unit hunit).loosen (by decide)) (by decide)
  have harguments : ∀ a ∈ [("x;y", clause), ("x hours", duration)], IsArgument ctx a.1 a.2 := by
    simp only [List.forall_mem_cons, List.not_mem_nil, false_implies, implies_true, and_true]
    exact ⟨hclause, hduration⟩
  obtain ⟨harray, hgroup, hcall⟩ := parse_composed harguments
  have hunknown : ctx.called "f" [clause, duration] =
      .ok (Kind.call "f" .object [clause, duration]).bare := by
    simp only [Context.called, show ctx.registry.get? "f" = none by decide]
    rfl
  have hbuiltin : ctx.called "each" [clause, duration] =
      .error (.grammar (.call .eachArity)) := by
    simp only [Context.called, show ctx.registry.get? "each" = some .each by decide]
    rfl
  have hf : Expr.parse ctx "f(x;y,x hours)" = _ := hcall "f" (by decide)
  have heach : Expr.parse ctx "each(x;y,x hours)" = _ := hcall "each" (by decide)
  exact ⟨hclause, hduration, harray, hgroup ("x;y", clause) List.mem_cons_self 2,
    hf.trans hunknown, heach.trans hbuiltin⟩

end Expr

end Formulas
