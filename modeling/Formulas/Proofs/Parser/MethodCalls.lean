import Formulas.Proofs.Environment.Growth
import Formulas.Proofs.Grammar.Nodes
import Formulas.Proofs.Parser.Composition

/-!
# Calls of functions with dotted names

A function of the environment may have a dotted name. A call of it can be written with the whole
name in brackets, or as a call of the last name behind a dot. In the second form the last name is
called as a function of its own first, and the dot then puts the path in front of the name of that
call. So both forms mean the same, unless the last name is that of a built-in function: what such a
function makes of the arguments cannot stand behind a dot.

## Main definitions

* `bracketedCall` and `methodCall`: the two forms of a call.

## Main results

* `Grammar.Derives.run_method`: a call behind a dot is what the dot makes of the path and of the
  call by itself, errors included;
* `Expr.exists_parse_methodCall_eq_error`: no method has the name of a built-in function;
* `Expr.parse_methodCall`: both forms of a call of a function with a dotted name.
-/

namespace Formulas

/-- The text of a call with the whole name in brackets. -/
def bracketedCall (path : String) (arguments : List String) : String :=
  "[" ++ path ++ "](" ++ commaSeparated arguments ++ ")"

/-- The text of a call of the last name of a path behind a dot. -/
def methodCall (path : String) (arguments : List String) : String :=
  path ++ "(" ++ commaSeparated arguments ++ ")"

namespace Grammar

variable {ctx : Context}

/-- Behind a call that ends the formula, on a pile with a dot, the machine asks what the call means
and puts the dot between the pile and that. -/
theorem finish_method {first left : Expr} {others : List (Operator × Expr)}
    (hothers : ∀ o ∈ others, o.1 ∈ joining 8) (hjoin : Level.joinAll ctx first others = .ok left)
    (n : String) (arguments : List Expr) :
    Machine.finish ctx
        ⟨.afterCall n arguments, (Level.empty.joined first others).withOperator .dot, []⟩ =
      (ctx.called n arguments).bind (ctx.dot left) := by
  rw [finish_afterCall]
  congr 1
  funext right
  -- the call is one more entry of the pile
  have hclose := Level.close_joined ctx first
    (Level.mem_joining_concat hothers (by simp [joining] : Operator.dot ∈ joining 8) right)
    (by decide)
  rw [Level.joined_concat, Level.joinAll_concat, hjoin] at hclose
  exact hclose

/-- A call behind a dot is what the dot makes of the left side and of what the call means by
itself. -/
theorem Derives.run_method {us : List Token} {left : Expr} (hleft : Derives ctx 8 us left)
    (n : String) {items : List (List Token × Expr)} (hitems : ∀ i ∈ items, Derives ctx 1 i.1 i.2) :
    (Machine.start.run ctx (us ++ .operator .dot :: .identifier n :: .leftParen ::
        (Token.separated (items.map Prod.fst) ++ [.rightParen]))).bind (Machine.finish ctx) =
      (ctx.called n (items.map Prod.snd)).bind (ctx.dot left) := by
  have hadmits : Level.Admits 8 .empty := fun o ho => by simp [Level.empty] at ho
  -- the left side is a pile of dots, on which the dot in front of the call is put
  obtain ⟨m, level, hrun, hbehind, hpiled⟩ :=
    hleft.readBy (Machine.awaits_operand .empty []) hadmits Level.balanced_empty
  obtain ⟨first, others, hothers, hjoin, hreduce⟩ := hpiled.pile (by decide)
  have hdot : Operator.dot ∈ joining 8 := by simp [joining]
  have hbalanced := Level.balanced_empty.joined hadmits first hothers hdot
  obtain ⟨m', hstep, hawaits⟩ := hbehind.step_operator hdot (.sign (by simp)) hreduce hbalanced
  have hcall := run_call (n := n) (fun i hi => (hitems i hi).readBy) hawaits
  rw [Machine.run_append, show Machine.start.run ctx us = _ from hrun]
  change (m.run ctx (_ :: _)).bind _ = _
  rw [run_cons hstep, hcall]
  exact finish_method hothers hjoin n _

end Grammar

namespace Context

variable {environment : Environment}

/-- A name that is that of no built-in function is called as it is. -/
theorem called_of_get?_eq_none {name : String} (h : Registry.standard.get? name = none)
    (arguments : List Expr) :
    (standard environment).called name arguments =
      .ok (Kind.call name (((standard environment).resultType? name arguments).getD .object)
        arguments).bare := by
  rw [called, standard, h]

/-- What a built-in function makes cannot stand behind a dot. -/
theorem exists_dot_eq_error (ctx : Context) (left : Expr) {right : Expr}
    (h : right.kind.isBuilt = true) : ∃ err, ctx.dot left right = .error err := by
  cases hdot : ctx.dot left right with
  | error err => exact ⟨err, rfl⟩
  | ok e =>
    obtain ⟨hjoins, -⟩ := dot_eq_ok_iff.1 hdot
    -- a dot takes a name, a property or a call on its right
    generalize right.kind = kind, e.kind = whole at h hjoins
    cases hjoins <;> cases h

/-- A call of a built-in function does not stand behind a dot, whether or not the function takes the
arguments. -/
theorem exists_called_bind_dot_eq_error {name : String} (h : Registry.standard.get? name ≠ none)
    (left : Expr) (arguments : List Expr) :
    ∃ err, ((standard environment).called name arguments).bind ((standard environment).dot left) =
      .error err := by
  obtain ⟨f, hf⟩ := Option.ne_none_iff_exists'.1 h
  rw [called, standard, hf]
  dsimp only
  cases hbuild : f.build arguments with
  | error err => exact ⟨_, rfl⟩
  | ok kind =>
    have hbuilt : kind.bare.kind.isBuilt = true := Builtin.isBuilt_of_build hbuild
    exact exists_dot_eq_error _ left hbuilt

/-- A call of a name of no built-in function stands behind a dot as the call of the dotted name, if
that is known. -/
theorem called_bind_dot_eq {name path : String} (h : Registry.standard.get? name = none)
    {left : Expr} (hpath : pathOf? left = some path) {arguments : List Expr} {type : ValueType}
    (htype : (standard environment).resultType? (path ++ "." ++ name) arguments = some type) :
    ((standard environment).called name arguments).bind ((standard environment).dot left) =
      .ok (Kind.call (path ++ "." ++ name) type arguments).bare := by
  rw [called_of_get?_eq_none h]
  exact dot_eq_ok_iff.2 ⟨.call hpath htype, rfl⟩

end Context

namespace Expr

variable {ctx : Context} {arguments : List (String × Expr)}

/-- A call with the whole name in brackets is read as a call of that name. -/
theorem parse_bracketedCall (h : ∀ a ∈ arguments, IsArgument ctx a.1 a.2) {path : String}
    (hpath : ']' ∉ path.toList) {e : Expr}
    (hcall : ctx.called path (arguments.map Prod.snd) = .ok e) :
    Expr.parse ctx (bracketedCall path (arguments.map Prod.fst)) = .ok e := by
  rw [← hcall]
  refine parse_call h (fun rest => Scanner.spells_bracketed hpath ('(' :: rest)) ?_
  simp [bracketedCall]

/-- A call behind a path of plain names is read as what the dot makes of the path and of the call of
the last name. -/
theorem exists_parse_methodCall_eq (h : ∀ a ∈ arguments, IsArgument ctx a.1 a.2)
    {front : List String} (hfront : front ≠ []) {last : String}
    (hplain : ∀ n ∈ front ++ [last], isPlainName n = true) :
    ∃ left, Context.pathOf? left = some (".".intercalate front) ∧
      Expr.parse ctx (methodCall (".".intercalate (front ++ [last])) (arguments.map Prod.fst)) =
        (ctx.called last (arguments.map Prod.snd)).bind (ctx.dot left) := by
  obtain ⟨left, hleft, hpath⟩ := Grammar.derives_dotted hfront
    fun n hn => hplain n (List.mem_append_left _ hn)
  refine ⟨left, hpath, ?_⟩
  have hname : ∀ rest, Scanner.Spells (".".intercalate (front ++ [last])).toList
      (Token.dotted (front ++ [last])) ('(' :: rest) :=
    fun rest => Scanner.spells_dotted hplain ((Text.ends_cons ..).2 (by decide))
  have hspells := spells_call h hname []
  have hscan : Scan.ofText
      (methodCall (".".intercalate (front ++ [last])) (arguments.map Prod.fst)) = _ :=
    Scanner.Spells.ofText_eq (by simpa [methodCall] using hspells)
  have hmethod := hleft.run_method last (derives_argumentItems h)
  rw [map_snd_argumentItems] at hmethod
  rw [Expr.parse_of_tokens_ne_nil ctx (by simp [hscan]), hscan, ← hmethod,
    Token.dotted_concat hfront, List.append_assoc]
  rfl

/-- No method has the name of a built-in function: the text is refused, whatever functions the
environment has. -/
theorem exists_parse_methodCall_eq_error {environment : Environment}
    (h : ∀ a ∈ arguments, IsArgument (.standard environment) a.1 a.2) {front : List String}
    (hfront : front ≠ []) {last : String} (hplain : ∀ n ∈ front ++ [last], isPlainName n = true)
    (hbuiltin : Registry.standard.get? last ≠ none) :
    ∃ err, Expr.parse (.standard environment)
      (methodCall (".".intercalate (front ++ [last])) (arguments.map Prod.fst)) = .error err := by
  obtain ⟨left, -, hparse⟩ := exists_parse_methodCall_eq h hfront hplain
  rw [hparse]
  exact Context.exists_called_bind_dot_eq_error hbuiltin left _

/-- A function with a dotted name is called by the whole name in brackets, for any number of
arguments, and in the same way by the last name behind a dot, unless that is the name of a built-in
function. Then the text is refused. -/
theorem parse_methodCall {environment : Environment} (hreach : environment.Reachable)
    {front : List String} (hfront : front ≠ []) {last : String}
    (hplain : ∀ n ∈ front ++ [last], isPlainName n = true) {s : Signature}
    (hs : s ∈ environment.signaturesOf (".".intercalate (front ++ [last])))
    (harguments : ∀ a ∈ arguments, IsArgument (.standard environment) a.1 a.2) :
    let path := ".".intercalate (front ++ [last])
    let texts := arguments.map Prod.fst
    let call := (Kind.call path s.result (arguments.map Prod.snd)).bare
    Expr.parse (.standard environment) (bracketedCall path texts) = .ok call ∧
      (Registry.standard.get? last = none →
        Expr.parse (.standard environment) (methodCall path texts) = .ok call) ∧
      (Registry.standard.get? last ≠ none →
        ∃ err, Expr.parse (.standard environment) (methodCall path texts) = .error err) := by
  intro path texts call
  have hpath : path = ".".intercalate front ++ "." ++ last := by
    dsimp only [path]
    rw [String.intercalate_append_of_ne_nil hfront (by simp), String.intercalate_singleton]
  have htype : (Context.standard environment).resultType? path (arguments.map Prod.snd) =
      some s.result := hreach.resultType?_eq hs _
  refine ⟨?_, fun hnone => ?_, exists_parse_methodCall_eq_error harguments hfront hplain⟩
  · -- the name of a built-in function has no point
    refine parse_bracketedCall harguments (bracket_notMem_intercalate hplain) ?_
    have hpoint : '.' ∈ path.toList := by simp [hpath]
    rw [Context.called_of_get?_eq_none (Registry.get?_of_point hpoint), htype]
    rfl
  · obtain ⟨left, hleft, hparse⟩ := exists_parse_methodCall_eq harguments hfront hplain
    rw [hpath] at htype
    rw [hparse, Context.called_bind_dot_eq hnone hleft htype, ← hpath]

/-- The function `a.m` of one argument is called with two, in both forms. The name `a` in front of
the dot is a variable. -/
theorem parse_methodCall_pair :
    let environment : Environment := ⟨[("a", .string)], [⟨"a.m", [.object], .number⟩]⟩
    let call := (Kind.call "a.m" .number
      [(Kind.var "x" .object).bare, (Kind.var "y" .object).bare]).bare
    environment.Reachable ∧ Expr.parse (.standard environment) "[a.m](x,y)" = .ok call ∧
      Expr.parse (.standard environment) "a.m(x,y)" = .ok call := by
  intro environment call
  have hreach : environment.Reachable :=
    .register (r := .signature ⟨"a.m", [.object], .number⟩)
      (.register (r := .binding "a" .string) .refl rfl) rfl
  have hplain : ∀ n ∈ ["a"] ++ ["m"], isPlainName n = true := by decide
  have hs : ⟨"a.m", [.object], .number⟩ ∈
      environment.signaturesOf (".".intercalate (["a"] ++ ["m"])) := by decide
  have harguments : ∀ a ∈ [("x", (Kind.var "x" .object).bare), ("y", (Kind.var "y" .object).bare)],
      IsArgument (.standard environment) a.1 a.2 := by
    simp only [List.forall_mem_cons, List.not_mem_nil, false_implies, implies_true, and_true]
    exact ⟨.of_isPlainName (by decide), .of_isPlainName (by decide)⟩
  obtain ⟨hbracketed, hmethod, -⟩ := parse_methodCall hreach (by decide) hplain hs harguments
  exact ⟨hreach, hbracketed, hmethod (by decide)⟩

/-- The function `a.sum` is called by its name in brackets, but not behind a dot, where `sum(x)` is
a call of the built-in function. -/
theorem parse_method_sum :
    let environment : Environment := ⟨[], [⟨"a.sum", [.object], .number⟩]⟩
    environment.Reachable ∧ (∀ n ∈ ["a", "sum"], isPlainName n = true) ∧
      environment.signaturesOf (".".intercalate ["a", "sum"]) ≠ [] ∧
      IsArgument (.standard environment) "x" (Kind.var "x" .object).bare ∧
      Expr.parse (.standard environment) "[a.sum](x)" =
        .ok (Kind.call "a.sum" .number [(Kind.var "x" .object).bare]).bare ∧
      ∃ err, Expr.parse (.standard environment) "a.sum(x)" = .error err := by
  intro environment
  have hreach : environment.Reachable :=
    .register (r := .signature ⟨"a.sum", [.object], .number⟩) .refl rfl
  have hplain : ∀ n ∈ ["a"] ++ ["sum"], isPlainName n = true := by decide
  have hargument : IsArgument (.standard environment) "x" (Kind.var "x" .object).bare :=
    .of_isPlainName (by decide)
  have harguments : ∀ a ∈ [("x", (Kind.var "x" .object).bare)],
      IsArgument (.standard environment) a.1 a.2 := by simpa using hargument
  have hbracketed := parse_bracketedCall harguments (bracket_notMem_intercalate hplain) rfl
  have hmethod := exists_parse_methodCall_eq_error harguments (by decide) hplain (by decide)
  exact ⟨hreach, hplain, by decide, hargument, hbracketed, hmethod⟩

end Expr

end Formulas
