import Formulas.Proofs.Printer.Tokens
import Formulas.Proofs.Scan.Pieces

/-!
# Printed expressions are scanned as their tokens

The canonical text of a well-formed expression is scanned as its tokens wherever no name goes on
behind it and no point follows that could belong to a number.

## Main definitions

* `Expr.Precedes`: what may stand behind the text of an expression;
* `Expr.IsSpelled`: the text of an expression is scanned as its tokens.

## Main results

* `Expr.isSpelled`: this holds of every well-formed expression;
* `Expr.scan_toText`: the scan of a text that is printed.
-/

namespace Formulas

open Scanner Text

namespace Expr

/-- The text can stand behind the text of the expression: no name goes on in it, and it starts with
a point only behind what a dot can follow. -/
def Precedes (e : Expr) (rest : List Char) : Prop :=
  Ends continuesName rest ∧
    (Ends (· == '.') rest ∨ Operator.dot.precedence ≤ e.precedence ∧ e.isWhole = false)

/-- The text of the expression is scanned as its tokens, whatever may stand behind it. -/
def IsSpelled (e : Expr) : Prop :=
  ∀ rest, e.Precedes rest → Spells e.toText.toList e.tokens rest

/-- Every expression may stand in front of a character that is neither a point nor part of a
name. -/
theorem precedes_cons (e : Expr) {c : Char} (hc : continuesName c = false) (hpoint : c ≠ '.')
    (rest : List Char) : e.Precedes (c :: rest) :=
  ⟨(ends_cons ..).2 hc, .inl ((ends_cons ..).2 (by simpa using hpoint))⟩

/-- What is scanned as its tokens is so in brackets. -/
theorem spells_bracketing {c d : Char} {t u : Token} (hopen : mark? c = some t)
    (hclose : mark? d = some u) {cs rest : List Char} {ts : List Token}
    (h : Spells cs ts (d :: rest)) : Spells (c :: (cs ++ [d])) (t :: (ts ++ [u])) rest :=
  (spells_mark hopen (cs ++ [d] ++ rest)).append (.append h (spells_mark hclose rest))

/-- No point stands behind an operation. -/
theorem Precedes.ends_point {e : Expr} {rest : List Char} (h : e.Precedes rest)
    (hprecedence : e.precedence < Operator.dot.precedence) : Ends (· == '.') rest := by
  rcases h.2 with hpoint | ⟨hle, -⟩
  · exact hpoint
  · omega

/-- Where neither a name goes on nor a point follows, the text can stand behind every expression. -/
theorem precedes_of_ends (e : Expr) {rest : List Char} (hname : Ends continuesName rest)
    (hpoint : Ends (· == '.') rest) : e.Precedes rest :=
  ⟨hname, .inl hpoint⟩

/-- An expression in parentheses, or one that needs none, is scanned as its tokens. -/
theorem IsSpelled.parenthesized {e : Expr} (h : e.IsSpelled) (needed : Bool) {rest : List Char}
    (hrest : needed = false → e.Precedes rest) :
    Spells (parenthesized needed e.toText).toList (Token.parenthesized needed e.tokens) rest := by
  cases needed with
  | false => exact h rest (hrest rfl)
  | true =>
    have hinner := h (')' :: rest) (e.precedes_cons (by decide) (by decide) rest)
    simpa [Formulas.parenthesized, Token.parenthesized] using spells_bracketing rfl rfl hinner

/-- Expressions with commas between them are scanned as their tokens in front of a bracket. -/
theorem spells_commaSeparated {es : List Expr} (h : ∀ e ∈ es, e.IsSpelled) {c : Char}
    (hc : continuesName c = false) (hpoint : c ≠ '.') (rest : List Char) :
    Spells (commaSeparated (es.map toText)).toList (Token.separated (es.map tokens))
      (c :: rest) := by
  have hparts : ∀ part ∈ es.map fun e => (e.toText, e.tokens), ∀ d ∈ [',', c], ∀ behind,
      Spells part.1.toList part.2 (d :: behind) := by
    intro part hpart d hd behind
    obtain ⟨e, he, rfl⟩ := List.mem_map.1 hpart
    have hd : continuesName d = false ∧ d ≠ '.' := by
      simp only [List.mem_cons, List.not_mem_nil, or_false] at hd
      rcases hd with rfl | rfl
      · decide
      · exact ⟨hc, hpoint⟩
    exact h e he _ (e.precedes_cons hd.1 hd.2 behind)
  have hseparated : Spells _ _ (c :: rest) := spells_separated hparts
  simpa [Function.comp_def] using hseparated

/-- A call is scanned as its tokens if its arguments are, whatever follows. -/
theorem spells_callText {name : String} (hname : ']' ∉ name.toList) {es : List Expr}
    (h : ∀ e ∈ es, e.IsSpelled) (rest : List Char) :
    Spells (callText name (es.map toText)).toList (Token.call name (es.map tokens)) rest := by
  have harguments :=
    spells_commaSeparated h (by decide : continuesName ')' = false) (by decide) rest
  have hbehind := spells_bracketing (c := '(') rfl rfl harguments
  have hfirst : ∀ rest, Spells (nameText name).toList [.identifier name] ('(' :: rest) :=
    fun rest => spells_nameText hname ((ends_cons ..).2 (by decide))
  simpa [callText, Token.call] using (hfirst _).append hbehind

/-- The operator of a node between its operands, with the blanks around it. -/
theorem exists_infixText {op : Operator} (hop : op.JoinsNode) :
    ∃ c cs, continuesName c = false ∧ c ≠ '.' ∧
      (∀ left right, (infixText op left right).toList = left.toList ++ (c :: cs ++ right.toList)) ∧
      ∀ rest, Spells (c :: cs) [.operator op] rest := by
  -- `^` is the only one of these operators that is written without blanks
  by_cases hpower : op = .power
  · subst hpower
    exact ⟨'^', [], by decide, by decide, by simp [infixText, Operator.symbol], spells_mark rfl⟩
  · have hdot : op ≠ .dot := by
      rcases hop with rfl | ⟨node, rfl⟩
      · decide
      · cases node <;> decide
    have hspells := spells_symbol hop
    refine ⟨' ', op.symbol.toList ++ [' '], by decide, by decide, fun left right => ?_, ?_⟩
    · rw [infixText.eq_3 _ _ _ hpower hdot]
      simp
    · simpa using hspells

/-- Two operands around an operator are scanned as their tokens. -/
theorem spells_infixText {op : Operator} (hop : op.JoinsNode)
    {left right : Expr} (hleft : left.IsSpelled) (hright : right.IsSpelled) (l r : Bool)
    {rest : List Char} (hrest : right.Precedes rest) :
    Spells (infixText op (parenthesized l left.toText) (parenthesized r right.toText)).toList
      (Token.parenthesized l left.tokens ++ .operator op :: Token.parenthesized r right.tokens)
      rest := by
  obtain ⟨c, cs, hc, hpoint, htext, hspells⟩ := exists_infixText hop
  rw [htext]
  have hbehind := (hspells _).append (hright.parenthesized r fun _ => hrest)
  refine (hleft.parenthesized l fun _ => ?_).append hbehind
  exact left.precedes_cons hc hpoint _

/-- The text starts with a character other than an equals sign. -/
def StartsOperand (cs : List Char) : Prop := ∃ c rest, cs = c :: rest ∧ c ≠ '='

theorem StartsOperand.append {cs : List Char} (h : StartsOperand cs) (cs' : List Char) :
    StartsOperand (cs ++ cs') := by
  obtain ⟨c, rest, rfl, hc⟩ := h
  exact ⟨c, rest ++ cs', rfl, hc⟩

theorem startsOperand_nameText (name : String) : StartsOperand (nameText name).toList := by
  unfold nameText
  split
  next hplain =>
    obtain ⟨c, cs, hname, hstart, -⟩ := exists_of_isPlainName hplain
    refine ⟨c, cs, hname, ?_⟩
    rintro rfl
    exact absurd hstart (by decide)
  next => exact ⟨'[', name.toList ++ [']'], by simp, by decide⟩

theorem startsOperand_callText (name : String) (arguments : List String) :
    StartsOperand (callText name arguments).toList := by
  have hname := startsOperand_nameText name
  simpa [callText] using hname.append _

theorem startsOperand_number {x : Number} (hnan : x ≠ .nan) (hsign : x.isNegative = false) :
    StartsOperand x.toText.toList := by
  cases x with
  | nan => contradiction
  | infinite negative =>
    cases hsign
    exact ⟨'i', ['n', 'f'], rfl, by decide⟩
  | finite negative units hfits =>
    cases hsign
    obtain ⟨whole, fraction, htext, hwritten⟩ := Number.exists_writtenAs hfits
    obtain ⟨c, cs, rfl⟩ := List.exists_cons_of_ne_nil hwritten.whole_ne_nil
    have hc : c.isDigit = true := hwritten.isDigit_whole c (by simp)
    rw [toList_toText hfits, htext]
    refine ⟨c, cs ++ Number.pointed fraction, rfl, ?_⟩
    rintro rfl
    exact absurd hc (by decide)

theorem StartsOperand.parenthesized {text : String} (h : StartsOperand text.toList)
    (needed : Bool) : StartsOperand (parenthesized needed text).toList := by
  cases needed with
  | false => exact h
  | true => exact ⟨'(', text.toList ++ [')'], by simp [Formulas.parenthesized], by decide⟩

theorem StartsOperand.infixText {op : Operator}
    (hop : op.JoinsNode) {left : String}
    (h : StartsOperand left.toList) (right : String) :
    StartsOperand (infixText op left right).toList := by
  obtain ⟨c, cs, -, -, htext, -⟩ := exists_infixText hop
  rw [htext]
  exact h.append _

theorem startsOperand_constant {environment : Environment} {c : Constant}
    (h : (Kind.constant c).WellFormed environment) : StartsOperand c.toText.toList := by
  cases c with
  | boolean b => cases b <;> exact ⟨_, _, rfl, by decide⟩
  | number x => exact startsOperand_number h.1 h.2
  | string s => exact ⟨'"', _, String.toList_ofList .., by decide⟩
  | dateTime d =>
    rw [Constant.toText]
    simp only [String.toList_append]
    refine ((StartsOperand.append ?_ _).append _).append _
    split <;> exact ⟨_, _, rfl, by decide⟩
  | null => exact ⟨_, _, rfl, by decide⟩

/-- No printed expression starts with an equals sign, so a `!` in front of it stays a sign of its
own. -/
theorem startsOperand_toText {environment : Environment} {e : Expr}
    (h : ∀ n ∈ e.nodes, n.WellFormed environment) : StartsOperand e.toText.toList := by
  refine induction_on_written (R := fun e => StartsOperand e.toText.toList)
    (fun kind unit hall hpart _ => ?_) h
  have hwf := (hall _ (mem_nodes_self _)).kind
  have hkind : StartsOperand kind.toText.toList := by
    cases kind using Kind.cases_written with
    | call kind name arguments hcall =>
      rw [Kind.toText_of_call? hcall]
      exact startsOperand_callText ..
    | constant c => exact startsOperand_constant hwf
    | var name type => exact startsOperand_nameText name
    | property base name type =>
      have hbase := hpart base (by simp [children])
      simp only [Kind.toText, String.toList_append, List.append_assoc]
      exact (hbase.parenthesized _).append _
    | binary op left right =>
      have hleft := hpart left (by simp [children])
      exact (hleft.parenthesized _).infixText (.inr ⟨op, rfl⟩) _
    | unary op operand =>
      simp only [Kind.toText, String.toList_append]
      cases op <;> exact ⟨_, _, rfl, by decide⟩
    | union left right =>
      have hleft := hpart left (by simp [children])
      exact (hleft.parenthesized _).infixText (.inl rfl) _
    | array items => exact ⟨'\x7b', _, by simp [Kind.toText]; rfl, by decide⟩
    | each collection name body => exact startsOperand_callText ..
  cases unit with
  | none => exact hkind
  | some unit =>
    simp only [toText, String.toList_append, List.append_assoc]
    exact (hkind.parenthesized _).append _

/-- A date-time is written as a call with its text, which needs no escapes. -/
theorem toText_dateTime (d : DateTime) :
    (Constant.dateTime d).toText =
      callText (if d.offset.isSome then "DATETIMEOFFSET" else "DATETIME")
        [(Expr.string d.toText).toText] := by
  -- neither a quote nor a backslash occurs in a date-time
  have hplain : DateTime.alphabet.all (fun c => !(c == '"' || c == '\\')) = true := by decide
  have hescaped : escaped d.chars = d.chars := by
    refine escaped_eq_self fun c hc => ?_
    simpa using List.all_eq_true.1 hplain c (DateTime.mem_alphabet_of_mem_chars c hc)
  have hstring : (Expr.string d.toText).toText = "\"" ++ d.toText ++ "\"" := by
    change stringText d.toText = _
    rw [← String.toList_inj, toList_stringText, DateTime.toText, String.toList_ofList, hescaped]
    simp
  have hname : ∀ b : Bool, nameText (if b then "DATETIMEOFFSET" else "DATETIME") =
      if b then "DATETIMEOFFSET" else "DATETIME" := by decide
  rw [callText, hname, hstring, commaSeparated, Constant.toText, ← String.toList_inj]
  simp

/-- A number that is not negative is scanned as its token. -/
theorem isSpelled_number {x : Number} (hnan : x ≠ .nan) (hsign : x.isNegative = false) :
    (number x).IsSpelled := by
  rintro rest ⟨hname, hpoint⟩
  cases x with
  | nan => contradiction
  | infinite negative =>
    cases hsign
    exact spells_infinite hname
  | finite negative units hfits =>
    cases hsign
    refine spells_number hfits (hname.mono fun c => continuesName_of_isDigit) fun hwhole => ?_
    -- behind a whole number no point is allowed
    rcases hpoint with hpoint | ⟨-, hnot⟩
    · exact hpoint
    · change (Number.toInt? (.finite false units hfits)).isSome = false at hnot
      rw [Number.toInt?, if_pos hwhole] at hnot
      cases hnot

/-- A string is scanned as its token. -/
theorem isSpelled_string (s : String) : (string s).IsSpelled :=
  fun rest _ => spells_stringText s rest

/-- A literal is scanned as its tokens. -/
theorem isSpelled_constant {environment : Environment} {c : Constant}
    (h : (Kind.constant c).WellFormed environment) : (Kind.constant c).bare.IsSpelled := by
  cases c with
  | boolean b =>
    rintro rest ⟨hname, -⟩
    cases b with
    | true => exact spells_word (by decide) (List.all_eq_true.1 (by decide)) (by decide) hname
    | false => exact spells_word (by decide) (List.all_eq_true.1 (by decide)) (by decide) hname
  | number x => exact isSpelled_number h.1 h.2
  | string s => exact isSpelled_string s
  | dateTime d =>
    intro rest _
    have hname : ∀ b : Bool,
        ']' ∉ (if b then "DATETIMEOFFSET" else "DATETIME" : String).toList := by decide
    change Spells (Constant.dateTime d).toText.toList _ rest
    rw [toText_dateTime]
    have hargument : ∀ e ∈ [string d.toText], e.IsSpelled := by simp [isSpelled_string]
    exact spells_callText (hname _) hargument rest
  | null =>
    rintro rest ⟨hname, -⟩
    exact spells_word (by decide) (List.all_eq_true.1 (by decide)) (by decide) hname

/-- A name that is written does not go on the digits in front of it. -/
theorem ends_isDigit_nameText (name : String) (rest : List Char) :
    Ends Char.isDigit ((nameText name).toList ++ rest) := by
  unfold nameText
  split
  next hplain =>
    obtain ⟨c, cs, hname, hstart, -⟩ := exists_of_isPlainName hplain
    rw [hname, List.cons_append, ends_cons, ← Bool.not_eq_true]
    intro hdigit
    rw [startsName_of_isDigit hdigit] at hstart
    cases hstart
  next => simp

/-- A whole number with the point of a property behind it is scanned as the number. -/
theorem spells_whole_point {environment : Environment} {base : Expr}
    (hbase : base.WellFormed environment) (hwhole : base.isWhole = true) {rest : List Char}
    (hrest : Ends Char.isDigit rest) : Spells (base.toText.toList ++ ['.']) base.tokens rest := by
  unfold isWhole at hwhole
  split at hwhole
  next x =>
    have hsign : x.isNegative = false := hbase.kind.2
    cases x with
    | nan | infinite => simp [Number.toInt?] at hwhole
    | finite negative units hfits =>
      cases hsign
      by_cases hdvd : Number.unitsOfOne ∣ units
      · exact spells_number_point hfits hdvd hrest
      · simp [Number.toInt?, hdvd] at hwhole
  next => cases hwhole

/-- A property is scanned as its base, a dot and its name, but without the dot if the base is a
whole number. -/
theorem isSpelled_property {environment : Environment} {base : Expr}
    (hbase : base.WellFormed environment) (h : base.IsSpelled) {name : String}
    (hname : ']' ∉ name.toList) (type : ValueType) :
    (Kind.property base name type).bare.IsSpelled := by
  rintro rest ⟨hrest, -⟩
  have hlast := spells_nameText hname hrest
  simp only [Kind.bare, toText, Kind.toText, tokens, Kind.tokens, String.toList_append]
  by_cases hwhole : base.isWhole = true
  · -- the digits take the point, and the name behind it does not go on with digits
    have hneeded : decide (base.precedence < Operator.dot.precedence) = false := by
      unfold isWhole at hwhole
      split at hwhole
      · rfl
      · cases hwhole
    rw [hneeded, if_pos hwhole]
    exact (spells_whole_point hbase hwhole (ends_isDigit_nameText name rest)).append hlast
  · -- the point is a dot, which what the base ends with does not take
    have hdot := (spells_mark (c := '.') rfl _).append hlast
    rw [if_neg hwhole, List.append_assoc]
    refine (h.parenthesized _ fun hneeded => ⟨?_, .inr ⟨?_, ?_⟩⟩).append hdot
    · exact (ends_cons ..).2 (by decide)
    · simpa using hneeded
    · simpa using hwhole

/-- A prefix operator and its operand are scanned as their tokens. -/
theorem isSpelled_unary {operand : Expr} (h : operand.IsSpelled)
    (hstarts : StartsOperand operand.toText.toList) (op : UnaryOp) :
    (Kind.unary op operand).bare.IsSpelled := by
  intro rest hrest
  have hpoint := hrest.ends_point (show op.operator.precedence < _ by cases op <;> decide)
  have hoperand := h.parenthesized (operand.precedence < op.operator.precedence)
    fun _ => operand.precedes_of_ends hrest.1 hpoint
  simp only [Kind.bare, toText, Kind.toText, tokens, Kind.tokens, String.toList_append]
  cases op with
  | negate => exact (spells_mark (c := '-') rfl _).append hoperand
  | not =>
    -- the sign does not go on as `!=`
    obtain ⟨c, cs, hcs, hc⟩ :=
      (hstarts.parenthesized (operand.precedence < UnaryOp.not.operator.precedence)).append rest
    change Spells (['!'] ++ _) ([.operator .not] ++ _) rest
    refine .append (.of_lexeme (by decide) ?_) hoperand
    rw [List.nil_append, hcs]
    change extended .not .notEqual (c :: cs) = _
    rw [extended.eq_2 _ _ _ fun _ heq => hc (List.cons.inj heq).1]
    rfl

/-- Items in braces are scanned as their tokens. -/
theorem isSpelled_array {items : List Expr} (h : ∀ i ∈ items, i.IsSpelled) :
    (Kind.array items).bare.IsSpelled := by
  intro rest _
  have hitems := spells_commaSeparated h (by decide : continuesName '\x7d' = false) (by decide) rest
  have hall := spells_bracketing (c := '\x7b') rfl rfl hitems
  simpa [Kind.bare, toText, Kind.toText, tokens, Kind.tokens] using hall

/-- A unit is scanned as a name in brackets. -/
theorem isSpelled_unit {kind : Kind} (h : kind.bare.IsSpelled) {unit : String}
    (hunit : ']' ∉ unit.toList) : IsSpelled ⟨kind, some unit⟩ := by
  intro rest _
  have hlast := spells_bracketed hunit rest
  have hkind : ∀ rest, Spells
      (Formulas.parenthesized (precedence ⟨kind, some unit⟩ < atomPrecedence) kind.toText).toList
      (Token.parenthesized (precedence ⟨kind, some unit⟩ < atomPrecedence) kind.tokens)
      ('[' :: rest) :=
    fun rest => h.parenthesized _ fun _ => kind.bare.precedes_cons (by decide) (by decide) rest
  simpa [toText, tokens] using (hkind _).append hlast

/-- A well-formed expression is scanned as its tokens. -/
theorem isSpelled {environment : Environment} {e : Expr}
    (h : ∀ n ∈ e.nodes, n.WellFormed environment) : e.IsSpelled := by
  refine induction_on_written (R := IsSpelled) (fun kind unit hall hpart hargument => ?_) h
  have hself := hall _ (mem_nodes_self _)
  have hwf := hself.kind
  have hkind : kind.bare.IsSpelled := by
    clear hself
    cases kind using Kind.cases_written with
    | call kind name arguments hcall =>
      intro rest _
      simp only [Kind.bare, toText, tokens, Kind.toText_of_call? hcall, Kind.tokens_of_call? hcall]
      exact spells_callText (hwf.bracket_notMem hcall) (hargument name arguments hcall) rest
    | constant c => exact isSpelled_constant hwf
    | var name type => exact fun rest hrest => spells_nameText hwf.1.1 hrest.1
    | property base name type =>
      have hmem : base ∈ children ⟨.property base name type, unit⟩ := by simp [children]
      have hbase := hall base (nodes_subset hmem base.mem_nodes_self)
      exact isSpelled_property hbase (hpart base hmem) hwf.1.1 type
    | binary op left right =>
      intro rest hrest
      -- an operation is looser than a dot, so no point follows that its last operand could take
      have hpoint := hrest.ends_point (show op.operator.precedence < _ by cases op <;> decide)
      exact spells_infixText (.inr ⟨op, rfl⟩) (hpart left (by simp [children]))
        (hpart right (by simp [children])) _ _ (right.precedes_of_ends hrest.1 hpoint)
    | unary op operand =>
      have hmem : operand ∈ children ⟨.unary op operand, unit⟩ := by simp [children]
      have hstarts := startsOperand_toText fun n hn => hall n (nodes_subset hmem hn)
      exact isSpelled_unary (hpart operand hmem) hstarts op
    | union left right =>
      intro rest hrest
      have hpoint := hrest.ends_point (show Operator.union.precedence < _ by decide)
      exact spells_infixText (.inl rfl) (hpart left (by simp [children]))
        (hpart right (by simp [children])) _ _ (right.precedes_of_ends hrest.1 hpoint)
    | array items => exact isSpelled_array fun i hi => hpart i hi
    | each collection name body =>
      have hname : (Kind.var name .object).bare.IsSpelled :=
        fun rest hrest => spells_nameText hwf.1 hrest.1
      have harguments : ∀ e ∈ [collection, (Kind.var name .object).bare, body], e.IsSpelled := by
        simp only [List.forall_mem_cons, List.not_mem_nil, false_implies, implies_true, and_true]
        exact ⟨hpart collection (by simp [children]), hname, hpart body (by simp [children])⟩
      exact fun rest _ => spells_callText (by decide : ']' ∉ "EACH".toList) harguments rest
  cases unit with
  | none => exact hkind
  | some unit => exact isSpelled_unit hkind (hself.unit unit rfl).bracket_notMem

/-- The scan of a printed expression. -/
theorem scan_toText {environment : Environment} {e : Expr}
    (h : ∀ n ∈ e.nodes, n.WellFormed environment) :
    Scan.ofText e.toText = ⟨e.tokens, none⟩ :=
  Spells.ofText_eq (isSpelled h [] (e.precedes_of_ends (ends_nil _) (ends_nil _)))

end Expr

end Formulas
