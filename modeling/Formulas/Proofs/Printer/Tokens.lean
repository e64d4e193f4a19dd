import Formulas.Expr.Printer
import Formulas.Proofs.Expr.WellFormed

/-!
# The tokens of printed expressions

The tokens that the canonical text of an expression holds. They follow the text piece by piece with
two exceptions: an infinite number is printed as the word `inf`, which is a name, and a whole number
without a unit takes the dot of a property for its own point.

## Main definitions

* `Expr.tokens`: the tokens of the canonical text.

## Main results

* `Kind.toText_of_call?` and `Kind.tokens_of_call?`: what a node is written as if it is written as a
  call.
-/

namespace Formulas

/-- Tokens in parentheses, if they need them. -/
def Token.parenthesized (needed : Bool) (ts : List Token) : List Token :=
  if needed then .leftParen :: (ts ++ [.rightParen]) else ts

/-- The tokens of a call. -/
def Token.call (name : String) (arguments : List (List Token)) : List Token :=
  .identifier name :: .leftParen :: (separated arguments ++ [.rightParen])

/-- The token of a number. The infinity is written as a name. -/
def Number.token : Number → Token
  | .infinite _ => .identifier "inf"
  | x => .number x

/-- The tokens of a literal. -/
def Constant.tokens : Constant → List Token
  | .boolean b => [.identifier (if b then "true" else "false")]
  | .number x => [x.token]
  | .string s => [.string s]
  | .null => [.identifier "null"]
  | .dateTime d =>
    Token.call (if d.offset.isSome then "DATETIMEOFFSET" else "DATETIME") [[.string d.toText]]

mutual

/-- The tokens of the canonical text of an expression. -/
def Expr.tokens : Expr → List Token
  | ⟨kind, none⟩ => kind.tokens
  | ⟨kind, some unit⟩ =>
    Token.parenthesized (Expr.precedence ⟨kind, some unit⟩ < Expr.atomPrecedence) kind.tokens
      ++ [.identifier unit]

/-- The tokens of the canonical text of a node without its unit. -/
def Kind.tokens : Kind → List Token
  | .constant c => c.tokens
  | .var name _ => [.identifier name]
  | .property base name _ =>
    Token.parenthesized (base.precedence < Operator.dot.precedence) base.tokens
      ++ if base.isWhole then [.identifier name] else [.operator .dot, .identifier name]
  | .call name _ arguments => Token.call name (Expr.tokenLists arguments)
  | .binary op left right =>
    Token.parenthesized (left.needsParensLeft op.operator) left.tokens
      ++ .operator op.operator
        :: Token.parenthesized (right.needsParensRight op.operator) right.tokens
  | .unary op operand =>
    op.sign :: Token.parenthesized (operand.precedence < op.operator.precedence) operand.tokens
  | .ternary condition positive negative =>
    Token.call "IF" [condition.tokens, positive.tokens, negative.tokens]
  | .union [left, right] =>
    Token.parenthesized (left.needsParensLeft .union) left.tokens
      ++ .operator .union :: Token.parenthesized (right.needsParensRight .union) right.tokens
  | .union items => Token.call "UNION" (Expr.tokenLists items)
  | .array items => .leftBrace :: (Token.separated (Expr.tokenLists items) ++ [.rightBrace])
  | .tuple items => Token.call "TUPLE" (Expr.tokenLists items)
  | .reduce reducer child => Token.call reducer.name [child.tokens]
  | .temporal function child period start measure =>
    Token.call function.name
      (child.tokens :: (Expr.tokensOption period ++ Expr.tokensOption start
        ++ Expr.tokensOption measure))
  | .first ⟨.array items, _⟩ => Token.call "FIRST" (Expr.tokenLists items)
  | .first child => Token.call "FIRST" [child.tokens]
  | .failed arguments => Token.call "FAILED" (Expr.tokenLists arguments)
  | .timer child measure => Token.call "TIMER" (child.tokens :: Expr.tokensOption measure)
  | .each collection name body =>
    Token.call "EACH" [collection.tokens, [.identifier name], body.tokens]

/-- The tokens of the canonical texts of a list of expressions. -/
def Expr.tokenLists : List Expr → List (List Token)
  | [] => []
  | e :: es => e.tokens :: Expr.tokenLists es

/-- The tokens of the canonical text of an optional expression, if there is one. -/
def Expr.tokensOption : Option Expr → List (List Token)
  | none => []
  | some e => [e.tokens]

end

namespace Expr

/-- Every operator binds looser than what holds together by itself. -/
theorem precedence_lt_atom (op : Operator) : op.precedence < atomPrecedence := by
  cases op <;> decide

@[simp]
theorem texts_eq_map (es : List Expr) : texts es = es.map toText := by
  induction es with
  | nil => rfl
  | cons e es ih => rw [texts, ih, List.map_cons]

@[simp]
theorem textOption_eq_map (o : Option Expr) : textOption o = o.toList.map toText := by
  cases o <;> rfl

@[simp]
theorem tokenLists_eq_map (es : List Expr) : tokenLists es = es.map tokens := by
  induction es with
  | nil => rfl
  | cons e es ih => rw [tokenLists, ih, List.map_cons]

@[simp]
theorem tokensOption_eq_map (o : Option Expr) : tokensOption o = o.toList.map tokens := by
  cases o <;> rfl

end Expr

namespace Kind

variable {kind : Kind} {name : String} {arguments : List Expr}

/-- A node that is written as a call has the text of the call. -/
theorem toText_of_call? (h : kind.call? = some (name, arguments)) :
    kind.toText = callText name (arguments.map Expr.toText) := by
  unfold call? at h
  split at h <;> cases h
  case h_4 hpair => rw [toText.eq_9 _ hpair, Expr.texts_eq_map]
  case h_9 hitems => rw [toText.eq_15 _ hitems]; rfl
  all_goals simp [toText]

/-- A node that is written as a call has the tokens of the call. -/
theorem tokens_of_call? (h : kind.call? = some (name, arguments)) :
    kind.tokens = Token.call name (arguments.map Expr.tokens) := by
  unfold call? at h
  split at h <;> cases h
  case h_4 hpair => rw [tokens.eq_9 _ hpair, Expr.tokenLists_eq_map]
  case h_9 hitems => rw [tokens.eq_15 _ hitems]; rfl
  all_goals simp [tokens]

end Kind

end Formulas
