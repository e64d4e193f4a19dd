import Formulas.Parser.Level
import Formulas.UnitOfMeasure

/-!
# The grammar of formulas

Which tokens form a formula, and which expression they mean, stated without stacks or phases.

Operands come in strata, from the loosest to the tightest:

| stratum | operands |
|---|---|
| 1 | joined by `&`, `|`, the words `AND` and `OR`, or a semicolon that reads as `&` |
| 2 | joined by `∈`, `∩` or `∪` |
| 3 | joined by a comparison or `is` |
| 4 | joined by `+` or `-` |
| 5 | joined by `*` or `/` |
| 6 | joined by `^` |
| 7 | behind a prefix `-` or `!` |
| 8 | joined by a dot |
| 9 | primaries: brackets, literals, names and calls, each with its units |

An operator of a stratum has an operand of that stratum on its left and a tighter one on its
right, so operators of one stratum group to the left.

## Main definitions

* `Grammar.joining`: the operators that join operands in a stratum;
* `Grammar.Reads`: the operator that a token stands for between two operands;
* `Grammar.Derives`: the tokens form an operand of a stratum and mean an expression;
* `Grammar.Formula`: the tokens form a formula and mean an expression.
-/

namespace Formulas

/-- The token that writes a prefix operator. -/
def UnaryOp.sign : UnaryOp → Token
  | .not => .operator .not
  | .negate => .operator .minus

/-- The parts with a comma between any two. -/
def Token.separated : List (List Token) → List Token
  | [] => []
  | [part] => part
  | part :: parts => part ++ .comma :: separated parts

/-- Every part stands as a whole among the parts with commas between them. -/
theorem Token.infix_separated {part : List Token} {parts : List (List Token)} (h : part ∈ parts) :
    part <:+: separated parts := by
  fun_induction separated parts with
  | case1 => cases h
  | case2 =>
    obtain rfl := List.mem_singleton.1 h
    exact List.infix_rfl
  | case3 first rest hne ih =>
    rcases List.mem_cons.1 h with rfl | h
    · exact (List.prefix_append ..).isInfix
    · exact (ih h).trans ⟨first ++ [.comma], [], by simp⟩

namespace Grammar

/-- The operators that join two operands in a stratum. -/
def joining : Nat → List Operator
  | 1 => [.and, .or]
  | 2 => [.memberOf, .intersection, .union]
  | 3 => [.equal, .notEqual, .less, .lessOrEqual, .greater, .greaterOrEqual, .is]
  | 4 => [.plus, .minus]
  | 5 => [.multiply, .divide]
  | 6 => [.power]
  | 8 => [.dot]
  | _ => []

/-- The token stands for the operator between two operands. -/
inductive Reads : Token → Operator → Prop
  /-- A sign stands for itself. -/
  | sign {op : Operator} (hop : op ≠ .semicolon) : Reads (.operator op) op
  /-- A semicolon joins clauses as `&` does. -/
  | semicolon : Reads (.operator .semicolon) .and
  /-- The word `AND`, in any case of ASCII letters. -/
  | wordAnd {word : String} (hword : Text.sameIgnoringCase word "AND" = true) :
      Reads (.identifier word) .and
  /-- The word `OR`, in any case of ASCII letters. -/
  | wordOr {word : String} (hword : Text.sameIgnoringCase word "OR" = true) :
      Reads (.identifier word) .or

/-- The word is a unit behind an operand, since it is neither `AND` nor `OR`. -/
def IsUnitWord (word : String) : Prop :=
  Text.sameIgnoringCase word "AND" = false ∧ Text.sameIgnoringCase word "OR" = false

/-- `Derives ctx p ts e`: the tokens `ts` form an operand of stratum `p` and mean `e`. -/
inductive Derives (ctx : Context) : Nat → List Token → Expr → Prop
  /-- An operand of a tighter stratum. -/
  | tighter {p : Nat} {ts : List Token} {e : Expr} (h : Derives ctx (p + 1) ts e) :
      Derives ctx p ts e
  /-- Two operands around an operator of the stratum that makes a binary node. -/
  | binary {p : Nat} {op : Operator} {node : BinaryOp} {t : Token} {ts us : List Token}
      {left right : Expr} (hop : op ∈ joining p) (hreads : Reads t op)
      (hnode : op.binary? = some node) (hleft : Derives ctx p ts left)
      (hright : Derives ctx (p + 1) us right) :
      Derives ctx p (ts ++ t :: us) (Kind.binary node left right).bare
  /-- Two sets around `∪`. -/
  | union {ts us : List Token} {left right : Expr} (hleft : Derives ctx 2 ts left)
      (hright : Derives ctx 3 us right) :
      Derives ctx 2 (ts ++ .operator .union :: us) (Kind.union [left, right]).bare
  /-- Two operands around a dot, as far as the dot can join them. -/
  | dot {ts us : List Token} {left right e : Expr} (hleft : Derives ctx 8 ts left)
      (hright : Derives ctx 9 us right) (hdot : ctx.dot left right = .ok e) :
      Derives ctx 8 (ts ++ .operator .dot :: us) e
  /-- A prefix operator and its operand, which may have a prefix operator itself. -/
  | signed {op : UnaryOp} {ts : List Token} {e : Expr} (h : Derives ctx 7 ts e) :
      Derives ctx 7 (op.sign :: ts) (Kind.unary op e).bare
  /-- An expression in parentheses. -/
  | group {ts : List Token} {e : Expr} (h : Derives ctx 1 ts e) :
      Derives ctx 9 (.leftParen :: (ts ++ [.rightParen])) e
  /-- Expressions in braces, with commas between them. -/
  | array {items : List (List Token × Expr)} (h : ∀ i ∈ items, Derives ctx 1 i.1 i.2) :
      Derives ctx 9 (.leftBrace :: (Token.separated (items.map Prod.fst) ++ [.rightBrace]))
        (Kind.array (items.map Prod.snd)).bare
  /-- A number. -/
  | number (x : Number) : Derives ctx 9 [.number x] (.number x)
  /-- A string. -/
  | string (s : String) : Derives ctx 9 [.string s] (.string s)
  /-- A name that is not called. No rule lets a parenthesis follow it. -/
  | name (n : String) : Derives ctx 9 [.identifier n] (ctx.named n)
  /-- A call, as far as its function takes the arguments. -/
  | call {n : String} {items : List (List Token × Expr)} {e : Expr}
      (h : ∀ i ∈ items, Derives ctx 1 i.1 i.2) (hcall : ctx.called n (items.map Prod.snd) = .ok e) :
      Derives ctx 9
        (.identifier n :: .leftParen :: (Token.separated (items.map Prod.fst) ++ [.rightParen])) e
  /-- A primary and a unit behind it, which takes the place of a unit before. -/
  | unit {ts : List Token} {e : Expr} {word : String} (h : Derives ctx 9 ts e)
      (hword : IsUnitWord word) :
      Derives ctx 9 (ts ++ [.identifier word]) ⟨e.kind, some (UnitOfMeasure.canonical word)⟩

/-- `Formula ctx ts e`: the tokens `ts` are a whole formula and mean `e`. -/
inductive Formula (ctx : Context) : List Token → Expr → Prop
  /-- No tokens mean the constant true. -/
  | empty : Formula ctx [] (.boolean true)
  /-- An operand of the loosest stratum. -/
  | level {ts : List Token} {e : Expr} (h : Derives ctx 1 ts e) : Formula ctx ts e
  /-- An operand of the loosest stratum with a semicolon behind it. -/
  | clause {ts : List Token} {e : Expr} (h : Derives ctx 1 ts e) :
      Formula ctx (ts ++ [.operator .semicolon]) e

/-- The stratum of an operator that joins operands is its precedence. -/
theorem precedence_of_mem_joining {p : Nat} {op : Operator} (hop : op ∈ joining p) :
    op.precedence = p := by
  unfold joining at hop
  split at hop <;> simp only [List.mem_cons, List.not_mem_nil, or_false] at hop
  all_goals rcases hop with rfl | rfl | rfl | rfl | rfl | rfl | rfl <;> rfl

/-- An operator that joins operands is no prefix operator. -/
theorem isUnary_of_mem_joining {p : Nat} {op : Operator} (hop : op ∈ joining p) :
    op.isUnary = false := by
  unfold joining at hop
  split at hop <;> simp only [List.mem_cons, List.not_mem_nil, or_false] at hop
  all_goals rcases hop with rfl | rfl | rfl | rfl | rfl | rfl | rfl <;> rfl

/-- Every operator but the semicolon and the prefix operators joins operands in the stratum of its
precedence. -/
theorem mem_joining_precedence {op : Operator} (hunary : op.isUnary = false)
    (hsemicolon : op ≠ .semicolon) : op ∈ joining op.precedence := by
  cases op <;> simp_all [joining, Operator.precedence, Operator.isUnary]

/-- An operator between two operands is the dot or `∪`, or makes a binary node. -/
theorem binary?_of_isUnary_eq_false {op : Operator} (hunary : op.isUnary = false) :
    op = .dot ∨ op = .union ∨ ∃ node, op.binary? = some node := by
  cases op <;> simp_all [Operator.binary?, Operator.isUnary]

/-- What an operator makes of two operands if it makes a binary node. -/
theorem combine_of_binary? (ctx : Context) {op : Operator} {node : BinaryOp}
    (hnode : op.binary? = some node) (left right : Expr) :
    Level.combine ctx (.value left) op (.value right) =
      .ok (Kind.binary node left right).bare := by
  cases op <;> simp_all [Level.combine, Operator.binary?]

namespace Derives

variable {ctx : Context}

/-- An operand of a stratum is one of every looser stratum. -/
theorem loosen {p q : Nat} {ts : List Token} {e : Expr} (h : Derives ctx q ts e) (hle : p ≤ q) :
    Derives ctx p ts e := by
  induction hle with
  | refl => exact h
  | step _ ih => exact ih (.tighter h)

/-- Two operands around an operator that joins them mean what the operator makes of them. -/
theorem join {p : Nat} {op : Operator} {t : Token} {ts us : List Token} {left right e : Expr}
    (hop : op ∈ joining p) (hreads : Reads t op) (hleft : Derives ctx p ts left)
    (hright : Derives ctx (p + 1) us right)
    (hcombine : Level.combine ctx (.value left) op (.value right) = .ok e) :
    Derives ctx p (ts ++ t :: us) e := by
  have hp := precedence_of_mem_joining hop
  rcases binary?_of_isUnary_eq_false (isUnary_of_mem_joining hop) with rfl | rfl | ⟨node, hnode⟩
  · obtain rfl : 8 = p := hp
    cases hreads
    exact .dot hleft hright hcombine
  · obtain rfl : 2 = p := hp
    cases hreads
    cases hcombine
    exact .union hleft hright
  · rw [combine_of_binary? ctx hnode] at hcombine
    cases hcombine
    exact .binary hop hreads hnode hleft hright

/-- The tokens of an operand are not empty. -/
theorem ne_nil {p : Nat} {ts : List Token} {e : Expr} (h : Derives ctx p ts e) : ts ≠ [] := by
  induction h with
  | tighter _ ih => exact ih
  | _ => simp

end Derives

/-- No tokens mean nothing but the constant true. -/
theorem Formula.eq_of_nil {ctx : Context} {e : Expr} (h : Formula ctx [] e) :
    e = .boolean true := by
  generalize hts : ([] : List Token) = ts at h
  cases h with
  | empty => rfl
  | level hderives => exact absurd hts.symm hderives.ne_nil
  | clause _ => simp at hts

end Grammar

end Formulas
