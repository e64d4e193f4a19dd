import Formulas.Parser.Machine
import Formulas.Scan

/-!
# Parsing

A parser holds the tokens of a formula that are still to be read, the next of them in front. It
can be asked for an expression again and again, also after an error, and then goes on from where it
was left. Without a next token its answer is the constant true, which is also the meaning of an
empty formula.
-/

namespace Formulas

/-- A parser between two expressions. -/
structure Parser where
  /-- The next token. -/
  current : Option Token
  /-- What follows it. -/
  pending : Scan

namespace Parser

/-- The parser that has nothing to read. -/
def drained : Parser := ⟨none, ⟨[], none⟩⟩

/-- The parser of a scan, unless the scan starts with an error. -/
def ofScan : Scan → Except ParseError Parser
  | ⟨t :: tokens, fault⟩ => .ok ⟨some t, ⟨tokens, fault⟩⟩
  | ⟨[], some e⟩ => .error (.lexical e)
  | ⟨[], none⟩ => .ok drained

/-- The next token after an error at a token: the token itself, unless it was taken for an
operand. -/
def currentAfterError (t : Token) : ParseError → Option Token
  | .grammar (.operandExpected _) => none
  | _ => some t

/-- The next token after an error in the text behind a token: the token itself, unless it began an
operand. -/
def currentAfterFault (m : Machine) (t : Token) : Option Token :=
  if m.wantsOperand && t.startsOperand then none else some t

/-- What a formula ends with: an error in its text, or the machine's answer. -/
def outcome (ctx : Context) (fault : Option ScanError) (m : Machine) : Except ParseError Expr :=
  match fault with
  | some e => .error (.lexical e)
  | none => m.finish ctx

/-- Runs the machine from a token, with the tokens behind it, to the end of the formula or to an
error, and gives the parser that is left. -/
def run (ctx : Context) (fault : Option ScanError) (m : Machine) (t : Token) :
    List Token → Except ParseError Expr × Parser
  | [] =>
    match m.step ctx t with
    | .error e => (.error e, ⟨currentAfterError t e, ⟨[], fault⟩⟩)
    | .ok m' =>
      (outcome ctx fault m', if fault.isSome then ⟨currentAfterFault m t, ⟨[], none⟩⟩ else drained)
  | t' :: tokens =>
    match m.step ctx t with
    | .error e => (.error e, ⟨currentAfterError t e, ⟨t' :: tokens, fault⟩⟩)
    | .ok m => run ctx fault m t' tokens

/-- The answer of a run is that of the machine after all tokens. -/
theorem run_fst (ctx : Context) (fault : Option ScanError) (m : Machine) (t : Token)
    (tokens : List Token) :
    (run ctx fault m t tokens).1 = (m.run ctx (t :: tokens)).bind (outcome ctx fault) := by
  induction tokens generalizing m t with
  | nil =>
    simp only [run, Machine.run, List.foldlM_cons, List.foldlM_nil, bind, Except.bind]
    cases m.step ctx t <;> rfl
  | cons t' tokens ih =>
    simp only [run, Machine.run, List.foldlM_cons, bind, Except.bind]
    cases h : m.step ctx t with
    | error e => rfl
    | ok m' =>
      rw [show (run ctx fault m' t' tokens).1 = _ from ih m' t']
      simp [Machine.run, bind, Except.bind]

/-- The next expression, and the parser that is left. -/
def parse (ctx : Context) (p : Parser) : Except ParseError Expr × Parser :=
  match p.current with
  | none => (.ok (.boolean true), p)
  | some t => run ctx p.pending.fault .start t p.pending.tokens

end Parser

/-- The expression of a formula. An empty formula is the constant true. -/
def Expr.parse (ctx : Context) (text : String) : Except ParseError Expr := do
  let parser ← Parser.ofScan (Scan.ofText text)
  (parser.parse ctx).1

end Formulas
