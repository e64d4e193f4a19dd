import Formulas.Parser

/-!
# Parsers that are asked again and again

A parser can be asked for an expression as often as one likes, also after errors. Every call that
finds a token takes something from the text: it reads on, it takes the token for an operand, or it
meets the error of the text, behind which there is nothing. So after as many calls as the text has
items nothing is left, and every further answer is the constant true.

A call ends in any case. The machine takes one token in each step of `Parser.run`, which goes on
with the tokens behind it.

## Main definitions

* `Scan.size` and `Parser.remaining`: the items of a text, and those that a parser has left;
* `Parser.after`: the parser that is left after some calls.

## Main results

* `Parser.remaining_parse_lt`: a call that finds a token leaves fewer items;
* `Parser.current_after_eq_none_or`: every call before the first that finds no token takes an item;
* `Parser.parse_after`: what the calls of a parser do, each by itself and in the end.
-/

namespace Formulas

/-- The number of items that a scan yields: its tokens, and its error if there is one. -/
def Scan.size (s : Scan) : Nat := s.tokens.length + if s.fault.isSome then 1 else 0

/-- Where an operand must come, a token is refused as one that starts no operand, or taken. -/
theorem Machine.stepOperand_eq_error {m : Machine} {t : Token} {err : ParseError}
    (h : m.stepOperand t = .error err) : err = .grammar (.operandExpected t) := by
  unfold stepOperand at h
  split at h <;> cases h
  rfl

namespace Parser

variable {ctx : Context}

/-- The number of items that the parser has left: the next token, and what follows it. -/
def remaining (p : Parser) : Nat := p.pending.size + if p.current.isSome then 1 else 0

/-- There is at most one next token. -/
theorem remaining_le (p : Parser) : p.remaining ≤ p.pending.size + 1 := by
  unfold remaining
  split <;> omega

/-- A parser that has nothing left has no next token. -/
theorem current_eq_none_of_remaining_eq_zero {p : Parser} (h : p.remaining = 0) :
    p.current = none := by
  cases hcurrent : p.current with
  | none => rfl
  | some t => simp [remaining, hcurrent] at h

/-- The parser that is left after some calls, whatever they answered. -/
def after (ctx : Context) (p : Parser) : Nat → Parser
  | 0 => p
  | n + 1 => ((p.after ctx n).parse ctx).2

/-- A parser that has gone on by a token has fewer items left. -/
theorem remaining_tail_lt (fault : Option ScanError) (t t' : Token) (tokens : List Token) :
    (⟨some t', ⟨tokens, fault⟩⟩ : Parser).remaining <
      (⟨some t, ⟨t' :: tokens, fault⟩⟩ : Parser).remaining := by
  simp only [remaining, Scan.size, List.length_cons, Option.isSome_some, if_true]
  omega

/-- A run that takes the last token leaves fewer items. If an error follows the token, the token may
be left. -/
theorem remaining_run_nil (fault : Option ScanError) {m m' : Machine} {t : Token}
    (h : m.step ctx t = .ok m') :
    (run ctx fault m t []).2.remaining < (⟨some t, ⟨[], fault⟩⟩ : Parser).remaining := by
  simp only [run, h]
  cases fault with
  | none => exact Nat.one_pos
  | some err =>
    -- the error has been met, so at most the token is left
    refine Nat.lt_of_le_of_lt (remaining_le _) ?_
    exact Nat.one_lt_two

/-- A run never leaves more than was there. -/
theorem remaining_run_le (fault : Option ScanError) (m : Machine) (t : Token)
    (tokens : List Token) :
    (run ctx fault m t tokens).2.remaining ≤ (⟨some t, ⟨tokens, fault⟩⟩ : Parser).remaining := by
  induction tokens generalizing m t with
  | nil =>
    cases hstep : m.step ctx t with
    | error err =>
      simp only [run, hstep]
      exact remaining_le _
    | ok m' => exact Nat.le_of_lt (remaining_run_nil fault hstep)
  | cons t' tokens ih =>
    cases hstep : m.step ctx t with
    | error err =>
      simp only [run, hstep]
      exact remaining_le _
    | ok m' =>
      -- the run goes on without the token
      simp only [run, hstep]
      exact Nat.le_trans (ih m' t') (Nat.le_of_lt (remaining_tail_lt ..))

/-- A run from where an operand must come leaves fewer items than there were. If the first token is
refused, it has been taken for the operand. -/
theorem remaining_run_lt (fault : Option ScanError) {m : Machine} (hm : m.phase = .operand)
    (t : Token) (tokens : List Token) :
    (run ctx fault m t tokens).2.remaining < (⟨some t, ⟨tokens, fault⟩⟩ : Parser).remaining := by
  cases hstep : m.step ctx t with
  | error err =>
    have hrefused : err = .grammar (.operandExpected t) := by
      simp only [Machine.step, hm] at hstep
      exact Machine.stepOperand_eq_error hstep
    subst hrefused
    -- of all errors only this one takes the token away, and it is the only one of a first step
    cases tokens <;>
    · simp only [run, hstep]
      exact Nat.lt_succ_self _
  | ok m' =>
    cases tokens with
    | nil => exact remaining_run_nil fault hstep
    | cons t' tokens =>
      simp only [run, hstep]
      exact Nat.lt_of_le_of_lt (remaining_run_le fault m' t' tokens) (remaining_tail_lt ..)

/-- A call without a next token answers with the constant true, and changes nothing. -/
theorem parse_of_current_eq_none {p : Parser} (h : p.current = none) :
    p.parse ctx = (.ok (.boolean true), p) := by
  rw [parse, h]

/-- A call that finds a token leaves fewer items, whatever it answers. -/
theorem remaining_parse_lt (ctx : Context) {p : Parser} (h : p.current ≠ none) :
    (p.parse ctx).2.remaining < p.remaining := by
  obtain ⟨current, tokens, fault⟩ := p
  obtain ⟨t, rfl⟩ := Option.ne_none_iff_exists'.1 h
  exact remaining_run_lt fault rfl t tokens

/-- As long as calls find a token, each of them takes at least one item. -/
theorem current_after_eq_none_or (ctx : Context) (p : Parser) (n : Nat) :
    (p.after ctx n).current = none ∨ (p.after ctx n).remaining + n ≤ p.remaining := by
  induction n with
  | zero => exact .inr (Nat.le_refl _)
  | succ n ih =>
    by_cases hnone : (p.after ctx n).current = none
    · left
      rw [after, parse_of_current_eq_none hnone]
      exact hnone
    · right
      have hlt := remaining_parse_lt ctx hnone
      have hle := ih.resolve_left hnone
      rw [after]
      omega

/-- Before its first call a parser has left what the scan yields. -/
theorem remaining_of_ofScan {s : Scan} {p : Parser} (h : ofScan s = .ok p) :
    p.remaining = s.size := by
  unfold ofScan at h
  split at h <;> cases h
  · simp only [remaining, Scan.size, List.length_cons, Option.isSome_some, if_true]
    omega
  · rfl

/-- The calls of a parser of a text, whatever the calls before them answered. Without a next token a
call answers with the constant true, and changes nothing. With one it leaves fewer items. And behind
as many calls as the text has items every call answers with the constant true. -/
theorem parse_after (ctx : Context) {text : String} {p : Parser}
    (h : ofScan (Scan.ofText text) = .ok p) (n : Nat) :
    let left := p.after ctx n
    (left.current = none → left.parse ctx = (.ok (.boolean true), left)) ∧
      (left.current ≠ none → (left.parse ctx).2.remaining < left.remaining) ∧
      ((Scan.ofText text).size ≤ n → (left.parse ctx).1 = .ok (.boolean true)) := by
  intro left
  refine ⟨parse_of_current_eq_none, remaining_parse_lt ctx, fun hle => ?_⟩
  have hnone : left.current = none := by
    rcases current_after_eq_none_or ctx p n with hnone | hbound
    · exact hnone
    · -- a next token would be one more item than there are
      rw [remaining_of_ofScan h] at hbound
      have hzero : (p.after ctx n).remaining = 0 := by omega
      exact current_eq_none_of_remaining_eq_zero hzero
  exact congrArg Prod.fst (parse_of_current_eq_none hnone)

/-- Three items, the last of them an error. The first call meets the error behind the sign, which is
left, and the second call takes the sign for an operand. -/
theorem parse_after_fault :
    let ctx : Context := .standard .empty
    let scan : Scan :=
      ⟨[.identifier "a", .operator .plus], some ⟨.unexpectedCharacter '#', 4⟩⟩
    let p : Parser := ⟨some (.identifier "a"), ⟨[.operator .plus], scan.fault⟩⟩
    Scan.ofText "a + #" = scan ∧ ofScan (Scan.ofText "a + #") = .ok p ∧
      (p.after ctx 1).current = some (.operator .plus) ∧
      ((p.after ctx 1).parse ctx).2.remaining < (p.after ctx 1).remaining ∧
      ∀ n, 3 ≤ n → ((p.after ctx n).parse ctx).1 = .ok (.boolean true) := by
  intro ctx scan p
  have hscan : Scan.ofText "a + #" = scan := by decide +kernel
  have hparser : ofScan (Scan.ofText "a + #") = .ok p := by rw [hscan]; rfl
  have hsign : (p.after ctx 1).current = some (.operator .plus) := by decide +kernel
  have hsize : (Scan.ofText "a + #").size = 3 := by rw [hscan]; rfl
  refine ⟨hscan, hparser, hsign, (parse_after ctx hparser 1).2.1 (by simp [hsign]), ?_⟩
  intro n hn
  exact (parse_after ctx hparser n).2.2 (hsize ▸ hn)

end Parser

end Formulas
