import Formulas.Proofs.Number.Text
import Formulas.Scan

/-!
# The tokens of a scan

Not every token can be written. The sign `-` always scans as the operator between two operands, a
numeral never denotes a negative number or none at all, and a name ends before a closing square
bracket.

## Main definitions

* `Token.Written`: the token can stand in a scan.

## Main results

* `Scanner.written_of_mem_scan`: every token of a scan is of that kind.
-/

namespace Formulas

/-- The token can be written. -/
def Token.Written : Token → Prop
  | .operator op => op ≠ .negate
  | .number x => x ≠ .nan ∧ x.isNegative = false
  | .identifier name => ']' ∉ name.toList
  | _ => True

namespace Scanner

theorem written_of_doubled {c : Char} {op : Operator} (hop : op ≠ .negate) {cs rest : List Char}
    {t : Token} (h : doubled c op cs = .token t rest) : t.Written := by
  unfold doubled single at h
  split at h
  · split at h <;> cases h <;> exact hop
  · cases h
    exact hop

theorem written_of_extended {plain withEquals : Operator} (hplain : plain ≠ .negate)
    (hequals : withEquals ≠ .negate) {cs rest : List Char} {t : Token}
    (h : extended plain withEquals cs = .token t rest) : t.Written := by
  unfold extended single at h
  split at h <;> cases h
  · exact hequals
  · exact hplain

/-- No closing square bracket stands in a bare name. -/
theorem continuesName_bracket : continuesName ']' = false := by decide

theorem written_of_name {cs rest : List Char} {t : Token} (h : name cs = .token t rest) :
    t.Written := by
  simp only [name, single] at h
  split at h <;> cases h
  · exact fun h => by cases h
  · intro hmem
    rw [String.toList_ofList] at hmem
    have := List.all_eq_true.1 List.all_takeWhile _ hmem
    simp [continuesName_bracket] at this

theorem written_of_number {c : Char} {cs rest : List Char} {t : Token} (hc : c.isDigit = true)
    (h : number (c :: cs) = .token t rest) : t.Written := by
  -- a numeral starts with its digit, so it is read as one without a sign
  obtain ⟨digits, hdigits⟩ : ∃ digits, (readDigits (c :: cs)).1 = c :: digits := by
    simp only [readDigits, List.takeWhile_cons, hc, if_true]
    split <;> exact ⟨_, rfl⟩
  simp only [number, hdigits, Number.parse?_of_isDigit hc] at h
  cases hread : Number.readNumeral? (c :: digits) with
  | none => simp [hread] at h
  | some numeral =>
    simp only [hread, Option.map_some, Lexeme.token.injEq] at h
    rw [← h.1]
    exact Number.ofDecimal_nonneg ..

/-- A name in square brackets ends before the first closing bracket. -/
theorem bracket_notMem_of_readBracketed? {cs name rest : List Char}
    (h : readBracketed? cs = some (name, rest)) : ']' ∉ name := by
  fun_induction readBracketed? cs generalizing name with
  | case1 => cases h
  | case2 rest =>
    cases h
    simp
  | case3 c rest hc ih =>
    obtain ⟨⟨inner, after⟩, hinner, heq⟩ := Option.map_eq_some_iff.1 h
    obtain ⟨rfl, rfl⟩ := Prod.mk.inj heq
    have hne : ']' ≠ c := fun hbracket => hc hbracket.symm
    simpa [hne] using ih hinner

theorem written_of_compound {c : Char} {cs rest : List Char} {t : Token}
    (h : compound c cs = .token t rest) : t.Written := by
  unfold compound at h
  split at h
  iterate 3 exact written_of_doubled (by decide) h
  iterate 3 exact written_of_extended (by decide) (by decide) h
  iterate 2
    split at h
    · cases h
      trivial
    · cases h
  · split at h
    · next hname =>
      cases h
      simpa [Token.Written] using bracket_notMem_of_readBracketed? hname
    · cases h
  iterate 4 cases h
  · split at h
    · exact written_of_name h
    · split at h
      · next hc => exact written_of_number hc h
      · cases h

theorem written_of_mark? {c : Char} {t : Token} (h : mark? c = some t) : t.Written := by
  unfold mark? at h
  split at h <;> cases h <;> simp [Token.Written]

/-- Every token of a scan can be written. -/
theorem written_of_mem_scan {s : Scanner} {t : Token} (h : t ∈ s.scan.tokens) : t.Written := by
  fun_induction scan s with
  | case1 => simp at h
  | case2 => simp at h
  | case3 s t' behind hnext others ih =>
    -- the token was found next, or further on
    rcases List.mem_cons.1 h with rfl | hmem
    · simp only [next] at hnext
      split at hnext
      next => cases hnext
      next hlexeme =>
        cases hnext
        unfold lexeme at hlexeme
        split at hlexeme
        next => cases hlexeme
        next =>
          split at hlexeme
          next hmark =>
            cases hlexeme
            exact written_of_mark? hmark
          next => exact written_of_compound hlexeme
      next => cases hnext
    · exact ih hmem

end Scanner

end Formulas
