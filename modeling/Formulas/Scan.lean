import Formulas.Scanner

/-!
# Scans

A scan of a text holds the tokens up to the first error, and that error. It ends because every
token takes at least one character.
-/

namespace Formulas

/-- The tokens of a text up to its first error. -/
structure Scan where
  /-- The tokens. -/
  tokens : List Token
  /-- The error behind them, if the text holds one. -/
  fault : Option ScanError
deriving DecidableEq

namespace Scanner

/-- A bracketed name ends within the text. -/
theorem length_of_readBracketed? {cs name rest : List Char}
    (h : readBracketed? cs = some (name, rest)) : rest.length < cs.length := by
  fun_induction readBracketed? cs generalizing name with
  | case1 => simp at h
  | case2 rest => simp_all
  | case3 c tail _ ih =>
    obtain ⟨⟨inner, after⟩, found, same⟩ := Option.map_eq_some_iff.1 h
    simp only [Prod.mk.injEq] at same
    have := ih (same.2 ▸ found)
    simp only [List.length_cons]
    omega

/-- A string ends within the text. -/
theorem length_of_readString? {quote : Char} {cs value rest : List Char}
    (h : readString? quote cs = some (value, rest)) : rest.length < cs.length := by
  fun_induction readString? quote cs generalizing value with
  | case1 => simp at h
  | case2 tail ih | case3 tail ih | case4 tail ih =>
    obtain ⟨⟨inner, after⟩, found, same⟩ := Option.map_eq_some_iff.1 h
    simp only [Prod.mk.injEq] at same
    have := ih (same.2 ▸ found)
    simp only [List.length_cons]
    omega
  | case5 c tail => simp_all
  | case6 c tail _ _ _ _ ih =>
    obtain ⟨⟨inner, after⟩, found, same⟩ := Option.map_eq_some_iff.1 h
    simp only [Prod.mk.injEq] at same
    have := ih (same.2 ▸ found)
    simp only [List.length_cons]
    omega

/-- What follows a run of characters is no longer than the text. -/
theorem length_dropWhile_le (p : Char → Bool) (cs : List Char) :
    (cs.dropWhile p).length ≤ cs.length :=
  (List.dropWhile_suffix p).length_le

/-- What follows a digit and the digits behind it is shorter than the text. -/
theorem length_readDigits_lt {c : Char} (h : c.isDigit = true) (rest : List Char) :
    (readDigits (c :: rest)).2.length < (c :: rest).length := by
  have bound := length_dropWhile_le Char.isDigit rest
  simp only [readDigits, List.dropWhile_cons, h, ↓reduceIte]
  split
  · next tail found =>
    have := length_dropWhile_le Char.isDigit tail
    rw [found] at bound
    simp only [List.length_cons] at bound ⊢
    omega
  · simp only [List.length_cons]
    omega

/-- A character that starts a name also continues one. -/
theorem continuesName_of_startsName {c : Char} (h : startsName c = true) :
    continuesName c = true := by
  simp only [startsName, continuesName, Text.isAlphanumeric, Bool.or_eq_true] at h ⊢
  rcases h with h | h
  · exact .inl (.inl h)
  · exact .inr h

/-- An operator that may be doubled takes nothing or the second character from the text. -/
theorem length_of_doubled {c : Char} {op : Operator} {cs rest : List Char} {t : Token}
    (h : doubled c op cs = .token t rest) : rest.length ≤ cs.length := by
  cases cs with
  | nil => simp_all [doubled, single]
  | cons d tail =>
    simp only [doubled, single] at h
    split at h <;> simp only [Lexeme.token.injEq] at h <;> simp [← h.2]

/-- An operator that may be extended takes nothing or the equals sign from the text. -/
theorem length_of_extended {plain withEquals : Operator} {cs rest : List Char} {t : Token}
    (h : extended plain withEquals cs = .token t rest) : rest.length ≤ cs.length := by
  simp only [extended, single] at h
  split at h <;> simp only [Lexeme.token.injEq] at h <;> simp [← h.2]

/-- A bare name takes at least its first character. -/
theorem length_of_name {c : Char} {tail rest : List Char} {t : Token}
    (starts : startsName c = true) (h : name (c :: tail) = .token t rest) :
    rest.length ≤ tail.length := by
  have bound := length_dropWhile_le continuesName tail
  simp only [name, single, List.dropWhile_cons, continuesName_of_startsName starts,
    ↓reduceIte] at h
  split at h <;> simp only [Lexeme.token.injEq] at h <;> exact h.2 ▸ bound

/-- A number takes at least its first digit. -/
theorem length_of_number {c : Char} {tail rest : List Char} {t : Token}
    (digit : c.isDigit = true) (h : number (c :: tail) = .token t rest) :
    rest.length ≤ tail.length := by
  have bound := length_readDigits_lt digit tail
  simp only [number] at h
  split at h
  · simp only [Lexeme.token.injEq] at h
    exact Nat.lt_succ_iff.1 (h.2 ▸ bound)
  · simp at h

/-- A lexeme behind its first character takes nothing twice. -/
theorem length_of_compound {c : Char} {tail rest : List Char} {t : Token}
    (h : compound c tail = .token t rest) : rest.length ≤ tail.length := by
  simp only [compound] at h
  split at h
  iterate 3 exact length_of_doubled h
  iterate 3 exact length_of_extended h
  iterate 2
    split at h
    · next found =>
      simp only [Lexeme.token.injEq] at h
      exact Nat.le_of_lt (h.2 ▸ length_of_readString? found)
    · simp at h
  · split at h
    · next found =>
      simp only [Lexeme.token.injEq] at h
      exact Nat.le_of_lt (h.2 ▸ length_of_readBracketed? found)
    · simp at h
  iterate 4 simp at h
  · split at h
    · next starts => exact length_of_name starts h
    · split at h
      · next digit => exact length_of_number digit h
      · simp at h

/-- A token takes at least one character. -/
theorem length_of_lexeme {cs rest : List Char} {t : Token} (h : lexeme cs = .token t rest) :
    rest.length < cs.length := by
  cases cs with
  | nil => simp [lexeme] at h
  | cons c tail =>
    simp only [lexeme] at h
    split at h
    · simp only [Lexeme.token.injEq] at h
      simp [← h.2]
    · exact Nat.lt_succ_iff.2 (length_of_compound h)

/-- A scanner that finds a token has fewer characters left behind it. -/
theorem length_of_next {s s' : Scanner} {t : Token} (h : s.next = (some (.ok t), s')) :
    s'.rest.length < s.rest.length := by
  have bound := length_dropWhile_le Text.isBlank s.rest
  simp only [next] at h
  split at h
  · simp at h
  · next found =>
    simp only [Prod.mk.injEq] at h
    have := length_of_lexeme found
    rw [← h.2]
    exact Nat.lt_of_lt_of_le this bound
  · simp at h

/-- The tokens that a scanner finds up to its first error. -/
def scan (s : Scanner) : Scan :=
  match _found : s.next with
  | (none, _) => ⟨[], none⟩
  | (some (.error e), _) => ⟨[], some e⟩
  | (some (.ok t), behind) =>
    let others := behind.scan
    ⟨t :: others.tokens, others.fault⟩
termination_by s.rest.length
decreasing_by exact length_of_next _found

end Scanner

/-- The scan of a text. -/
def Scan.ofText (text : String) : Scan := (Scanner.ofText text).scan

end Formulas
