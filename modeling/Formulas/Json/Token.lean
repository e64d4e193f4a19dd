import Formulas.Json

/-!
# Tokens of JSON

A JSON text is read as a sequence of brackets, separators and scalar values. The format is the
strict one: only the four blanks of JSON, no zero before another digit, a digit on both sides of a
point, no bare control characters in strings, and no half of a surrogate pair by itself.
-/

namespace Formulas.Json

/-- A token of a JSON text. -/
inductive Token
  | openArray
  | closeArray
  | openObject
  | closeObject
  | colon
  | comma
  /-- A value other than an array or an object. -/
  | scalar (value : Json)

/-- A character of a string, or the code unit of an escape. -/
inductive StringPart
  | plain (c : Char)
  | unit (code : Nat)

/-- The value of four hexadecimal digits. -/
def hexCode? (digits : List Char) : Option Nat :=
  digits.foldlM (fun n c =>
    if c.isDigit then some (16 * n + (c.toNat - '0'.toNat))
    else if 'a' ≤ c ∧ c ≤ 'f' then some (16 * n + (c.toNat - 'a'.toNat + 10))
    else if 'A' ≤ c ∧ c ≤ 'F' then some (16 * n + (c.toNat - 'A'.toNat + 10))
    else none) 0

/-- The character that a backslash and a letter stand for. -/
def escaped? : Char → Option Char
  | '"' => some '"'
  | '\\' => some '\\'
  | '/' => some '/'
  | 'b' => some '\x08'
  | 'f' => some '\x0c'
  | 'n' => some '\n'
  | 'r' => some '\r'
  | 't' => some '\t'
  | _ => none

/-- The parts of a string up to its closing quote, and what follows the quote. -/
def readString? : List Char → Option (List StringPart × List Char)
  | [] => none
  | '"' :: rest => some ([], rest)
  | '\\' :: 'u' :: a :: b :: c :: d :: rest => do
    let code ← hexCode? [a, b, c, d]
    let (parts, after) ← readString? rest
    return (.unit code :: parts, after)
  | '\\' :: c :: rest => do
    let c ← escaped? c
    let (parts, after) ← readString? rest
    return (.plain c :: parts, after)
  | c :: rest =>
    if c == '\\' || c.toNat < 32 then none
    else (readString? rest).map fun (parts, after) => (.plain c :: parts, after)

/-- The text of the parts of a string; two code units of a surrogate pair make one character. -/
def joinParts? : List StringPart → Option (List Char)
  | [] => some []
  | .plain c :: rest => (joinParts? rest).map (c :: ·)
  | .unit high :: .unit low :: rest =>
    if 0xD800 ≤ high ∧ high < 0xDC00 then
      if 0xDC00 ≤ low ∧ low < 0xE000 then
        (joinParts? rest).map
          (Char.ofNat (0x10000 + (high - 0xD800) * 0x400 + (low - 0xDC00)) :: ·)
      else none
    else if 0xDC00 ≤ high ∧ high < 0xE000 then none
    else (joinParts? (.unit low :: rest)).map (Char.ofNat high :: ·)
  | .unit code :: rest =>
    if 0xD800 ≤ code ∧ code < 0xE000 then none else (joinParts? rest).map (Char.ofNat code :: ·)

/-- The parts of a number without its sign: the digits before and after the point, and the
exponent. -/
structure NumberParts where
  whole : List Char
  fraction : List Char
  exponent : Int

/-- The digits before the point: a zero, or digits that do not start with one. -/
def readWhole? : List Char → Option (List Char × List Char)
  | '0' :: rest => some (['0'], rest)
  | cs =>
    let digits := cs.takeWhile Char.isDigit
    if digits.isEmpty then none else some (digits, cs.dropWhile Char.isDigit)

/-- The digits behind a point, if there is one. -/
def readFraction? : List Char → Option (List Char × List Char)
  | '.' :: rest =>
    let digits := rest.takeWhile Char.isDigit
    if digits.isEmpty then none else some (digits, rest.dropWhile Char.isDigit)
  | cs => some ([], cs)

/-- The exponent, if there is one. -/
def readExponent? : List Char → Option (Int × List Char)
  | [] => some (0, [])
  | mark :: rest =>
    if mark == 'e' || mark == 'E' then
      let (negative, cs) := Number.splitSign rest
      let digits := cs.takeWhile Char.isDigit
      let magnitude : Int := (Number.ofDigits digits : Nat)
      if digits.isEmpty then none
      else some (if negative then -magnitude else magnitude, cs.dropWhile Char.isDigit)
    else some (0, mark :: rest)

/-- The parts of a number, and what follows it. -/
def readNumber? (cs : List Char) : Option (NumberParts × List Char) := do
  let (whole, cs) ← readWhole? cs
  let (fraction, cs) ← readFraction? cs
  let (exponent, cs) ← readExponent? cs
  return (⟨whole, fraction, exponent⟩, cs)

/-- The greatest significand: what 64 bits hold. -/
def maxSignificand : Nat := Nat.pow 2 64 - 1

/-- The significand with the leading digits appended as long as it stays within 64 bits, and the
digits that are left. -/
def takeSignificand (significand : Nat) : List Char → Nat × List Char
  | [] => (significand, [])
  | c :: rest =>
    let next := 10 * significand + (c.toNat - '0'.toNat)
    if next ≤ maxSignificand then takeSignificand next rest else (significand, c :: rest)

/-- The significand and the power of ten of a number. Digits before the point that do not fit count
in the power of ten, digits after it that do not fit are dropped. -/
def NumberParts.scaled (n : NumberParts) : Nat × Int :=
  let (significand, restWhole) := takeSignificand 0 n.whole
  let (significand, restFraction) := takeSignificand significand n.fraction
  let places : Int := (n.fraction.length - restFraction.length : Nat)
  (significand, n.exponent + restWhole.length - places)

/-- The number is within range: the rounded significand times the rounded power of ten is finite.
A negative power of ten never leaves the range. -/
def NumberParts.inRange (n : NumberParts) : Bool :=
  let (significand, exponent) := n.scaled
  if significand = 0 ∨ exponent < 0 then true
  else if 308 < exponent then false
  else
    match (Number.ofDecimal false significand 0).units?,
      (Number.ofDecimal false 1 exponent).units? with
    | some a, some b =>
      (Number.ofUnits false (Number.roundUnits (a * b) Number.unitsOfOne)).units?.isSome
    | _, _ => false

/-- The value of a number that is in range. -/
def NumberParts.value? (negative : Bool) (n : NumberParts) : Option Json :=
  if n.inRange then
    some (.number (Number.Numeral.value negative ⟨n.whole, n.fraction, n.exponent⟩))
  else none

/-- The character is one of the four blanks of JSON. -/
def isBlank (c : Char) : Bool := c == ' ' || c == '\t' || c == '\n' || c == '\r'

/-- The token that starts with a character, and what follows the token. -/
def readToken? (c : Char) (rest : List Char) : Option (Token × List Char) :=
  match c with
  | '[' => some (.openArray, rest)
  | ']' => some (.closeArray, rest)
  | '\x7b' => some (.openObject, rest)
  | '\x7d' => some (.closeObject, rest)
  | ':' => some (.colon, rest)
  | ',' => some (.comma, rest)
  | '"' => do
    let (parts, after) ← readString? rest
    return (.scalar (.string (String.ofList (← joinParts? parts))), after)
  | '-' => do
    let (parts, after) ← readNumber? rest
    return (.scalar (← parts.value? true), after)
  | 't' => if rest.take 3 = ['r', 'u', 'e'] then some (.scalar (.bool true), rest.drop 3) else none
  | 'f' =>
    if rest.take 4 = ['a', 'l', 's', 'e'] then some (.scalar (.bool false), rest.drop 4) else none
  | 'n' => if rest.take 3 = ['u', 'l', 'l'] then some (.scalar .null, rest.drop 3) else none
  | _ => do
    let (parts, after) ← readNumber? (c :: rest)
    return (.scalar (← parts.value? false), after)

/-- What follows a string is shorter than the text. -/
theorem length_of_readString? {cs after : List Char} {parts : List StringPart}
    (h : readString? cs = some (parts, after)) : after.length < cs.length := by
  fun_induction readString? cs generalizing parts with
  | case1 => simp at h
  | case2 rest => simp_all
  | case3 a b c d rest ih =>
    simp only [Option.bind_eq_bind, Option.bind_eq_some_iff] at h
    obtain ⟨code, -, ⟨inner, tail⟩, found, same⟩ := h
    simp only [Option.pure_def, Option.some.injEq, Prod.mk.injEq] at same
    have := ih (same.2 ▸ found)
    simp only [List.length_cons]
    omega
  | case4 c rest _ ih =>
    simp only [Option.bind_eq_bind, Option.bind_eq_some_iff] at h
    obtain ⟨code, -, ⟨inner, tail⟩, found, same⟩ := h
    simp only [Option.pure_def, Option.some.injEq, Prod.mk.injEq] at same
    have := ih (same.2 ▸ found)
    simp only [List.length_cons]
    omega
  | case5 => simp at h
  | case6 c rest _ _ _ _ ih =>
    obtain ⟨⟨inner, tail⟩, found, same⟩ := Option.map_eq_some_iff.1 h
    simp only [Prod.mk.injEq] at same
    have := ih (same.2 ▸ found)
    simp only [List.length_cons]
    omega

/-- The digits before the point take at least one character. -/
theorem length_of_readWhole? {cs digits after : List Char}
    (h : readWhole? cs = some (digits, after)) : after.length < cs.length := by
  simp only [readWhole?] at h
  split at h
  · simp_all
  · split at h
    · simp at h
    · next some_digit =>
      simp only [Option.some.injEq, Prod.mk.injEq] at h
      have split_length := congrArg List.length (List.takeWhile_append_dropWhile (p := Char.isDigit)
        (l := cs))
      have pos := List.length_pos_iff.2 (mt List.isEmpty_iff.2 some_digit)
      simp only [List.length_append] at split_length
      rw [← h.2]
      omega

/-- What follows the digits behind a point is no longer than the text. -/
theorem length_of_readFraction? {cs digits after : List Char}
    (h : readFraction? cs = some (digits, after)) : after.length ≤ cs.length := by
  simp only [readFraction?] at h
  split at h
  · next rest =>
    split at h
    · simp at h
    · simp only [Option.some.injEq, Prod.mk.injEq] at h
      have := (List.dropWhile_suffix Char.isDigit (l := rest)).length_le
      rw [← h.2]
      simp only [List.length_cons]
      omega
  · simp_all

/-- What follows a sign is no longer than the text. -/
theorem length_splitSign (cs : List Char) : (Number.splitSign cs).2.length ≤ cs.length := by
  simp only [Number.splitSign]
  split <;> simp

/-- What follows an exponent is no longer than the text. -/
theorem length_of_readExponent? {cs after : List Char} {exponent : Int}
    (h : readExponent? cs = some (exponent, after)) : after.length ≤ cs.length := by
  simp only [readExponent?] at h
  split at h
  · simp_all
  · next rest =>
    have signed := length_splitSign rest
    split at h
    · split at h
      · simp at h
      · simp only [Option.some.injEq, Prod.mk.injEq] at h
        have := (List.dropWhile_suffix Char.isDigit (l := (Number.splitSign rest).2)).length_le
        rw [← h.2]
        simp only [List.length_cons]
        omega
    · simp_all

/-- A number takes at least one character. -/
theorem length_of_readNumber? {cs after : List Char} {parts : NumberParts}
    (h : readNumber? cs = some (parts, after)) : after.length < cs.length := by
  simp only [readNumber?, Option.bind_eq_bind, Option.bind_eq_some_iff] at h
  obtain ⟨⟨whole, cs₁⟩, first, ⟨fraction, cs₂⟩, second, ⟨exponent, cs₃⟩, third, same⟩ := h
  simp only [Option.pure_def, Option.some.injEq, Prod.mk.injEq] at same
  have : cs₁.length < cs.length := length_of_readWhole? first
  have : cs₂.length ≤ cs₁.length := length_of_readFraction? second
  have : cs₃.length ≤ cs₂.length := length_of_readExponent? third
  rw [← same.2]
  omega

/-- What follows a token is no longer than the text behind the token's first character. -/
theorem length_of_readToken? {c : Char} {rest after : List Char} {t : Token}
    (h : readToken? c rest = some (t, after)) : after.length ≤ rest.length := by
  simp only [readToken?] at h
  split at h
  iterate 6 simp_all
  · simp only [Option.bind_eq_bind, Option.bind_eq_some_iff] at h
    obtain ⟨⟨parts, tail⟩, found, _, -, same⟩ := h
    simp only [Option.pure_def, Option.some.injEq, Prod.mk.injEq] at same
    exact Nat.le_of_lt (same.2 ▸ length_of_readString? found)
  · simp only [Option.bind_eq_bind, Option.bind_eq_some_iff] at h
    obtain ⟨⟨parts, tail⟩, found, _, -, same⟩ := h
    simp only [Option.pure_def, Option.some.injEq, Prod.mk.injEq] at same
    exact Nat.le_of_lt (same.2 ▸ length_of_readNumber? found)
  iterate 3
    split at h
    · simp only [Option.some.injEq, Prod.mk.injEq] at h
      rw [← h.2, List.length_drop]
      exact Nat.sub_le _ _
    · simp at h
  · simp only [Option.bind_eq_bind, Option.bind_eq_some_iff] at h
    obtain ⟨⟨parts, tail⟩, found, _, -, same⟩ := h
    simp only [Option.pure_def, Option.some.injEq, Prod.mk.injEq] at same
    exact Nat.lt_succ_iff.1 (same.2 ▸ length_of_readNumber? found)

/-- The tokens of a text, if it is made of tokens and blanks. -/
def tokens? : List Char → Option (List Token)
  | [] => some []
  | c :: rest =>
    if isBlank c then tokens? rest
    else
      match _found : readToken? c rest with
      | some (t, after) => (tokens? after).map (t :: ·)
      | none => none
termination_by cs => cs.length
decreasing_by
  · simp
  · exact Nat.lt_succ_iff.2 (length_of_readToken? _found)

end Formulas.Json
