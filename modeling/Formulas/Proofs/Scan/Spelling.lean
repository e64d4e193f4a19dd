import Formulas.Expr.Printer
import Formulas.Proofs.Number.Text
import Formulas.Scan

/-!
# Texts that spell tokens

Some characters in front of a rest are scanned as some tokens, and then the rest is scanned. What
stands at the head of the rest matters, since a name, a number or a sign can go on there.

## Main definitions

* `Scanner.Spells`: in front of a rest, characters are scanned as tokens.

## Main results

* `Scanner.spells_nameText`: a name that is written is scanned as the name;
* `Scanner.spells_stringText`: a string that is written is scanned as the string;
* `Scanner.spells_number` and `Scanner.spells_number_point`: a number that is written is scanned as
  the number, and so is a whole number together with a point behind it.
-/

namespace Formulas

/-- The scan with more tokens in front. -/
def Scan.prepend (ts : List Token) (s : Scan) : Scan := ⟨ts ++ s.tokens, s.fault⟩

theorem Scan.prepend_append (ts us : List Token) (s : Scan) :
    s.prepend (ts ++ us) = (s.prepend us).prepend ts := by
  simp [prepend]

/-- The operator is the one that a node of two operands is written with. -/
def Operator.JoinsNode (op : Operator) : Prop := op = .union ∨ ∃ node : BinaryOp, op = node.operator

namespace Scanner

open Text Number

/-- In front of `rest` the characters `cs` are scanned as the tokens `ts`. -/
def Spells (cs : List Char) (ts : List Token) (rest : List Char) : Prop :=
  ∀ size, (⟨size, cs ++ rest⟩ : Scanner).scan = (⟨size, rest⟩ : Scanner).scan.prepend ts

/-- A scanner that finds a token goes on behind it. -/
theorem scan_of_next {s s' : Scanner} {t : Token} (h : s.next = (some (.ok t), s')) :
    s.scan = s'.scan.prepend [t] := by
  rw [scan]
  split
  next hnext => simp [hnext] at h
  next hnext => simp [hnext] at h
  next hnext =>
    rw [hnext] at h
    cases h
    rfl

/-- The scan depends on what the scanner finds next. -/
theorem scan_congr {s s' : Scanner} (h : s.next = s'.next) : s.scan = s'.scan := by
  rw [scan, scan.eq_def s']
  split <;> split <;> simp_all

theorem Spells.nil (rest : List Char) : Spells [] [] rest := fun _ => rfl

/-- What is spelled one behind the other is scanned one behind the other. -/
theorem Spells.append {cs cs' rest : List Char} {ts ts' : List Token}
    (h : Spells cs ts (cs' ++ rest)) (h' : Spells cs' ts' rest) :
    Spells (cs ++ cs') (ts ++ ts') rest := by
  intro size
  rw [List.append_assoc, h size, h' size, Scan.prepend_append]

/-- A text that is spelled with nothing behind it is scanned without an error. -/
theorem Spells.ofText_eq {text : String} {ts : List Token} (h : Spells text.toList ts []) :
    Scan.ofText text = ⟨ts, none⟩ := by
  have hscan := h text.toList.length
  have hend : (⟨text.toList.length, []⟩ : Scanner).scan = ⟨[], none⟩ := by
    rw [scan]
    rfl
  rw [List.append_nil, hend] at hscan
  rw [Scan.ofText, ofText, hscan, Scan.prepend, List.append_nil]

/-- A blank is skipped. -/
theorem Spells.blank {c : Char} (hc : isBlank c = true) (rest : List Char) :
    Spells [c] [] rest := by
  intro size
  refine scan_congr ?_
  have hdrop : dropBlanks ([c] ++ rest) = dropBlanks rest := List.dropWhile_cons_of_pos hc
  simp only [next, hdrop]

/-- Characters that start with no blank are scanned as the lexeme at their head. -/
theorem Spells.of_lexeme {c : Char} {cs rest : List Char} {t : Token} (hc : isBlank c = false)
    (h : lexeme (c :: (cs ++ rest)) = .token t rest) : Spells (c :: cs) [t] rest := by
  intro size
  refine scan_of_next ?_
  have hdrop : dropBlanks (c :: cs ++ rest) = c :: (cs ++ rest) :=
    dropWhile_of_ends (by simpa using hc)
  simp only [next, hdrop, h]

/-- A mark is scanned as its token, whatever follows. -/
theorem spells_mark {c : Char} {t : Token} (h : mark? c = some t) (rest : List Char) :
    Spells [c] [t] rest := by
  refine .of_lexeme ?_ ?_
  · unfold mark? at h
    split at h <;> first | rfl | cases h
  · rw [List.nil_append]
    simp only [lexeme, h]

/-- A character that starts a name is no blank. -/
theorem isBlank_of_startsName {c : Char} (h : startsName c = true) : isBlank c = false := by
  rw [← Bool.not_eq_true]
  intro hblank
  -- the blanks are few enough to be tried one by one
  have hmem := mem_members_of_inRanges hblank
  have hnone : (members blanks).all (fun c => !startsName c) = true := by decide +kernel
  have hstart := List.all_eq_true.1 hnone c hmem
  rw [h] at hstart
  cases hstart

/-- The signs beyond ASCII that the scanner knows start no name. -/
theorem startsName_of_mem_signs {c : Char} (h : c ∈ ['∈', '∩', '∪', '“', '”', '‘', '’']) :
    startsName c = false := by
  have hnone : ['∈', '∩', '∪', '“', '”', '‘', '’'].all (fun c => !startsName c) = true := by
    decide +kernel
  simpa using List.all_eq_true.1 hnone c h

/-- A character that starts a name is read as the start of a name. -/
theorem lexeme_of_startsName {c : Char} (h : startsName c = true) (rest : List Char) :
    lexeme (c :: rest) = name (c :: rest) := by
  have hsign : c ∉ ['∈', '∩', '∪', '“', '”', '‘', '’'] := by
    intro hmem
    rw [startsName_of_mem_signs hmem] at h
    cases h
  have hmark : mark? c = none := by
    unfold mark?
    split <;> first | rfl | exact absurd (by decide) hsign | exact absurd h (by decide)
  simp only [lexeme, hmark, compound]
  split
  -- the characters that are read in a way of their own start no name
  iterate 13 first | exact absurd (by decide) hsign | exact absurd h (by decide)
  rw [if_pos h]

/-- A digit starts no name. -/
theorem startsName_of_isDigit {c : Char} (h : c.isDigit = true) : startsName c = false := by
  have hnone : digits.all (fun c => !startsName c) = true := by decide
  simpa using List.all_eq_true.1 hnone c (mem_digits_of_isDigit h)

/-- A digit can stand in a name. -/
theorem continuesName_of_isDigit {c : Char} (h : c.isDigit = true) : continuesName c = true := by
  simp [continuesName, isAlphanumeric, isNumeric_of_isDigit h]

/-- A digit is read as the start of a number. -/
theorem lexeme_of_isDigit {c : Char} (h : c.isDigit = true) (rest : List Char) :
    lexeme (c :: rest) = number (c :: rest) := by
  have hmark : mark? c = none := by
    unfold mark?
    split <;> first | rfl | exact absurd h (by decide)
  simp only [lexeme, hmark, compound]
  split
  iterate 13 exact absurd h (by decide)
  rw [if_neg (by simp [startsName_of_isDigit h]), if_pos h]

/-- A word that can be a bare name is scanned as a name, where no name goes on. -/
theorem spells_word {c : Char} {cs : List Char} (hstart : startsName c = true)
    (hcontinue : ∀ d ∈ cs, continuesName d = true) (his : String.ofList (c :: cs) ≠ "is")
    {rest : List Char} (hrest : Ends continuesName rest) :
    Spells (c :: cs) [.identifier (String.ofList (c :: cs))] rest := by
  have hrun : ∀ d ∈ c :: cs, continuesName d = true := by
    rw [List.forall_mem_cons]
    exact ⟨continuesName_of_startsName hstart, hcontinue⟩
  have htake := takeWhile_run hrun hrest
  have hdrop := dropWhile_run hrun hrest
  refine .of_lexeme (isBlank_of_startsName hstart) ?_
  rw [lexeme_of_startsName hstart, ← List.cons_append]
  simp only [name, htake, hdrop, beq_eq_false_iff_ne.2 his, Bool.false_eq_true, if_false]

/-- A name that needs no brackets starts as a name, goes on as one and is not the operator. -/
theorem exists_of_isPlainName {n : String} (h : isPlainName n = true) :
    ∃ c cs, n.toList = c :: cs ∧ startsName c = true ∧ (∀ d ∈ cs, continuesName d = true) ∧
      n ≠ "is" := by
  unfold isPlainName at h
  split at h
  · cases h
  · next c cs hn =>
    simp only [Bool.and_eq_true, bne_iff_ne, ne_eq, List.all_eq_true] at h
    exact ⟨c, cs, hn, h.1.1.1, h.1.1.2, h.1.2⟩

/-- A bare name is scanned as the name, where no name goes on. -/
theorem spells_plain {n : String} (h : isPlainName n = true) {rest : List Char}
    (hrest : Ends continuesName rest) : Spells n.toList [.identifier n] rest := by
  obtain ⟨c, cs, hn, hstart, hcontinue, his⟩ := exists_of_isPlainName h
  have hword : n = String.ofList (c :: cs) := by rw [← hn, String.ofList_toList]
  rw [hn, hword]
  exact spells_word hstart hcontinue (hword ▸ his) hrest

/-- A name in brackets is read up to the bracket. -/
theorem readBracketed?_append {cs : List Char} (h : ']' ∉ cs) (rest : List Char) :
    readBracketed? (cs ++ ']' :: rest) = some (cs, rest) := by
  induction cs with
  | nil => rfl
  | cons c cs ih =>
    simp only [List.mem_cons, not_or] at h
    rw [List.cons_append, readBracketed?.eq_3 _ _ (Ne.symm h.1), ih h.2]
    rfl

/-- A name in brackets is scanned as the name, whatever follows. -/
theorem spells_bracketed {n : String} (h : ']' ∉ n.toList) (rest : List Char) :
    Spells ('[' :: (n.toList ++ [']'])) [.identifier n] rest := by
  refine .of_lexeme (by decide) ?_
  rw [List.append_assoc]
  change compound '[' _ = _
  have hread := readBracketed?_append h rest
  simp only [compound, List.cons_append, List.nil_append, hread, String.ofList_toList]

/-- A name that is written is scanned as the name, where no name goes on. -/
theorem spells_nameText {n : String} (h : ']' ∉ n.toList) {rest : List Char}
    (hrest : Ends continuesName rest) : Spells (nameText n).toList [.identifier n] rest := by
  unfold nameText
  split
  next hplain => exact spells_plain hplain hrest
  next =>
    have hbracketed := spells_bracketed h rest
    simpa using hbracketed

/-- The characters of a string as they are written. -/
def escaped (cs : List Char) : List Char :=
  cs.flatMap fun c => if c == '"' || c == '\\' then ['\\', c] else [c]

/-- A string without quotes and backslashes needs no escapes. -/
theorem escaped_eq_self {cs : List Char} (h : ∀ c ∈ cs, (c == '"' || c == '\\') = false) :
    escaped cs = cs := by
  induction cs with
  | nil => rfl
  | cons c cs ih =>
    rw [List.forall_mem_cons] at h
    rw [escaped, List.flatMap_cons, ← escaped, h.1, ih h.2]
    rfl

/-- An escaped string is read up to the quote behind it. -/
theorem readString?_escaped (cs rest : List Char) :
    readString? '"' (escaped cs ++ '"' :: rest) = some (cs, rest) := by
  induction cs with
  | nil => rfl
  | cons c cs ih =>
    rw [escaped, List.flatMap_cons, ← escaped]
    -- behind a backslash the next character is taken as it is
    by_cases hescape : c = '"' ∨ c = '\\'
    · rcases hescape with rfl | rfl
      · change (readString? '"' (escaped cs ++ '"' :: rest)).map _ = _
        rw [ih]
        rfl
      · change (readString? '"' (escaped cs ++ '"' :: rest)).map _ = _
        rw [ih]
        rfl
    · rw [not_or] at hescape
      have hplain : (c == '"' || c == '\\') = false := by simpa using hescape
      have hquote : (c == '"') = false := by simpa using hescape.1
      have hslash : ∀ {p : List Char → Prop}, ∀ tail, c = '\\' → p tail → False :=
        fun _ h _ => hescape.2 h
      rw [hplain]
      simp only [Bool.false_eq_true, if_false, List.cons_append, List.nil_append]
      rw [readString?.eq_5 _ _ _ hslash hslash hslash, hquote, ih]
      rfl

theorem toList_stringText (s : String) :
    (stringText s).toList = '"' :: (escaped s.toList ++ ['"']) := by
  rw [stringText, String.toList_ofList, escaped]

/-- A string that is written is scanned as the string, whatever follows. -/
theorem spells_stringText (s : String) (rest : List Char) :
    Spells (stringText s).toList [.string s] rest := by
  rw [toList_stringText]
  refine .of_lexeme (by decide) ?_
  rw [List.append_assoc]
  change compound '"' _ = _
  simp only [compound, List.cons_append, List.nil_append, readString?_escaped, String.ofList_toList]

/-- A finite number without a sign is written as its magnitude. -/
theorem toList_toText {units : Nat} (hfits : Fits units) :
    (Number.finite false units hfits).toText.toList = Layout.plain.magnitude units := by
  rw [toText, Layout.write, String.toList_ofList]
  rfl

/-- Digits with a point among or behind them are read up to a character that is no digit. -/
theorem readDigits_pointed {whole fraction : List Char}
    (hwhole : ∀ c ∈ whole, c.isDigit = true) (hfraction : ∀ c ∈ fraction, c.isDigit = true)
    {rest : List Char} (hrest : Ends Char.isDigit rest) :
    readDigits (whole ++ '.' :: (fraction ++ rest)) = (whole ++ '.' :: fraction, rest) := by
  have hends : Ends Char.isDigit ('.' :: (fraction ++ rest)) := by simp
  simp only [readDigits, takeWhile_run hwhole hends, dropWhile_run hwhole hends,
    takeWhile_run hfraction hrest, dropWhile_run hfraction hrest]

/-- Digits without a point are read up to a character that is neither a digit nor a point. -/
theorem readDigits_digits {whole : List Char} (hwhole : ∀ c ∈ whole, c.isDigit = true)
    {rest : List Char} (hrest : Ends Char.isDigit rest) (hpoint : Ends (· == '.') rest) :
    readDigits (whole ++ rest) = (whole, rest) := by
  simp only [readDigits, takeWhile_run hwhole hrest, dropWhile_run hwhole hrest]
  split
  next => simp at hpoint
  next => rfl

/-- What is read as the digits of a number is scanned as the number that they denote. -/
theorem spells_digits {c : Char} (hc : c.isDigit = true) {cs rest : List Char} {x : Number}
    (hread : readDigits (c :: cs ++ rest) = (c :: cs, rest))
    (hparse : Number.parse? (String.ofList (c :: cs)) = some x) :
    Spells (c :: cs) [.number x] rest := by
  refine .of_lexeme (isBlank_of_isDigit hc) ?_
  rw [lexeme_of_isDigit hc, ← List.cons_append]
  simp only [number, hread, hparse]

/-- A finite number is scanned as the number, where neither a digit follows nor, if the number is
whole, a point. -/
theorem spells_number {units : Nat} (hfits : Fits units) {rest : List Char}
    (hrest : Ends Char.isDigit rest) (hpoint : unitsOfOne ∣ units → Ends (· == '.') rest) :
    Spells (Number.finite false units hfits).toText.toList [.number (.finite false units hfits)]
      rest := by
  obtain ⟨whole, fraction, htext, hwritten⟩ := exists_writtenAs hfits
  obtain ⟨c, cs, rfl⟩ := List.exists_cons_of_ne_nil hwritten.whole_ne_nil
  have hc : c.isDigit = true := hwritten.isDigit_whole c (by simp)
  have hparse := hwritten.parse?_eq
  rw [ofUnits_units hfits] at hparse
  rw [toList_toText hfits, htext, List.cons_append]
  refine spells_digits hc ?_ hparse
  by_cases hnil : fraction = []
  · -- the digits of a whole number would go on with a point
    rw [pointed, if_pos hnil, List.append_nil]
    exact readDigits_digits hwritten.isDigit_whole hrest
      (hpoint (hwritten.fraction_eq_nil_iff.1 hnil))
  · have hread := readDigits_pointed hwritten.isDigit_whole hwritten.isDigit_fraction hrest
    rw [pointed, if_neg hnil]
    simpa using hread

/-- A whole number takes a point behind it for its own. -/
theorem spells_number_point {units : Nat} (hfits : Fits units) (hwhole : unitsOfOne ∣ units)
    {rest : List Char} (hrest : Ends Char.isDigit rest) :
    Spells ((Number.finite false units hfits).toText.toList ++ ['.'])
      [.number (.finite false units hfits)] rest := by
  obtain ⟨whole, fraction, htext, hwritten⟩ := exists_writtenAs hfits
  obtain ⟨c, cs, rfl⟩ := List.exists_cons_of_ne_nil hwritten.whole_ne_nil
  have hnil : fraction = [] := hwritten.fraction_eq_nil_iff.2 hwhole
  subst hnil
  have hc : c.isDigit = true := hwritten.isDigit_whole c (by simp)
  have hparse := hwritten.parse?_pointed
  rw [ofUnits_units hfits] at hparse
  have hread := readDigits_pointed hwritten.isDigit_whole hwritten.isDigit_fraction hrest
  rw [toList_toText hfits, htext, pointed, if_pos rfl, List.append_nil]
  refine spells_digits hc ?_ hparse
  simpa using hread

/-- The infinity is scanned as the name `inf`, where no name goes on. -/
theorem spells_infinite {rest : List Char} (hrest : Ends continuesName rest) :
    Spells (Number.infinite false).toText.toList [.identifier "inf"] rest :=
  spells_plain (n := "inf") (by decide) hrest

/-- The word `is` is scanned as the operator, where no name goes on. -/
theorem spells_is {rest : List Char} (hrest : Ends continuesName rest) :
    Spells ['i', 's'] [.operator .is] rest := by
  have hrun : ∀ c ∈ ['i', 's'], continuesName c = true := List.all_eq_true.1 (by decide)
  have htake := takeWhile_run hrun hrest
  have hdrop := dropWhile_run hrun hrest
  refine .of_lexeme (by decide) ?_
  rw [lexeme_of_startsName (by decide), ← List.cons_append]
  simp only [name, htake, hdrop]
  rfl

/-- The operator of a node is scanned as itself between blanks. -/
theorem spells_symbol {op : Operator} (hop : op.JoinsNode) (rest : List Char) :
    Spells (" " ++ op.symbol ++ " ").toList [.operator op] rest := by
  have hsymbol : Spells op.symbol.toList [.operator op] (' ' :: rest) := by
    rcases hop with rfl | ⟨node, rfl⟩
    · exact .of_lexeme (by decide) rfl
    · cases node with
      | is => exact spells_is ((ends_cons ..).2 (by decide))
      | _ => exact .of_lexeme (by decide) rfl
  have hblank : ∀ rest, Spells [' '] [] rest := Spells.blank (by decide)
  simpa using (hblank _).append (hsymbol.append (hblank _))

end Scanner

end Formulas
