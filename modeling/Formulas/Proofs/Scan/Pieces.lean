import Mathlib.Data.List.TakeWhile
import Formulas.Proofs.Grammar
import Formulas.Proofs.Scan.Spelling

/-!
# Texts inside texts

A text that scans without an error scans alike inside a larger text, if it stands in front of a
character with which no token goes on: a bracket, a comma or a blank, but no letter or digit, which
a name or a number takes, no point, which a number takes, and no sign that makes one operator of
two.

## Main definitions

* `Scanner.Closes`: no token goes on in front of a text.

## Main results

* `Scanner.lexeme_append`: a lexeme is read alike in front of such a text;
* `Scanner.ofText_eq_nothing_iff`: the texts without tokens;
* `Scanner.spells_of_scan`: all that a scanner reads without an error is read alike as well;
* `Scanner.spells_separated`: texts with commas between them.
-/

namespace Formulas.Scanner

open Text

/-- The character can go on with a token that stands in front of it. -/
def goesOn (c : Char) : Bool := continuesName c || c == '.' || c == '=' || c == '&' || c == '|'

/-- No token goes on in front of the text. -/
def Closes (rest : List Char) : Prop := Ends goesOn rest

variable {rest : List Char}

theorem Closes.ends (h : Closes rest) {p : Char → Bool} (hp : ∀ c, p c = true → goesOn c = true) :
    Ends p rest :=
  Ends.mono h hp

theorem Closes.ends_continuesName (h : Closes rest) : Ends continuesName rest :=
  h.ends fun c hc => by simp [goesOn, hc]

theorem Closes.ends_isDigit (h : Closes rest) : Ends Char.isDigit rest :=
  h.ends fun c hc => by simp [goesOn, continuesName_of_isDigit hc]

/-- A sign that goes on does not stand at the head. -/
theorem Closes.ne_head (h : Closes rest) {c : Char} (hc : goesOn c = true) (tail : List Char) :
    rest ≠ c :: tail := by
  rintro rfl
  have hnot := (ends_cons goesOn c tail).1 h
  rw [hc] at hnot
  cases hnot

/-- A name in brackets is read alike in front of any text. -/
theorem readBracketed?_append_right {cs name after : List Char}
    (h : readBracketed? cs = some (name, after)) (rest : List Char) :
    readBracketed? (cs ++ rest) = some (name, after ++ rest) := by
  fun_induction readBracketed? cs generalizing name with
  | case1 => cases h
  | case2 tail =>
    cases h
    rfl
  | case3 c tail hc ih =>
    obtain ⟨⟨inner, after'⟩, hinner, heq⟩ := Option.map_eq_some_iff.1 h
    obtain ⟨rfl, rfl⟩ := Prod.mk.inj heq
    rw [List.cons_append, readBracketed?.eq_3 _ _ hc, ih hinner]
    rfl

/-- Characters that are no escape are none in front of any text, unless they are a backslash at the
end. -/
theorem not_escape_append {c q : Char} {tail : List Char}
    (h : ∀ after, c = '\\' → tail = q :: after → False) (hne : c ≠ '\\' ∨ tail ≠ [])
    (rest : List Char) : ∀ after, c = '\\' → tail ++ rest = q :: after → False := by
  intro after hc htail
  cases tail with
  | nil => exact hne.elim (absurd hc) (absurd rfl)
  | cons d tail => exact h tail hc (by rw [(List.cons.inj htail).1])

/-- A string is read alike in front of any text. -/
theorem readString?_append_right {quote : Char} (hquote : quote ≠ '\\') {cs value after : List Char}
    (h : readString? quote cs = some (value, after)) (rest : List Char) :
    readString? quote (cs ++ rest) = some (value, after ++ rest) := by
  fun_induction readString? quote cs generalizing value with
  | case1 => cases h
  | case2 tail ih | case3 tail ih | case4 tail ih =>
    obtain ⟨⟨inner, after'⟩, hinner, heq⟩ := Option.map_eq_some_iff.1 h
    obtain ⟨rfl, rfl⟩ := Prod.mk.inj heq
    simp only [List.cons_append, readString?, ih hinner, Option.map_some]
  | case5 c tail hdouble hsingle hslash hc =>
    cases h
    have hne : c ≠ '\\' ∨ after ≠ [] := .inl fun heq => hquote (by rw [← heq, beq_iff_eq.1 hc])
    rw [List.cons_append, readString?.eq_5 _ _ _ (not_escape_append hdouble hne rest)
      (not_escape_append hsingle hne rest) (not_escape_append hslash hne rest), if_pos hc]
  | case6 c tail hdouble hsingle hslash hc ih =>
    obtain ⟨⟨inner, after'⟩, hinner, heq⟩ := Option.map_eq_some_iff.1 h
    obtain ⟨rfl, rfl⟩ := Prod.mk.inj heq
    -- a backslash at the very end would leave the string open
    have hne : c ≠ '\\' ∨ tail ≠ [] := .inr fun heq => by
      subst heq
      cases hinner
    rw [List.cons_append, readString?.eq_5 _ _ _ (not_escape_append hdouble hne rest)
      (not_escape_append hsingle hne rest) (not_escape_append hslash hne rest), if_neg hc,
      ih hinner]
    rfl

/-- The digits of a number are read alike in front of a text with which no token goes on. -/
theorem readDigits_append_right (hrest : Closes rest) (cs : List Char) :
    readDigits (cs ++ rest) = ((readDigits cs).1, (readDigits cs).2 ++ rest) := by
  have htake := fun cs => takeWhile_append_of_ends cs hrest.ends_isDigit
  have hdrop := fun cs => dropWhile_append_of_ends cs hrest.ends_isDigit
  simp only [readDigits, htake, hdrop]
  -- a point among the digits stands in the text itself, since the rest starts with none
  split
  next tail heq =>
    cases hafter : cs.dropWhile Char.isDigit with
    | nil =>
      rw [hafter, List.nil_append] at heq
      exact absurd heq (hrest.ne_head (by decide) tail)
    | cons c inner =>
      rw [hafter, List.cons_append] at heq
      obtain ⟨rfl, rfl⟩ := List.cons.inj heq
      simp only [htake, hdrop]
  next hpoint =>
    split
    next inner hafter => exact absurd (by rw [hafter]; rfl) (hpoint (inner ++ rest))
    next => rfl

variable {c : Char} {cs after : List Char} {t : Token}

/-- An operator that may be doubled is read alike. -/
theorem doubled_append (hrest : Closes rest) (hc : goesOn c = true) {op : Operator}
    (h : doubled c op cs = .token t after) :
    doubled c op (cs ++ rest) = .token t (after ++ rest) := by
  cases cs with
  | nil =>
    cases h
    cases rest with
    | nil => rfl
    | cons d tail =>
      have hne : (d == c) = false := by
        rw [beq_eq_false_iff_ne]
        rintro rfl
        exact hrest.ne_head hc tail rfl
      simp only [doubled, List.nil_append, hne, Bool.false_eq_true, if_false]
      rfl
  | cons d tail =>
    simp only [doubled, List.cons_append] at h ⊢
    split at h <;> cases h
    next hd =>
      rw [if_pos hd]
      rfl
    next hd =>
      rw [if_neg hd]
      rfl

/-- An operator that may be extended is read alike. -/
theorem extended_append (hrest : Closes rest) {plain withEquals : Operator}
    (h : extended plain withEquals cs = .token t after) :
    extended plain withEquals (cs ++ rest) = .token t (after ++ rest) := by
  unfold extended at h ⊢
  split at h <;> cases h
  next => rfl
  next hequals =>
    split
    next tail heq =>
      cases cs with
      | nil => exact absurd heq (hrest.ne_head (by decide) tail)
      | cons d inner => exact absurd (by rw [(List.cons.inj heq).1]) (hequals inner)
    next => rfl

/-- A bare name is read alike. -/
theorem name_append (hrest : Closes rest) (h : name cs = .token t after) :
    name (cs ++ rest) = .token t (after ++ rest) := by
  have htake := takeWhile_append_of_ends cs hrest.ends_continuesName
  have hdrop := dropWhile_append_of_ends cs hrest.ends_continuesName
  simp only [name, htake, hdrop] at h ⊢
  split at h <;> cases h
  next his =>
    rw [if_pos his]
    rfl
  next his => rw [if_neg his]

/-- A number is read alike. -/
theorem number_append (hrest : Closes rest) (h : number cs = .token t after) :
    number (cs ++ rest) = .token t (after ++ rest) := by
  simp only [number, readDigits_append_right hrest] at h ⊢
  split at h <;> cases h
  next => rfl

/-- A lexeme that is more than a mark is read alike. -/
theorem compound_append (hrest : Closes rest) (h : compound c cs = .token t after) :
    compound c (cs ++ rest) = .token t (after ++ rest) := by
  unfold compound at h ⊢
  split at h
  iterate 3 exact doubled_append hrest (by decide) h
  iterate 3 exact extended_append hrest h
  iterate 2
    split at h <;> cases h
    next hread => simp only [readString?_append_right (by decide) hread]
  · split at h <;> cases h
    next hread => simp only [readBracketed?_append_right hread]
  iterate 4 cases h
  · split at h
    next hstart =>
      rw [if_pos hstart, ← List.cons_append]
      exact name_append hrest h
    next hstart =>
      rw [if_neg hstart]
      split at h
      next hdigit =>
        rw [if_pos hdigit, ← List.cons_append]
        exact number_append hrest h
      next => cases h

/-- A lexeme is read alike in front of a text with which no token goes on. -/
theorem lexeme_append (hrest : Closes rest) (h : lexeme cs = .token t after) :
    lexeme (cs ++ rest) = .token t (after ++ rest) := by
  cases cs with
  | nil => cases h
  | cons c cs =>
    simp only [lexeme, List.cons_append] at h ⊢
    split at h
    next hmark =>
      cases h
      rfl
    next => exact compound_append hrest h

/-- A character is never taken for the end of the text. -/
theorem compound_ne_nothing (c : Char) (cs : List Char) : compound c cs ≠ .nothing := by
  simp only [compound, doubled, extended, single, name, number]
  repeat' split
  all_goals simp

/-- A scanner that finds the end has only blanks left. -/
theorem dropBlanks_of_next {s behind : Scanner} (h : s.next = (none, behind)) :
    dropBlanks s.rest = [] := by
  simp only [next] at h
  split at h
  next hlexeme =>
    cases hrest : dropBlanks s.rest with
    | nil => rfl
    | cons c cs =>
      rw [hrest] at hlexeme
      simp only [lexeme] at hlexeme
      split at hlexeme
      · cases hlexeme
      · exact absurd hlexeme (compound_ne_nothing c cs)
  next => cases h
  next => cases h

/-- A text is scanned as nothing at all exactly if it is blank. -/
theorem ofText_eq_nothing_iff {text : String} :
    Scan.ofText text = ⟨[], none⟩ ↔ ∀ c ∈ text.toList, isBlank c = true := by
  rw [← List.dropWhile_eq_nil_iff, ← dropBlanks]
  constructor
  · intro h
    rw [Scan.ofText, scan] at h
    split at h
    next hnext => exact dropBlanks_of_next hnext
    next => cases h
    next => cases h
  · intro h
    have hnext : (ofText text).next = (none, ⟨text.toList.length, []⟩) := by
      simp only [next, ofText, h, lexeme]
    rw [Scan.ofText, scan]
    split
    next => rfl
    next hfault => simp [hnext] at hfault
    next htoken => simp [hnext] at htoken

/-- Blanks are skipped up to the same character in front of any text, if there is one. -/
theorem dropBlanks_append (h : dropBlanks cs ≠ []) (rest : List Char) :
    dropBlanks (cs ++ rest) = dropBlanks cs ++ rest := by
  rw [dropBlanks, List.dropWhile_append, ← dropBlanks, if_neg (by simpa using h)]

/-- A scanner that finds a token finds it in front of a text with which no token goes on. -/
theorem next_append (hrest : Closes rest) {s behind : Scanner} {t : Token}
    (h : s.next = (some (.ok t), behind)) (size : Nat) :
    (⟨size, s.rest ++ rest⟩ : Scanner).next = (some (.ok t), ⟨size, behind.rest ++ rest⟩) := by
  simp only [next] at h
  split at h
  next => cases h
  next hlexeme =>
    cases h
    have hne : dropBlanks s.rest ≠ [] := fun heq => by
      rw [heq] at hlexeme
      cases hlexeme
    simp only [next, dropBlanks_append hne, lexeme_append hrest hlexeme]
  next => cases h

/-- What a scanner reads without an error is spelled by the text in front of any text with which no
token goes on. -/
theorem spells_of_scan (hrest : Closes rest) {s : Scanner} (h : s.scan.fault = none) :
    Spells s.rest s.scan.tokens rest := by
  fun_induction scan s with
  | case1 s behind hnext =>
    -- only blanks are left, so the scanner goes on with the rest
    intro size
    refine scan_congr ?_
    have hblank := dropBlanks_of_next hnext
    have hdrop : dropBlanks (s.rest ++ rest) = dropBlanks rest := by
      rw [dropBlanks] at hblank
      rw [dropBlanks, List.dropWhile_append, hblank]
      rfl
    simp only [next, hdrop]
  | case2 s err behind hnext => cases h
  | case3 s t behind hnext others ih =>
    intro size
    rw [scan_of_next (next_append hrest hnext size), ih h size]
    rfl

/-- Parts that are spelled in front of a comma, and in front of the character behind the last of
them, are spelled with commas between them. -/
theorem spells_separated {parts : List (String × List Token)} {c : Char} {rest : List Char}
    (h : ∀ part ∈ parts, ∀ d ∈ [',', c], ∀ behind, Spells part.1.toList part.2 (d :: behind)) :
    Spells (commaSeparated (parts.map Prod.fst)).toList (Token.separated (parts.map Prod.snd))
      (c :: rest) := by
  induction parts with
  | nil => exact .nil _
  | cons part parts ih =>
    rw [List.forall_mem_cons] at h
    cases parts with
    | nil => exact h.1 c (by simp) rest
    | cons part' parts =>
      have hbehind := (spells_mark (c := ',') rfl _).append (ih h.2)
      have hfirst := h.1 ',' (by simp)
      simpa [commaSeparated, Token.separated] using (hfirst _).append hbehind

end Formulas.Scanner
