import Mathlib.Data.List.DropRight
import Mathlib.Order.Monotone.Basic
import Formulas.Proofs.Scan.Pieces

/-!
# Scanners that are asked again and again

A scanner can be asked for a token as often as one likes, also after errors. Every call moves on in
the text or stays where it is. A token takes characters from the text, from the first one on that is
no blank, so that in front of the first error every character is in one token or a blank between
tokens. An error is about the character at its position. It is met again in every later call, unless
a string or a name is not closed: then the text is used up.

A call depends on where the scanner is in its text and on nothing else. `Scanner.Call` says what it
can do there, and what follows about many calls is derived from that.

## Main definitions

* `Scanner.answer` and `Scanner.place`: what a call answers, and where the scanner is before it;
* `Scanner.Call`: what a call can answer at a place, and where it leaves the scanner;
* `Scanner.Items`: a scanner that stops at its first error;
* `Scanner.Orderly`: what the calls of a scanner do, one after the other.

## Main results

* `Scanner.IsIn.call`: a call does what `Scanner.Call` says;
* `Scanner.getElem?_items`: a scan yields what the calls answer, up to the first error;
* `Scanner.orderly`: the calls of a scanner are orderly on every text.
-/

namespace Formulas

open Text

/-- The error is met at the end of the text, in search of the sign that closes a string or a
name. -/
def ScanFault.isUnclosed : ScanFault → Bool
  | .unterminatedString | .unterminatedIdentifier => true
  | _ => false

/-- The error is about the character: the one that it shows, or the one that opens what is not
closed. No error is about the digits of a number. -/
def ScanFault.IsAbout : ScanFault → Char → Prop
  | .unexpectedCharacter shown, c | .smartQuote shown, c => c = shown
  | .unterminatedString, c => c = '"' ∨ c = '\''
  | .unterminatedIdentifier, c => c = '['
  | .invalidNumber _, _ => False

/-- What a scan yields: its tokens, and its error if there is one. -/
def Scan.items (s : Scan) : List (Except ScanError Token) :=
  s.tokens.map .ok ++ s.fault.toList.map .error

namespace Scanner

/-! ### What stands at the head of a text -/

/-- The text behind a bracketed name is a part of the text. -/
theorem readBracketed?_suffix {cs name rest : List Char}
    (h : readBracketed? cs = some (name, rest)) : rest <:+ cs := by
  fun_induction readBracketed? cs generalizing name with
  | case1 => cases h
  | case2 tail =>
    cases h
    exact List.suffix_cons ..
  | case3 c tail hc ih =>
    obtain ⟨⟨inner, after⟩, hinner, heq⟩ := Option.map_eq_some_iff.1 h
    obtain ⟨rfl, rfl⟩ := Prod.mk.inj heq
    exact (ih hinner).trans (List.suffix_cons ..)

/-- The text behind a string is a part of the text. -/
theorem readString?_suffix {quote : Char} {cs value rest : List Char}
    (h : readString? quote cs = some (value, rest)) : rest <:+ cs := by
  fun_induction readString? quote cs generalizing value with
  | case1 => cases h
  | case2 tail ih | case3 tail ih | case4 tail ih =>
    obtain ⟨⟨inner, after⟩, hinner, heq⟩ := Option.map_eq_some_iff.1 h
    obtain ⟨rfl, rfl⟩ := Prod.mk.inj heq
    -- the backslash and the character behind it
    exact (ih hinner).trans ((List.suffix_cons ..).trans (List.suffix_cons ..))
  | case5 c tail =>
    simp_all
  | case6 c tail _ _ _ _ ih =>
    obtain ⟨⟨inner, after⟩, hinner, heq⟩ := Option.map_eq_some_iff.1 h
    obtain ⟨rfl, rfl⟩ := Prod.mk.inj heq
    exact (ih hinner).trans (List.suffix_cons ..)

/-- The text behind the digits of a number is a part of the text. -/
theorem readDigits_suffix (cs : List Char) : (readDigits cs).2 <:+ cs := by
  have hdrop : cs.dropWhile Char.isDigit <:+ cs := List.dropWhile_suffix _
  unfold readDigits
  split
  next tail heq =>
    rw [heq] at hdrop
    exact (List.dropWhile_suffix _).trans ((List.suffix_cons ..).trans hdrop)
  next => exact hdrop

/-- Digits with at most one point among or behind them are a number. -/
theorem exists_parse?_readDigits {c : Char} (hc : c.isDigit = true) (cs : List Char) :
    ∃ x, Number.parse? (String.ofList (readDigits (c :: cs)).1) = some x := by
  have htake : (c :: cs).takeWhile Char.isDigit = c :: cs.takeWhile Char.isDigit :=
    List.takeWhile_cons_of_pos hc
  have hwhole : ∀ d ∈ c :: cs.takeWhile Char.isDigit, d.isDigit = true := by
    rw [← htake]
    exact List.all_eq_true.1 List.all_takeWhile
  simp only [readDigits, htake]
  split
  next tail _ =>
    have hfraction : ∀ d ∈ tail.takeWhile Char.isDigit, d.isDigit = true :=
      List.all_eq_true.1 List.all_takeWhile
    have hread := Number.readNumeral?_pointed (List.cons_ne_nil _ _) hwhole hfraction
    rw [List.cons_append] at hread
    rw [List.cons_append, Number.parse?_of_isDigit hc, hread]
    exact ⟨_, rfl⟩
  next =>
    rw [Number.parse?_of_isDigit hc, Number.readNumeral?_digits (List.cons_ne_nil _ _) hwhole]
    exact ⟨_, rfl⟩

/-- What stands at the head of a text that starts with no blank: its end, a token that takes
characters from it, or an error about its first character. -/
inductive Found (cs : List Char) : Lexeme → Prop
  | nothing (h : cs = []) : Found cs .nothing
  | token {t : Token} {rest : List Char} (hsuffix : rest <:+ cs)
      (hlength : rest.length < cs.length) : Found cs (.token t rest)
  | fault {f : ScanFault} {c : Char} (hhead : cs.head? = some c) (habout : f.IsAbout c) :
      Found cs (.fault f (if f.isUnclosed then [] else cs))

variable {c : Char} {cs tail : List Char}

/-- A token that takes nothing from the text behind its first character takes that character. -/
theorem Found.of_suffix {t : Token} {rest : List Char} (h : rest <:+ tail) :
    Found (c :: tail) (.token t rest) :=
  .token (h.trans (List.suffix_cons ..)) (Nat.lt_succ_of_le h.length_le)

theorem found_doubled (c d : Char) (op : Operator) (tail : List Char) :
    Found (c :: tail) (doubled d op tail) := by
  unfold doubled single
  split
  · split
    · exact .of_suffix (List.suffix_cons ..)
    · exact .of_suffix List.suffix_rfl
  · exact .of_suffix List.suffix_rfl

theorem found_extended (c : Char) (plain withEquals : Operator) (tail : List Char) :
    Found (c :: tail) (extended plain withEquals tail) := by
  unfold extended single
  split
  · exact .of_suffix (List.suffix_cons ..)
  · exact .of_suffix List.suffix_rfl

theorem found_name (hc : startsName c = true) (tail : List Char) :
    Found (c :: tail) (name (c :: tail)) := by
  have hdrop : (c :: tail).dropWhile continuesName = tail.dropWhile continuesName :=
    List.dropWhile_cons_of_pos (continuesName_of_startsName hc)
  simp only [name, single, hdrop]
  split <;> exact .of_suffix (List.dropWhile_suffix _)

theorem found_number (hc : c.isDigit = true) (tail : List Char) :
    Found (c :: tail) (number (c :: tail)) := by
  obtain ⟨x, hx⟩ := exists_parse?_readDigits hc tail
  simp only [number, hx]
  exact .token (readDigits_suffix _) (length_readDigits_lt hc tail)

theorem found_compound (c : Char) (tail : List Char) : Found (c :: tail) (compound c tail) := by
  unfold compound
  split
  iterate 3 exact found_doubled ..
  iterate 3 exact found_extended ..
  -- a string or a name that is not closed uses up the text
  iterate 2
    split
    next hread => exact .of_suffix (readString?_suffix hread)
    next => exact .fault (f := .unterminatedString) rfl (by simp [ScanFault.IsAbout])
  · split
    next hread => exact .of_suffix (readBracketed?_suffix hread)
    next => exact .fault (f := .unterminatedIdentifier) rfl rfl
  iterate 4 exact .fault (f := .smartQuote _) rfl rfl
  · split
    next hstart => exact found_name hstart tail
    next =>
      split
      next hdigit => exact found_number hdigit tail
      next => exact .fault (f := .unexpectedCharacter c) rfl rfl

/-- What a scanner finds at the head of a text. -/
theorem found_lexeme (cs : List Char) : Found cs (lexeme cs) := by
  unfold lexeme
  split
  · exact .nothing rfl
  · split
    · exact .of_suffix List.suffix_rfl
    · exact found_compound ..

/-! ### One call -/

/-- The character at the position `first` is the first from `start` on that is no blank. -/
def IsFirst (cs : List Char) (start first : Nat) : Prop :=
  start ≤ first ∧ (∀ i c, start ≤ i → i < first → cs[i]? = some c → isBlank c = true) ∧
    ∃ c, cs[first]? = some c ∧ isBlank c = false

/-- What a call answers that finds the scanner of a text at the place `start`, and at which place it
leaves the scanner. -/
inductive Call (cs : List Char) (start : Nat) : Option (Except ScanError Token) → Nat → Prop
  | nothing (hblank : ∀ c ∈ cs.drop start, isBlank c = true) : Call cs start none cs.length
  | token {t : Token} {first stop : Nat} (hfirst : IsFirst cs start first) (hstop : first < stop)
      (hle : stop ≤ cs.length) : Call cs start (some (.ok t)) stop
  | fault {e : ScanError} {c : Char} (hfirst : IsFirst cs start e.position)
      (hc : cs[e.position]? = some c) (habout : e.fault.IsAbout c) :
      Call cs start (some (.error e)) (if e.fault.isUnclosed then cs.length else e.position)

namespace Call

variable {start stop : Nat}

/-- A token takes at least one character, from the first one on that is no blank. -/
theorem exists_isFirst {t : Token} (h : Call cs start (some (.ok t)) stop) :
    ∃ first, IsFirst cs start first ∧ first < stop := by
  obtain _ | ⟨hfirst, hstop, -⟩ | _ := h
  exact ⟨_, hfirst, hstop⟩

/-- An error is about the character at its position, the first one that is no blank. -/
theorem isAbout {e : ScanError} (h : Call cs start (some (.error e)) stop) :
    IsFirst cs start e.position ∧ ∃ c, cs[e.position]? = some c ∧ e.fault.IsAbout c := by
  obtain _ | _ | ⟨hfirst, hc, habout⟩ := h
  exact ⟨hfirst, _, hc, habout⟩

end Call

/-- The scanner is somewhere in the text. -/
structure IsIn (cs : List Char) (s : Scanner) : Prop where
  size_eq : s.size = cs.length
  suffix : s.rest <:+ cs

namespace IsIn

variable {s : Scanner}

theorem ofText (text : String) : (ofText text).IsIn text.toList := ⟨rfl, List.suffix_rfl⟩

/-- What is left of the text is what stands behind the position. -/
theorem rest_eq (h : s.IsIn cs) : s.rest = cs.drop s.position := by
  rw [position, h.size_eq]
  exact List.suffix_iff_eq_drop.1 h.suffix

theorem position_le (h : s.IsIn cs) : s.position ≤ cs.length := by
  rw [position, h.size_eq]
  exact Nat.sub_le ..

/-- The first character that is left and no blank. -/
theorem isFirst (h : s.IsIn cs) (hrest : dropBlanks s.rest = c :: tail) :
    IsFirst cs s.position (s.size - (c :: tail).length) ∧
      cs[s.size - (c :: tail).length]? = some c := by
  -- the text falls into what has been read, blanks, and what is left behind these
  obtain ⟨read, rfl⟩ := h.suffix
  have hsplit : s.rest.takeWhile isBlank ++ c :: tail = s.rest := by
    rw [← hrest]
    exact List.takeWhile_append_dropWhile
  have hblank : ∀ d ∈ s.rest.takeWhile isBlank, isBlank d = true :=
    List.all_eq_true.1 List.all_takeWhile
  have hc : isBlank c = false := by
    have hends := ends_dropWhile isBlank s.rest
    rwa [← dropBlanks, hrest, ends_cons] at hends
  generalize s.rest.takeWhile isBlank = blanks at hsplit hblank
  have hposition : s.position = read.length := by
    rw [position, h.size_eq, List.length_append]
    omega
  have hfirst : s.size - (c :: tail).length = read.length + blanks.length := by
    rw [h.size_eq, ← hsplit]
    simp only [List.length_append]
    omega
  have hget : (read ++ s.rest)[read.length + blanks.length]? = some c := by
    rw [← hsplit, ← List.append_assoc, List.getElem?_append_right (by simp)]
    simp
  rw [hposition, hfirst]
  refine ⟨⟨Nat.le_add_right .., ?_, c, hget, hc⟩, hget⟩
  intro i d hle hlt hd
  -- a character between them is one of the blanks
  rw [← hsplit, List.getElem?_append_right hle, List.getElem?_append_left (by omega)] at hd
  exact hblank d (List.mem_of_getElem? hd)

/-- What a call does, wherever the scanner is in its text. -/
theorem call (h : s.IsIn cs) :
    s.next.2.IsIn cs ∧ Call cs s.position s.next.1 s.next.2.position := by
  have hblanks : dropBlanks s.rest <:+ cs := (List.dropWhile_suffix _).trans h.suffix
  have hfound := found_lexeme (dropBlanks s.rest)
  simp only [next]
  split
  next hlexeme =>
    rw [hlexeme] at hfound
    obtain ⟨hnil⟩ | _ := hfound
    refine ⟨⟨h.size_eq, hblanks⟩, ?_⟩
    have hplace : (⟨s.size, dropBlanks s.rest⟩ : Scanner).position = cs.length := by
      rw [position, hnil, h.size_eq]
      rfl
    rw [hplace]
    refine .nothing ?_
    rw [← h.rest_eq]
    exact List.dropWhile_eq_nil_iff.1 hnil
  next t rest hlexeme =>
    rw [hlexeme] at hfound
    obtain _ | ⟨hsuffix, hlength⟩ := hfound
    have hin : (⟨s.size, rest⟩ : Scanner).IsIn cs := ⟨h.size_eq, hsuffix.trans hblanks⟩
    obtain ⟨c, tail, hrest⟩ :=
      List.exists_cons_of_length_pos (Nat.lt_of_le_of_lt (Nat.zero_le _) hlength)
    -- the token takes at least the first character
    refine ⟨hin, .token (h.isFirst hrest).1 ?_ hin.position_le⟩
    have hle := hblanks.length_le
    rw [hrest] at hlength hle
    change s.size - (c :: tail).length < s.size - rest.length
    rw [h.size_eq]
    omega
  next f rest hlexeme =>
    rw [hlexeme] at hfound
    generalize hleft : rest = left at hfound
    obtain _ | _ | ⟨hhead, habout⟩ := hfound
    subst hleft
    obtain ⟨tail, hrest⟩ := List.head?_eq_some_iff.1 hhead
    obtain ⟨hfirst, hget⟩ := h.isFirst hrest
    rw [← hrest] at hfirst hget
    refine ⟨⟨h.size_eq, ?_⟩, ?_⟩
    · split
      · exact List.nil_suffix
      · exact hblanks
    · have hplace : (⟨s.size, if f.isUnclosed then [] else dropBlanks s.rest⟩ : Scanner).position =
          if f.isUnclosed then cs.length else s.size - (dropBlanks s.rest).length := by
        split <;> simp [position, h.size_eq]
      rw [hplace]
      exact .fault hfirst hget habout

end IsIn

/-! ### The calls behind -/

/-- A call that finds nothing leaves a scanner that finds nothing. -/
theorem next_of_next_none {s behind : Scanner} (h : s.next = (none, behind)) :
    behind.next = (none, behind) := by
  have hnil := dropBlanks_of_next h
  have hbehind : behind = ⟨s.size, []⟩ := by
    simp only [next, hnil, lexeme, Prod.mk.injEq, true_and] at h
    exact h.symm
  rw [hbehind]
  rfl

/-- A call that meets an error leaves a scanner that meets it again, or one without any text. -/
theorem next_of_next_error {s behind : Scanner} {e : ScanError}
    (h : s.next = (some (.error e), behind)) :
    behind.next = (if e.fault.isUnclosed then none else some (.error e), behind) := by
  have hfound := found_lexeme (dropBlanks s.rest)
  simp only [next] at h
  split at h
  next => cases h
  next => cases h
  next f rest hlexeme =>
    rw [hlexeme] at hfound
    generalize hleft : rest = left at hfound
    obtain _ | _ | ⟨hhead, habout⟩ := hfound
    subst hleft
    cases h
    split
    next => rfl
    next hclosed =>
      -- the blanks have been skipped, so the lexeme at the head is the same
      have hagain : dropBlanks (dropBlanks s.rest) = dropBlanks s.rest :=
        List.dropWhile_idempotent ..
      rw [if_neg hclosed] at hlexeme
      simp only [next, hagain, hlexeme]

/-- The scanner after some calls, whatever they answered. -/
def after (s : Scanner) : Nat → Scanner
  | 0 => s
  | n + 1 => (s.after n).next.2

/-- The first of the calls can be counted apart. -/
theorem after_next (s : Scanner) (n : Nat) : s.next.2.after n = s.after (n + 1) := by
  induction n with
  | zero => rfl
  | succ n ih => rw [after, ih, ← after]

/-- A scanner that a call leaves as it is stays as it is. -/
theorem after_eq_of_le {s : Scanner} {n m : Nat} (hle : n ≤ m)
    (h : (s.after n).next.2 = s.after n) : s.after m = s.after n := by
  induction m, hle using Nat.le_induction with
  | base => rfl
  | succ m hle ih => rw [after, ih, h]

/-- What a call answers on the scanner of a text, behind `n` others. -/
def answer (text : String) (n : Nat) : Option (Except ScanError Token) :=
  ((ofText text).after n).next.1

/-- The position of the scanner of a text after `n` calls. -/
def place (text : String) (n : Nat) : Nat := ((ofText text).after n).position

variable {text : String} {n : Nat}

/-- The scanner of a text never leaves it. -/
theorem isIn_after (text : String) (n : Nat) : ((ofText text).after n).IsIn text.toList := by
  induction n with
  | zero => exact .ofText text
  | succ n ih => exact ih.call.1

/-- What the calls of a scanner do, each at the place where the one before it left the scanner. -/
theorem call_answer (text : String) (n : Nat) :
    Call text.toList (place text n) (answer text n) (place text (n + 1)) :=
  (isIn_after text n).call.2

/-- An answer that leaves the scanner as it is is the answer of all calls behind it. -/
theorem answer_of_next {found : Option (Except ScanError Token)}
    (h : ((ofText text).after (n + 1)).next = (found, (ofText text).after (n + 1))) {m : Nat}
    (hlt : n < m) : answer text m = found := by
  have hstay : (ofText text).after m = (ofText text).after (n + 1) :=
    after_eq_of_le hlt (by rw [h])
  rw [answer, hstay, h]

/-- An error is about the character at its position, the first one that is no blank. -/
theorem isAbout_of_error {e : ScanError} (h : answer text n = some (.error e)) :
    IsFirst text.toList (place text n) e.position ∧
      ∃ c, text.toList[e.position]? = some c ∧ e.fault.IsAbout c := by
  have hcall := call_answer text n
  rw [h] at hcall
  exact hcall.isAbout

/-- Behind an error the answer is the error again, or there is none any more. -/
theorem answer_of_error {e : ScanError} (h : answer text n = some (.error e)) {m : Nat}
    (hlt : n < m) : answer text m = if e.fault.isUnclosed then none else some (.error e) :=
  answer_of_next (next_of_next_error (Prod.ext h rfl)) hlt

theorem place_le_succ (text : String) (n : Nat) : place text n ≤ place text (n + 1) := by
  have hle := (isIn_after text n).position_le
  have hcall := call_answer text n
  generalize answer text n = found, place text (n + 1) = stop at hcall
  obtain hblank | ⟨hfirst, hstop, -⟩ | ⟨hfirst, -, -⟩ := hcall
  · exact hle
  · exact Nat.le_trans hfirst.1 (Nat.le_of_lt hstop)
  · split
    · exact hle
    · exact hfirst.1

theorem monotone_place (text : String) : Monotone (place text) :=
  monotone_nat_of_le_succ (place_le_succ text)

/-! ### Every character in one token -/

/-- The character at the position `i` belongs to the token that a call answers: it stands at or
behind the first character that is no blank, and in front of where the call leaves the scanner. -/
def Takes (text : String) (n i : Nat) : Prop :=
  ∃ t first, answer text n = some (.ok t) ∧ IsFirst text.toList (place text n) first ∧
    first ≤ i ∧ i < place text (n + 1)

/-- No character belongs to the tokens of two calls. -/
theorem Takes.unique {n m i : Nat} (h : Takes text n i) (h' : Takes text m i) : n = m := by
  -- the earlier token ends before the later one begins
  have hbefore : ∀ {n m : Nat}, Takes text n i → Takes text m i → ¬n < m := by
    rintro n m ⟨-, -, -, -, -, hstop⟩ ⟨-, first, -, hfirst, hle, -⟩ hlt
    have hplace := monotone_place text (Nat.succ_le_of_lt hlt)
    exact Nat.lt_irrefl i (Nat.lt_of_lt_of_le hstop (hplace.trans (hfirst.1.trans hle)))
  exact Nat.le_antisymm (Nat.not_lt.1 (hbefore h' h)) (Nat.not_lt.1 (hbefore h h'))

/-- A character belongs to a token, or is a blank, or does not stand in front of an error. -/
def Settled (text : String) (i : Nat) : Prop :=
  (∃ n, Takes text n i) ∨ (∃ c, text.toList[i]? = some c ∧ isBlank c = true) ∨
    ∃ n e, answer text n = some (.error e) ∧ e.position ≤ i

/-- A character behind the place of a scanner is settled by its call, or stands behind the token
that the call answers. -/
theorem settled_or_token {i : Nat} (hi : i < text.toList.length) (hle : place text n ≤ i) :
    Settled text i ∨ place text n < place text (n + 1) ∧ place text (n + 1) ≤ i := by
  obtain ⟨c, hc⟩ : ∃ c, text.toList[i]? = some c := ⟨_, List.getElem?_eq_getElem hi⟩
  have hgap : ∀ {first}, IsFirst text.toList (place text n) first → i < first → Settled text i :=
    fun hfirst hlt => .inr (.inl ⟨c, hc, hfirst.2.1 i c hle hlt hc⟩)
  have hcall := call_answer text n
  generalize hanswer : answer text n = found, hstop : place text (n + 1) = stop at hcall
  obtain hblank | @⟨t, first, _, hfirst, hlt, -⟩ | @⟨e, _, hfirst, -, -⟩ := hcall
  · refine .inl (.inr (.inl ⟨c, hc, hblank c ?_⟩))
    refine List.mem_of_getElem? (i := i - place text n) ?_
    rw [List.getElem?_drop, Nat.add_sub_cancel' hle, hc]
  · by_cases hgapped : i < first
    · exact .inl (hgap hfirst hgapped)
    · by_cases hbehind : stop ≤ i
      · exact .inr ⟨Nat.lt_of_le_of_lt hfirst.1 hlt, hbehind⟩
      · exact .inl (.inl ⟨n, t, first, hanswer, hfirst, Nat.not_lt.1 hgapped,
          hstop ▸ Nat.not_le.1 hbehind⟩)
  · by_cases hgapped : i < e.position
    · exact .inl (hgap hfirst hgapped)
    · exact .inl (.inr (.inr ⟨n, e, hanswer, Nat.not_lt.1 hgapped⟩))

/-- Every character of a text is settled. -/
theorem settled {i : Nat} (hi : i < text.toList.length) : Settled text i := by
  -- every token takes a character, so a scanner that goes on with tokens gets behind the position
  have hall : ∀ n, Settled text i ∨ n ≤ place text n ∧ place text n ≤ i := by
    intro n
    induction n with
    | zero =>
      refine .inr ⟨Nat.zero_le _, ?_⟩
      have hzero : place text 0 = 0 := Nat.sub_self _
      omega
    | succ n ih =>
      rcases ih with hsettled | ⟨hn, hle⟩
      · exact .inl hsettled
      · rcases settled_or_token hi hle with hsettled | ⟨hlt, hle'⟩
        · exact .inl hsettled
        · exact .inr ⟨by omega, hle'⟩
  rcases hall (i + 1) with hsettled | ⟨hlt, hle⟩
  · exact hsettled
  · omega

/-! ### The items of a scan -/

/-- A scanner that is asked for the items of a scan, and whether there has been an error. -/
structure Items where
  scanner : Scanner
  failed : Bool

namespace Items

/-- The next item. Behind an error there is none. -/
def next (i : Items) : Option (Except ScanError Token) × Items :=
  if i.failed then (none, i)
  else
    match i.scanner.next with
    | (some (.error e), behind) => (some (.error e), ⟨behind, true⟩)
    | (item, behind) => (item, ⟨behind, false⟩)

/-- What is left after some items. -/
def after (i : Items) : Nat → Items
  | 0 => i
  | n + 1 => (i.after n).next.2

/-- The items of a text. -/
def ofText (text : String) : Items := ⟨Scanner.ofText text, false⟩

end Items

/-- One of the calls in front of the call `n` has met an error. -/
def FailsBefore (s : Scanner) (n : Nat) : Prop :=
  ∃ m < n, ∃ e, (s.after m).next.1 = some (.error e)

theorem not_failsBefore_zero (s : Scanner) : ¬s.FailsBefore 0 := by
  rintro ⟨m, hm, -⟩
  exact Nat.not_lt_zero m hm

theorem failsBefore_succ {s : Scanner} :
    s.FailsBefore (n + 1) ↔ s.FailsBefore n ∨ ∃ e, (s.after n).next.1 = some (.error e) := by
  simp only [FailsBefore, Nat.lt_succ_iff_lt_or_eq]
  constructor
  · rintro ⟨m, hlt | rfl, he⟩
    · exact .inl ⟨m, hlt, he⟩
    · exact .inr he
  · rintro (⟨m, hlt, he⟩ | he)
    · exact ⟨m, .inl hlt, he⟩
    · exact ⟨n, .inr rfl, he⟩

/-- An error is met behind a token exactly if it is met behind the first call. -/
theorem failsBefore_next {s behind : Scanner} {t : Token} (h : s.next = (some (.ok t), behind)) :
    s.FailsBefore (n + 1) ↔ behind.FailsBefore n := by
  have hshift : ∀ m, behind.after m = s.after (m + 1) := by
    intro m
    rw [← after_next, h]
  constructor
  · rintro ⟨m, hlt, e, he⟩
    cases m with
    | zero => simp [after, h] at he
    | succ m => exact ⟨m, Nat.lt_of_succ_lt_succ hlt, e, by rw [hshift, he]⟩
  · rintro ⟨m, hlt, e, he⟩
    exact ⟨m + 1, Nat.succ_lt_succ hlt, e, by rw [← hshift, he]⟩

/-- The items of a scanner go on as its calls do until one of them meets an error. -/
theorem Items.after_eq (s : Scanner) (n : Nat) :
    (¬s.FailsBefore n → (⟨s, false⟩ : Items).after n = ⟨s.after n, false⟩) ∧
      (s.FailsBefore n → ((⟨s, false⟩ : Items).after n).failed = true) := by
  induction n with
  | zero => exact ⟨fun _ => rfl, fun h => absurd h (not_failsBefore_zero s)⟩
  | succ n ih =>
    obtain ⟨hgoes, hfails⟩ := ih
    rw [failsBefore_succ, not_or]
    constructor
    · rintro ⟨hbefore, hnow⟩
      rw [Items.after, hgoes hbefore, Items.next, if_neg (by simp), Scanner.after]
      split
      next e behind hnext => exact absurd ⟨e, by rw [hnext]⟩ hnow
      next hnext => rw [hnext]
    · intro h
      by_cases hbefore : s.FailsBefore n
      · rw [Items.after, Items.next, if_pos (hfails hbefore)]
        exact hfails hbefore
      · obtain ⟨e, he⟩ := h.resolve_left hbefore
        rw [Items.after, hgoes hbefore, Items.next, if_neg (by simp)]
        split
        next => rfl
        next hnot hnext => exact (hnot e (by rw [← he, hnext])).elim

/-- The next item is what the call answers, unless a call before it has met an error. -/
theorem Items.next_after (s : Scanner) (n : Nat) :
    (¬s.FailsBefore n → ((⟨s, false⟩ : Items).after n).next.1 = (s.after n).next.1) ∧
      (s.FailsBefore n → ((⟨s, false⟩ : Items).after n).next.1 = none) := by
  obtain ⟨hgoes, hfails⟩ := Items.after_eq s n
  constructor
  · intro h
    rw [hgoes h, Items.next, if_neg (by simp)]
    split
    next hnext => rw [hnext]
    next hnext => rw [hnext]
  · intro h
    rw [Items.next, if_pos (hfails h)]

/-- Behind a call that finds nothing no call finds anything. -/
theorem next_after_of_next_none {s behind : Scanner} (h : s.next = (none, behind)) (n : Nat) :
    (s.after n).next.1 = none := by
  have hbehind : (s.after 1).next = (none, s.after 1) := by
    rw [after, after, h]
    exact next_of_next_none h
  rcases Nat.eq_zero_or_pos n with rfl | hpos
  · rw [after, h]
  · have hstay : s.after n = s.after 1 := after_eq_of_le hpos (by rw [hbehind])
    rw [hstay, hbehind]

/-- A scan yields what the calls answer, up to the first error. -/
theorem getElem?_items (s : Scanner) (n : Nat) :
    (¬s.FailsBefore n → s.scan.items[n]? = (s.after n).next.1) ∧
      (s.FailsBefore n → s.scan.items[n]? = none) := by
  fun_induction scan s generalizing n with
  | case1 s behind hnext =>
    have hnone := next_after_of_next_none hnext
    refine ⟨fun _ => (hnone n).symm, ?_⟩
    rintro ⟨m, -, e, he⟩
    rw [hnone m] at he
    cases he
  | case2 s e behind hnext =>
    rcases n with _ | n
    · refine ⟨fun _ => ?_, fun h => absurd h (not_failsBefore_zero s)⟩
      rw [after, hnext]
      rfl
    · have hfails : s.FailsBefore (n + 1) := ⟨0, Nat.succ_pos n, e, by rw [after, hnext]⟩
      exact ⟨fun h => absurd hfails h, fun _ => rfl⟩
  | case3 s t behind hnext others ih =>
    rcases n with _ | n
    · refine ⟨fun _ => ?_, fun h => absurd h (not_failsBefore_zero s)⟩
      rw [after, hnext]
      rfl
    · -- the other items and the other calls are those behind the token
      have hitems : (⟨t :: others.tokens, others.fault⟩ : Scan).items[n + 1]? = others.items[n]? :=
        rfl
      rw [failsBefore_next hnext, hitems, ← after_next, hnext]
      exact ih n

/-! ### The calls of a scanner -/

/-- What the calls of a scanner do on a text, one after the other. -/
structure Orderly (text : String) : Prop where
  /-- The position never decreases. -/
  place_le_place : ∀ n, place text n ≤ place text (n + 1)
  /-- The position never exceeds the length of the text. -/
  place_le_length : ∀ n, place text n ≤ text.toList.length
  /-- A call finds nothing exactly if only blanks are left. -/
  answer_eq_none_iff : ∀ n, answer text n = none ↔
    ∀ c ∈ text.toList.drop (place text n), isBlank c = true
  /-- A token takes at least one character, from the first one on that is no blank. -/
  exists_isFirst : ∀ n t, answer text n = some (.ok t) →
    ∃ first, IsFirst text.toList (place text n) first ∧ first < place text (n + 1)
  /-- A character belongs to exactly one token, or to none as a blank or behind an error. -/
  takes_or : ∀ i c, text.toList[i]? = some c → (∃! n, Takes text n i) ∨
    (∀ n, ¬Takes text n i) ∧
      (isBlank c = true ∨ ∃ n e, answer text n = some (.error e) ∧ e.position ≤ i)
  /-- An error is about the character at its position, the first one that is no blank. -/
  isAbout : ∀ n e, answer text n = some (.error e) →
    IsFirst text.toList (place text n) e.position ∧
      ∃ c, text.toList[e.position]? = some c ∧ e.fault.IsAbout c
  /-- An error is met again in all calls behind it, or nothing is found any more if a string or a
  name is not closed. -/
  answer_of_lt : ∀ n m e, answer text n = some (.error e) → n < m →
    answer text m = if e.fault.isUnclosed then none else some (.error e)
  /-- No digits fail to be a number. -/
  ne_invalidNumber : ∀ n e digits, answer text n = some (.error e) → e.fault ≠ .invalidNumber digits
  /-- The items of the text are the answers up to the first error. -/
  item_eq : ∀ n, (∀ m < n, ∀ e, answer text m ≠ some (.error e)) →
    ((Items.ofText text).after n).next.1 = answer text n
  /-- Behind an error there are no items. -/
  item_eq_none : ∀ n m e, answer text n = some (.error e) → n < m →
    ((Items.ofText text).after m).next.1 = none
  /-- The scan of the text holds the items, and none behind the last of them. -/
  getElem?_scan : ∀ n, (Scan.ofText text).items[n]? = ((Items.ofText text).after n).next.1

/-- The calls of a scanner are orderly, whatever the text. -/
theorem orderly (text : String) : Orderly text where
  place_le_place := place_le_succ text
  place_le_length n := (isIn_after text n).position_le
  answer_eq_none_iff n := by
    have hcall := call_answer text n
    generalize answer text n = found, place text (n + 1) = stop at hcall
    -- a token and an error are found at a character that is no blank
    have hfound : ∀ {first}, IsFirst text.toList (place text n) first →
        ¬∀ c ∈ text.toList.drop (place text n), isBlank c = true := by
      rintro first ⟨hle, -, c, hc, hblank⟩ hall
      have hmem : c ∈ text.toList.drop (place text n) := by
        refine List.mem_of_getElem? (i := first - place text n) ?_
        rw [List.getElem?_drop, Nat.add_sub_cancel' hle, hc]
      rw [hall c hmem] at hblank
      cases hblank
    obtain hblank | ⟨hfirst, -, -⟩ | ⟨hfirst, -, -⟩ := hcall
    · simpa using hblank
    · simpa using hfound hfirst
    · simpa using hfound hfirst
  exists_isFirst n t h := by
    have hcall := call_answer text n
    rw [h] at hcall
    exact hcall.exists_isFirst
  takes_or i c hc := by
    by_cases h : ∃ n, Takes text n i
    · obtain ⟨n, hn⟩ := h
      exact .inl ⟨n, hn, fun m hm => hm.unique hn⟩
    · have hsettled := (settled (List.getElem?_eq_some_iff.1 hc).1).resolve_left h
      refine .inr ⟨not_exists.1 h, hsettled.imp_left ?_⟩
      rintro ⟨d, hd, hblank⟩
      rwa [Option.some.inj (hc.symm.trans hd)]
  isAbout n e h := isAbout_of_error h
  answer_of_lt n m e h hlt := answer_of_error h hlt
  ne_invalidNumber n e digits h hdigits := by
    obtain ⟨-, c, -, habout⟩ := isAbout_of_error h
    rw [hdigits] at habout
    exact habout
  item_eq n h := by
    refine (Items.next_after (Scanner.ofText text) n).1 ?_
    rintro ⟨m, hlt, e, he⟩
    exact h m hlt e he
  item_eq_none n m e h hlt := (Items.next_after (Scanner.ofText text) m).2 ⟨n, hlt, e, h⟩
  getElem?_scan n := by
    by_cases h : (Scanner.ofText text).FailsBefore n
    · rw [Scan.ofText, Items.ofText, (getElem?_items _ n).2 h, (Items.next_after _ n).2 h]
    · rw [Scan.ofText, Items.ofText, (getElem?_items _ n).1 h, (Items.next_after _ n).1 h]

/-- The sign at the position 4 is met again, and is the last item. -/
example :
    let sign : ScanError := ⟨.unexpectedCharacter '#', 4⟩
    (List.range 4).map (answer "ab  # c") =
        [some (.ok (.identifier "ab")), some (.error sign), some (.error sign),
          some (.error sign)] ∧
      (List.range 4).map (place "ab  # c") = [0, 2, 4, 4] ∧
      (Scan.ofText "ab  # c").items = [.ok (.identifier "ab"), .error sign] := by
  decide +kernel

end Scanner

end Formulas
