import Formulas.CommandLine
import Formulas.Proofs.Scan.Calls

/-!
# Blanks between and behind texts

A blank ends whatever stands in front of it, unless that is a string or a name in brackets which is
not closed. So two texts with a blank between them are scanned one after the other, if the first has
no error, and blanks at the end of a text do not matter at all: also an open string, which takes
them, is reported at its quote as before.

Everything that reads a formula through its scan is then the same with and without blanks at the
end. In particular a formula from the standard input, where they are taken away, means what it means
as an argument.

## Main definitions

* `Scan.shift`: a scan whose text stands further on in a larger one.

## Main results

* `Scanner.scan_shift`: the positions of errors move with the text, and nothing else does;
* `Scan.ofText_append_of_spells`: a text that is spelled in front of another one;
* `Scan.ofText_blank_append`: two texts with a blank between them;
* `Scan.ofText_append_blanks`: a text with blanks behind it;
* `Scan.ofText_dropBlanksRight`: a text without the blanks at its end;
* `Scan.ofText_blanks`: all of this, with what follows for formulas and commands.
-/

namespace Formulas

open Text

/-- The error at a position that lies further on. -/
def ScanError.shift (k : Nat) (e : ScanError) : ScanError := ⟨e.fault, e.position + k⟩

/-- The scan with its error further on. -/
def Scan.shift (k : Nat) (s : Scan) : Scan := ⟨s.tokens, s.fault.map (ScanError.shift k)⟩

namespace Scanner

/-! ### Texts further on -/

/-- The whole text stays as it is. -/
@[simp]
theorem size_next (s : Scanner) : s.next.2.size = s.size := by
  simp only [next]
  split <;> rfl

/-- What a call finds does not depend on how much stands in front of the text. -/
theorem next_shift {s : Scanner} (h : s.rest.length ≤ s.size) (k : Nat) :
    (⟨s.size + k, s.rest⟩ : Scanner).next =
      (s.next.1.map (·.mapError (ScanError.shift k)), ⟨s.size + k, s.next.2.rest⟩) := by
  have hle : (dropBlanks s.rest).length ≤ s.size := (length_dropWhile_le _ _).trans h
  simp only [next]
  cases lexeme (dropBlanks s.rest) with
  | nothing => rfl
  | token t rest => rfl
  | fault f rest =>
    have hposition : s.size + k - (dropBlanks s.rest).length =
        s.size - (dropBlanks s.rest).length + k := by omega
    simp only [position, hposition]
    rfl

/-- A scanner that finds nothing has an empty scan. -/
theorem scan_of_next_none {s behind : Scanner} (h : s.next = (none, behind)) :
    s.scan = ⟨[], none⟩ := by
  rw [scan]
  split <;> simp_all

/-- A scanner that meets an error has a scan that ends there. -/
theorem scan_of_next_error {s behind : Scanner} {e : ScanError}
    (h : s.next = (some (.error e), behind)) : s.scan = ⟨[], some e⟩ := by
  rw [scan]
  split <;> simp_all

/-- The scan of a text that stands further on is the scan of the text, further on. -/
theorem scan_shift {s : Scanner} (h : s.rest.length ≤ s.size) (k : Nat) :
    (⟨s.size + k, s.rest⟩ : Scanner).scan = s.scan.shift k := by
  fun_induction scan s with
  | case1 s behind hnext =>
    have hshift := next_shift h k
    rw [hnext] at hshift
    exact scan_of_next_none hshift
  | case2 s e behind hnext =>
    have hshift := next_shift h k
    rw [hnext] at hshift
    exact scan_of_next_error hshift
  | case3 s t behind hnext others ih =>
    have hshift := next_shift h k
    rw [hnext] at hshift
    have hsize : behind.size = s.size := by rw [← size_next s, hnext]
    -- the token takes characters from what is left
    have hrest : behind.rest.length ≤ behind.size := by
      rw [hsize]
      exact (Nat.le_of_lt (length_of_next hnext)).trans h
    rw [scan_of_next hshift]
    change Scan.prepend [t] (scan ⟨s.size + k, behind.rest⟩) = _
    rw [← hsize, ih hrest]
    rfl

/-! ### Blanks -/

/-- A blank is none of the signs that close a string or a name or stand in front of an escape, and
no token goes on with it. -/
theorem of_isBlank {c : Char} (hc : isBlank c = true) :
    c ∉ ['"', '\'', '\\', ']'] ∧ goesOn c = false := by
  have hall : (members blanks).all
      (fun c => decide (c ∉ ['"', '\'', '\\', ']']) && !goesOn c) = true := by
    decide +kernel
  have hmem := List.all_eq_true.1 hall c (mem_members_of_inRanges hc)
  simpa using hmem

theorem closes_blank_cons {c : Char} (hc : isBlank c = true) (rest : List Char) :
    Closes (c :: rest) :=
  (ends_cons ..).2 (of_isBlank hc).2

theorem closes_blanks {blanks : List Char} (h : ∀ c ∈ blanks, isBlank c = true) :
    Closes blanks := by
  intro c hc
  exact (of_isBlank (h c (List.mem_of_mem_head? hc))).2

/-- A text behind an opening bracket is no name exactly if the bracket is not closed. -/
theorem readBracketed?_eq_none_iff {cs : List Char} : readBracketed? cs = none ↔ ']' ∉ cs := by
  fun_induction readBracketed? cs with
  | case1 => simp
  | case2 rest => simp
  | case3 c rest hc ih =>
    have hne : ']' ≠ c := fun h => hc h.symm
    simp [ih, hne]

/-- A text with neither quotes nor backslashes does not close a string. -/
theorem readString?_eq_none {quote : Char} {cs : List Char} (hquote : quote ∉ cs)
    (hslash : '\\' ∉ cs) : readString? quote cs = none := by
  induction cs with
  | nil => rfl
  | cons c cs ih =>
    simp only [List.mem_cons, not_or] at hquote hslash
    have hne : c ≠ '\\' := Ne.symm hslash.1
    rw [readString?.eq_5 _ _ _ (fun _ h => absurd h hne) (fun _ h => absurd h hne)
      (fun _ h => absurd h hne), if_neg (by simpa using Ne.symm hquote.1), ih hquote.2 hslash.2]
    rfl

/-- A string that is not closed stays so with a text behind it that has neither quotes nor
backslashes. -/
theorem readString?_append_eq_none {quote : Char} {cs rest : List Char} (hquote : quote ∉ rest)
    (hsigns : ∀ c ∈ ['"', '\'', '\\'], c ∉ rest) (h : readString? quote cs = none) :
    readString? quote (cs ++ rest) = none := by
  -- behind a backslash at the end of the text no escape is made up by the rest
  have hescape : ∀ {c q : Char} {tail : List Char}, q ∈ ['"', '\'', '\\'] →
      (∀ after, c = '\\' → tail = q :: after → False) →
      ∀ after, c = '\\' → tail ++ rest = q :: after → False := by
    intro c q tail hq hnot after hc htail
    rcases tail with _ | ⟨d, tail⟩
    · exact hsigns q hq (by rw [show rest = q :: after from htail]; exact List.mem_cons_self)
    · exact hnot tail hc (by rw [(List.cons.inj htail).1])
  fun_induction readString? quote cs with
  | case1 => exact readString?_eq_none hquote (hsigns '\\' (by simp))
  | case2 tail ih | case3 tail ih | case4 tail ih =>
    simp only [List.cons_append, readString?, ih (Option.map_eq_none_iff.1 h), Option.map_none]
  | case5 => cases h
  | case6 c tail hdouble hsingle hslash hc ih =>
    rw [List.cons_append, readString?.eq_5 _ _ _ (hescape (by simp) hdouble)
      (hescape (by simp) hsingle) (hescape (by simp) hslash), if_neg hc,
      ih (Option.map_eq_none_iff.1 h)]
    rfl

variable {blanks : List Char}

/-- An error about a lexeme that is more than a mark stays with blanks behind the text. -/
theorem exists_compound_append_eq_fault (hblanks : ∀ c ∈ blanks, isBlank c = true) {c : Char}
    {cs left : List Char} {f : ScanFault} (h : compound c cs = .fault f left) :
    ∃ left', compound c (cs ++ blanks) = .fault f left' := by
  have hsigns : ∀ c ∈ ['"', '\'', '\\', ']'], c ∉ blanks :=
    fun c hc hmem => (of_isBlank (hblanks c hmem)).1 hc
  have hstring : ∀ {quote : Char}, quote ∈ ['"', '\''] → readString? quote cs = none →
      readString? quote (cs ++ blanks) = none := by
    intro quote hquote hnone
    have hmem : quote ∉ blanks := hsigns quote (by simp at hquote ⊢; tauto)
    exact readString?_append_eq_none hmem (fun c hc => hsigns c (by simp at hc ⊢; tauto)) hnone
  unfold compound at h ⊢
  split at h
  iterate 3
    unfold doubled single at h
    split at h
    · split at h <;> cases h
    · cases h
  iterate 3
    unfold extended single at h
    split at h <;> cases h
  iterate 2
    split at h
    next => cases h
    next hnone =>
      cases h
      exact ⟨_, by rw [hstring (by simp) hnone]⟩
  · split at h
    next => cases h
    next hnone =>
      cases h
      have hopen : ']' ∉ cs ++ blanks := by
        rw [List.mem_append, not_or]
        exact ⟨readBracketed?_eq_none_iff.1 hnone, hsigns ']' (by simp)⟩
      exact ⟨_, by rw [readBracketed?_eq_none_iff.2 hopen]⟩
  iterate 4
    cases h
    exact ⟨_, rfl⟩
  · split at h
    next =>
      simp only [name, single] at h
      split at h <;> cases h
    next hstart =>
      split at h
      next hdigit =>
        obtain ⟨x, hx⟩ := exists_parse?_readDigits hdigit cs
        simp only [number, hx] at h
        cases h
      next hdigit =>
        cases h
        exact ⟨_, by rw [if_neg hstart, if_neg hdigit]⟩

/-- An error at the head of a text stays with blanks behind the text. -/
theorem exists_lexeme_append_eq_fault (hblanks : ∀ c ∈ blanks, isBlank c = true)
    {cs left : List Char} {f : ScanFault} (h : lexeme cs = .fault f left) :
    ∃ left', lexeme (cs ++ blanks) = .fault f left' := by
  rcases cs with _ | ⟨c, cs⟩
  · cases h
  · simp only [lexeme, List.cons_append] at h ⊢
    split at h
    next => cases h
    next => exact exists_compound_append_eq_fault hblanks h

/-- Blanks behind a text do not change its scan. -/
theorem scan_append_blanks (hblanks : ∀ c ∈ blanks, isBlank c = true) (s : Scanner) :
    (⟨s.size + blanks.length, s.rest ++ blanks⟩ : Scanner).scan = s.scan := by
  fun_induction scan s with
  | case1 s behind hnext =>
    have hnil : dropBlanks (s.rest ++ blanks) = [] := by
      refine List.dropWhile_eq_nil_iff.2 fun c hc => ?_
      rcases List.mem_append.1 hc with hc | hc
      · exact List.dropWhile_eq_nil_iff.1 (dropBlanks_of_next hnext) c hc
      · exact hblanks c hc
    have hnone : (⟨s.size + blanks.length, s.rest ++ blanks⟩ : Scanner).next =
        (none, ⟨s.size + blanks.length, []⟩) := by
      simp only [next, hnil, lexeme]
    exact scan_of_next_none hnone
  | case2 s e behind hnext =>
    simp only [next] at hnext
    split at hnext
    next => cases hnext
    next => cases hnext
    next f rest hlexeme =>
      cases hnext
      obtain ⟨left, hleft⟩ := exists_lexeme_append_eq_fault hblanks hlexeme
      have hne : dropBlanks s.rest ≠ [] := fun hnil => by
        rw [hnil] at hlexeme
        cases hlexeme
      -- as much has been put to the whole text as to what is left of it
      have hposition : s.size + blanks.length - (dropBlanks s.rest ++ blanks).length =
          s.size - (dropBlanks s.rest).length := by
        rw [List.length_append, Nat.add_sub_add_right]
      have herror : (⟨s.size + blanks.length, s.rest ++ blanks⟩ : Scanner).next =
          (some (.error ⟨f, s.size - (dropBlanks s.rest).length⟩),
            ⟨s.size + blanks.length, left⟩) := by
        simp only [next, dropBlanks_append hne, hleft, position, hposition]
      exact scan_of_next_error herror
  | case3 s t behind hnext others ih =>
    have hsize : behind.size = s.size := by rw [← size_next s, hnext]
    rw [scan_of_next (next_append (closes_blanks hblanks) hnext _), ← hsize, ih]
    rfl

end Scanner

namespace Scan

/-- A text with blanks behind it is scanned as the text. -/
theorem ofText_append_blanks (text : String) {blanks : String}
    (h : ∀ c ∈ blanks.toList, isBlank c = true) : ofText (text ++ blanks) = ofText text := by
  have hscan := Scanner.scan_append_blanks h (Scanner.ofText text)
  simpa [ofText, Scanner.ofText] using hscan

/-- A text that is spelled in front of another one is scanned as its tokens, and then the other one
is scanned, with its error further on. -/
theorem ofText_append_of_spells {text rest : String} {ts : List Token}
    (h : Scanner.Spells text.toList ts rest.toList) :
    ofText (text ++ rest) = ((ofText rest).shift text.toList.length).prepend ts := by
  have hshift := Scanner.scan_shift (s := Scanner.ofText rest) (Nat.le_refl _) text.toList.length
  rw [ofText, Scanner.ofText, String.toList_append, List.length_append, Nat.add_comm, h]
  exact congrArg _ hshift

/-- A text without an error, a blank and another text are scanned as the two texts, one after the
other. -/
theorem ofText_blank_append {text : String} (h : (ofText text).fault = none) {c : Char}
    (hc : isBlank c = true) (later : String) :
    ofText (text ++ c.toString ++ later) =
      ((ofText later).shift (text.toList.length + 1)).prepend (ofText text).tokens := by
  have hfirst := Scanner.spells_of_scan (Scanner.closes_blank_cons hc later.toList) h
  have hblank := Scanner.Spells.blank hc later.toList
  -- what stands in front is read first, then the blank is skipped
  have hboth : Scanner.Spells (text ++ c.toString).toList ((ofText text).tokens ++ [])
      later.toList := by
    rw [String.toList_append, Char.toString_eq_singleton, String.toList_singleton]
    exact hfirst.append hblank
  rw [ofText_append_of_spells hboth, List.append_nil]
  simp

end Scan

/-- A text is what is left of it without the blanks at its end, and blanks. -/
theorem Text.exists_dropBlanksRight_append (cs : List Char) :
    ∃ blanks, (∀ c ∈ blanks, isBlank c = true) ∧ cs = dropBlanksRight cs ++ blanks := by
  refine ⟨(cs.reverse.takeWhile isBlank).reverse, ?_, ?_⟩
  · intro c hc
    exact List.all_eq_true.1 List.all_takeWhile c (List.mem_reverse.1 hc)
  · rw [dropBlanksRight, dropBlanks, ← List.reverse_append, List.takeWhile_append_dropWhile,
      List.reverse_reverse]

/-- No blank is left at the end. -/
theorem Text.isBlank_of_mem_getLast? {cs : List Char} {c : Char}
    (h : c ∈ (dropBlanksRight cs).getLast?) : isBlank c = false := by
  rw [dropBlanksRight, List.getLast?_reverse, Option.mem_def] at h
  exact ends_dropWhile isBlank cs.reverse c h

namespace Scan

open CommandLine

/-- Without the blanks at its end a text is scanned as before. -/
theorem ofText_dropBlanksRight (text : String) :
    ofText (String.ofList (dropBlanksRight text.toList)) = ofText text := by
  obtain ⟨blanks, hblanks, heq⟩ := exists_dropBlanksRight_append text.toList
  have hend : ∀ c ∈ (String.ofList blanks).toList, isBlank c = true := by
    rwa [String.toList_ofList]
  have hwhole : text = String.ofList (dropBlanksRight text.toList) ++ String.ofList blanks := by
    rw [← String.ofList_append, ← heq, String.ofList_toList]
  conv_rhs => rw [hwhole]
  exact (ofText_append_blanks _ hend).symm

/-- Blanks between and behind texts. A text without an error, a blank and another text are scanned
one after the other, with the error of the latter moved by what stands in front of it. Blanks behind
a text change nothing of its scan, also if it has an error. So a formula and its tokens are the same
without the blanks at the end, and a request answers a formula from the standard input as it answers
the formula as an argument. -/
theorem ofText_blanks (text : String) :
    let trimmed := String.ofList (dropBlanksRight text.toList)
    (∀ (c : Char) (later : String), isBlank c = true → (ofText text).fault = none →
        ofText (text ++ c.toString ++ later) =
          ((ofText later).shift (text.toList.length + 1)).prepend (ofText text).tokens) ∧
      (∀ blanks : String, (∀ c ∈ blanks.toList, isBlank c = true) →
        ofText (text ++ blanks) = ofText text) ∧
      (∃ blanks, (∀ c ∈ blanks, isBlank c = true) ∧ text.toList = trimmed.toList ++ blanks ∧
        ∀ c ∈ trimmed.toList.getLast?, isBlank c = false) ∧
      (∀ ctx, Expr.parse ctx trimmed = Expr.parse ctx text) ∧
      Command.tokens trimmed = Command.tokens text ∧
      ∀ (input : String) (files : String → Except FileFault String),
        (∀ path style, (Request.check none path style).output text files =
          (Request.check (some text) path style).output input files) ∧
        (Request.tokens none).output text files =
          (Request.tokens (some text)).output input files := by
  intro trimmed
  have htrimmed := ofText_dropBlanksRight text
  have hparse : ∀ ctx, Expr.parse ctx (String.ofList (dropBlanksRight text.toList)) =
      Expr.parse ctx text := by
    intro ctx
    rw [Expr.parse, htrimmed, ← Expr.parse]
  have htokens : Command.tokens (String.ofList (dropBlanksRight text.toList)) =
      Command.tokens text := by
    rw [Command.tokens, htrimmed, ← Command.tokens]
  refine ⟨fun c later hc h => ofText_blank_append h hc later,
    fun blanks h => ofText_append_blanks text h, ?_, hparse, htokens, ?_⟩
  · obtain ⟨blanks, hblanks, heq⟩ := exists_dropBlanksRight_append text.toList
    rw [String.toList_ofList]
    exact ⟨blanks, hblanks, heq, fun c hc => isBlank_of_mem_getLast? hc⟩
  · intro input files
    constructor
    · intro path style
      have hcheck : ∀ catalog, Command.check catalog (formulaOf text none) =
          Command.check catalog (formulaOf input (some text)) := by
        intro catalog
        simp only [Command.check, formulaOf, Option.getD_none, Option.getD_some, hparse]
      simp only [Request.output, hcheck]
    · simp only [Request.output, formulaOf, Option.getD_none, Option.getD_some, htokens]

/-- An error behind a tab is moved by the two characters in front of it, and a string that is not
closed is reported at its quote, whatever blanks it takes. -/
theorem ofText_blanks_fault :
    (ofText "x").fault = none ∧ (∀ c ∈ ['\t', ' '], isBlank c = true) ∧
      ofText ("x" ++ '\t'.toString ++ "b #") =
        ⟨[.identifier "x", .identifier "b"], some ⟨.unexpectedCharacter '#', 4⟩⟩ ∧
      ofText ("x 'y" ++ "\t ") = ⟨[.identifier "x"], some ⟨.unterminatedString, 2⟩⟩ := by
  have hfault : (ofText "x").fault = none := by decide +kernel
  have hblank : ∀ c ∈ ['\t', ' '], isBlank c = true :=
    List.forall_mem_cons.2 ⟨by decide, List.forall_mem_singleton.2 (by decide)⟩
  refine ⟨hfault, hblank, ?_, ?_⟩
  · rw [(ofText_blanks "x").1 '\t' "b #" (hblank _ (by simp)) hfault]
    decide +kernel
  · rw [(ofText_blanks "x 'y").2.1 "\t " hblank]
    decide +kernel

end Scan

end Formulas
