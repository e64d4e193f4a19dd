import Formulas.Text.Case.Lower
import Formulas.Text.Case.Upper
import Formulas.Text.CaseInsensitive

/-!
# Cases of letters

Some characters keep their place when a text is made small or large, and a text that becomes a word
of small ASCII letters is that word in another case, unless the sign of the Kelvin stands in it,
which becomes a `k`.

## Main results

* `Text.mem_lower` and `Text.mem_upper`: the characters that stay;
* `Text.sameIgnoringCase_of_lower`: the texts that become a word.
-/

namespace Formulas.Text

/-- A character that is its own lower case stays in a text. -/
theorem mem_lower {c : Char} {text : String} (hc : lowerOf c = [c]) (h : c ∈ text.toList) :
    c ∈ (lower text).toList := by
  rw [lower, String.toList_ofList]
  exact List.mem_flatMap.2 ⟨c, h, by simp [hc]⟩

/-- A character that is its own upper case stays in a text. -/
theorem mem_upper {c : Char} {text : String} (hc : upperOf c = [c]) (h : c ∈ text.toList) :
    c ∈ (upper text).toList := by
  rw [upper, String.toList_ofList]
  exact List.mem_flatMap.2 ⟨c, h, by simp [hc]⟩

/-- The character is a small letter of ASCII other than `k`. -/
def isSmall (c : Char) : Bool := 97 ≤ c.toNat && c.toNat ≤ 122 && c.toNat != 107

/-- The code points of other small letters, and those of no character, give no such letter. -/
theorem isSmall_ofNat {code : Nat} (h : 128 ≤ code ∨ code = 107) :
    isSmall (Char.ofNat code) = false := by
  have hcode : (Char.ofNat code).toNat = code ∨ (Char.ofNat code).toNat = 0 := by
    by_cases hvalid : code.isValidChar
    · have hchar : Char.ofNat code = Char.ofNatAux code hvalid := dif_pos hvalid
      rw [hchar]
      exact .inl rfl
    · have hchar : Char.ofNat code = '\x00' := dif_neg hvalid
      rw [hchar]
      exact .inr rfl
  simp only [isSmall, Bool.and_eq_false_iff, decide_eq_false_iff_not, bne_eq_false_iff_eq]
  omega

/-- The lower case of a character beyond ASCII is no small letter of ASCII, but that of the sign of
the Kelvin is a `k`. -/
theorem exists_mem_lowerOf {c : Char} (hc : 128 ≤ c.toNat) :
    ∃ d ∈ lowerOf c, isSmall d = false := by
  have hruns : lowerRuns.all (fun run =>
      128 ≤ run.image || (run.image == 107 && run.first == run.last)) = true := by decide +kernel
  rw [lowerOf, if_neg (by omega)]
  split
  · exact ⟨Char.ofNat 0x307, by simp, by decide⟩
  · refine ⟨_, List.mem_singleton_self _, ?_⟩
    unfold CaseRun.apply
    split
    next run hfind =>
      -- the image of the character is that of its run or lies behind it
      have hrun := List.all_eq_true.1 hruns run (List.mem_of_find?_eq_some hfind)
      have hhas := List.find?_some hfind
      simp only [CaseRun.has, Bool.and_eq_true, decide_eq_true_eq] at hhas
      simp only [Bool.or_eq_true, Bool.and_eq_true, decide_eq_true_eq, beq_iff_eq] at hrun
      exact isSmall_ofNat (by omega)
    next =>
      simp only [isSmall, Bool.and_eq_false_iff, decide_eq_false_iff_not]
      omega

/-- A small letter is its own lower case. -/
theorem toLower_eq_self {c : Char} (h : isSmall c = true) : c.toLower = c := by
  have hlt : ¬('A'.val ≤ c.val ∧ c.val ≤ 'Z'.val) := by
    rintro ⟨-, hle⟩
    have hle : c.toNat ≤ 90 := UInt32.le_iff_toNat_le.1 hle
    simp only [isSmall, Bool.and_eq_true, decide_eq_true_eq] at h
    omega
  exact dif_neg hlt

/-- Characters of ASCII are made small one by one. -/
theorem flatMap_lowerOf {cs : List Char} (h : ∀ c ∈ cs, c.toNat < 128) :
    cs.flatMap lowerOf = cs.map Char.toLower := by
  induction cs with
  | nil => rfl
  | cons c cs ih =>
    rw [List.forall_mem_cons] at h
    rw [List.flatMap_cons, List.map_cons, lowerOf, if_pos h.1, ih h.2]
    rfl

/-- A text whose lower case is a word of small letters of ASCII without `k` is the word, in any case
of the letters. -/
theorem sameIgnoringCase_of_lower {text word : String} (h : lower text = word)
    (hword : ∀ d ∈ word.toList, isSmall d = true) : sameIgnoringCase text word = true := by
  have hascii : ∀ c ∈ text.toList, c.toNat < 128 := by
    intro c hmem
    refine Nat.lt_of_not_le fun hc => ?_
    obtain ⟨d, hd, hsmall⟩ := exists_mem_lowerOf hc
    have hlower : d ∈ word.toList := by
      rw [← h, lower, String.toList_ofList]
      exact List.mem_flatMap.2 ⟨c, hmem, hd⟩
    rw [hword d hlower] at hsmall
    cases hsmall
  -- all its characters are of ASCII, so they are made small as they are to compare texts
  have hfold : word = foldCase text := by
    rw [← h, foldCase, lower, flatMap_lowerOf hascii]
  have hself : foldCase word = word := by
    have hmap : word.toList.map Char.toLower = word.toList.map id :=
      List.map_congr_left fun d hd => toLower_eq_self (hword d hd)
    rw [foldCase, hmap, List.map_id, String.ofList_toList]
  rw [sameIgnoringCase, ← hfold, hself, beq_self_eq_true]

end Formulas.Text
