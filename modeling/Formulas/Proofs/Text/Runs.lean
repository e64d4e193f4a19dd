import Formulas.Text.Blank

/-!
# Runs of characters

A run of characters of a class ends where a character stands that is not of the class, or where the
text ends. What is read as a run is then exactly the run.

## Main definitions

* `Text.Ends`: a run of the class ends in front of the text;
* `Text.members`: the characters of a class that is given by ranges.

## Main results

* `Text.takeWhile_run` and `Text.dropWhile_run`: a run is taken as a whole, and nothing else is;
* `Text.append_inj_of_ends`: a run and what follows it are told apart;
* `Text.mem_members_of_inRanges`: a class that is given by ranges is listed.
-/

namespace Formulas.Text

/-- A run of characters of the class ends in front of the text. -/
def Ends (p : Char → Bool) (cs : List Char) : Prop :=
  ∀ c ∈ cs.head?, p c = false

variable {p : Char → Bool} {run rest : List Char}

@[simp]
theorem ends_nil (p : Char → Bool) : Ends p [] := by
  simp [Ends]

@[simp]
theorem ends_cons (p : Char → Bool) (c : Char) (cs : List Char) :
    Ends p (c :: cs) ↔ p c = false := by
  simp [Ends]

/-- A run ends where a run of a wider class does. -/
theorem Ends.mono {q : Char → Bool} (h : Ends q rest) (himp : ∀ c, p c = true → q c = true) :
    Ends p rest := by
  intro c hc
  have hq := h c hc
  rw [← Bool.not_eq_true] at hq ⊢
  exact fun hp => hq (himp c hp)

theorem takeWhile_of_ends (h : Ends p rest) : rest.takeWhile p = [] := by
  cases rest with
  | nil => rfl
  | cons c cs => exact List.takeWhile_cons_of_neg (by simpa using h)

theorem dropWhile_of_ends (h : Ends p rest) : rest.dropWhile p = rest := by
  cases rest with
  | nil => rfl
  | cons c cs => exact List.dropWhile_cons_of_neg (by simpa using h)

/-- What is taken from a text is taken from it in front of a rest that does not go on. -/
theorem takeWhile_append_of_ends (cs : List Char) (h : Ends p rest) :
    (cs ++ rest).takeWhile p = cs.takeWhile p := by
  rw [List.takeWhile_append, takeWhile_of_ends h, List.append_nil]
  split
  next hall => exact (List.takeWhile_prefix p).eq_of_length hall |>.symm
  next => rfl

/-- What is left of a text is left of it in front of a rest that does not go on. -/
theorem dropWhile_append_of_ends (cs : List Char) (h : Ends p rest) :
    (cs ++ rest).dropWhile p = cs.dropWhile p ++ rest := by
  rw [List.dropWhile_append, dropWhile_of_ends h]
  split
  next hnil => rw [List.isEmpty_iff.1 hnil, List.nil_append]
  next => rfl

/-- What is taken from a run is the run. -/
theorem takeWhile_run (hrun : ∀ c ∈ run, p c = true) (h : Ends p rest) :
    (run ++ rest).takeWhile p = run := by
  rw [List.takeWhile_append_of_pos hrun, takeWhile_of_ends h, List.append_nil]

/-- What is left behind a run is the rest. -/
theorem dropWhile_run (hrun : ∀ c ∈ run, p c = true) (h : Ends p rest) :
    (run ++ rest).dropWhile p = rest := by
  rw [List.dropWhile_append_of_pos hrun, dropWhile_of_ends h]

/-- What is left behind the characters of a class does not go on with it. -/
theorem ends_dropWhile (p : Char → Bool) (cs : List Char) : Ends p (cs.dropWhile p) := by
  intro c hc
  have hhead := List.head?_dropWhile_not p cs
  rw [Option.mem_def.1 hc] at hhead
  simpa using hhead

/-- A run ends in front of a text exactly if it ends in front of the first characters of it. -/
theorem ends_take_iff {n : Nat} (hn : 0 < n) : Ends p (rest.take n) ↔ Ends p rest := by
  rw [Ends, Ends, List.head?_take, if_neg (Nat.pos_iff_ne_zero.1 hn)]

/-- A run and what follows it are told apart. -/
theorem append_inj_of_ends {run' rest' : List Char} (hrun : ∀ c ∈ run, p c = true)
    (hrun' : ∀ c ∈ run', p c = true) (hrest : Ends p rest) (hrest' : Ends p rest')
    (h : run ++ rest = run' ++ rest') : run = run' ∧ rest = rest' := by
  have htake := takeWhile_run hrun hrest
  have hdrop := dropWhile_run hrun hrest
  rw [h, takeWhile_run hrun' hrest'] at htake
  rw [h, dropWhile_run hrun' hrest'] at hdrop
  exact ⟨htake.symm, hdrop.symm⟩

/-- The characters of some ranges of code points. -/
def members (ranges : List CodeRange) : List Char :=
  (ranges.flatMap fun r => List.range' r.1 (r.2 + 1 - r.1)).map Char.ofNat

/-- The characters of some ranges of code points are finitely many. -/
theorem mem_members_of_inRanges {ranges : List CodeRange} {c : Char}
    (h : inRanges ranges c = true) : c ∈ members ranges := by
  obtain ⟨r, hr, hfirst, hlast⟩ := inRanges_iff.1 h
  rw [← Char.ofNat_toNat c]
  refine List.mem_map_of_mem (List.mem_flatMap.2 ⟨r, hr, ?_⟩)
  rw [List.mem_range'_1]
  omega

/-- The ten digits. -/
def digits : List Char := members [(0x30, 0x39)]

theorem mem_digits_of_isDigit {c : Char} (h : c.isDigit = true) : c ∈ digits := by
  have hrange : inRanges [(48, 57)] c = true := by
    simpa [inRanges, Char.isDigit, UInt32.le_iff_toNat_le] using h
  exact mem_members_of_inRanges hrange

/-- A digit is no blank. -/
theorem isBlank_of_isDigit {c : Char} (h : c.isDigit = true) : isBlank c = false := by
  have hnone : digits.all (fun c => !isBlank c) = true := by decide
  simpa using List.all_eq_true.1 hnone c (mem_digits_of_isDigit h)

end Formulas.Text
