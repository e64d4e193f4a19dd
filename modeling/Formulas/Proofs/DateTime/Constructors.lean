import Formulas.Expr.Printer
import Formulas.Proofs.Expr.WellFormed

/-!
# The constructors of dates and times

A date-time is written as a call of one of two functions, which take a text, or numbers. A text that
gives no offset gets the one of the function, and so do numbers. The two forms agree: where numbers
make a date-time, the text of the same date and time of day makes it too.

An integer that is cast to 64 bits becomes the largest there is if it is too large. No field of a
real date-time is as large, so such a cast changes nothing.

## Main definitions

* `DateTime.fields`: the six numbers of a date and a time of day;
* `DateTime.builtin`: the function that a date-time is written with;
* `DateTime.IsGivenBy`: numbers are those of a date-time, with zeros for those that are left out.

## Main results

* `DateTime.ofParts?_eq_some_iff`: six integers make the real date-time whose fields they are;
* `DateTime.map_saturated_eq_fields_iff`: the cast to 64 bits makes no other date-times;
* `DateTime.build_text` and `DateTime.build_numbers_eq_ok_iff`: what the functions make of a text
  and of numbers;
* `DateTime.constructors_agree`: a date-time is rebuilt from its text, and from numbers exactly if
  it is real.
-/

namespace Formulas

namespace DateTime

/-! ### Six integers -/

/-- The numbers of a date and a time of day. -/
def fields (d : DateTime) : List Int := [d.year, d.month, d.day, d.hour, d.minute, d.second]

/-- The fields of a real date-time are natural numbers, and no larger than a year can be. -/
theorem le_of_mem_fields {d : DateTime} (hreal : d.IsReal) :
    ∀ n ∈ d.fields, 0 ≤ n ∧ n ≤ 9999 := by
  obtain ⟨hyear, hyear', -, hmonth, -, hday, hhour, hminute, hsecond⟩ := hreal
  have hday' := daysInMonth_le d.year d.month
  simp only [fields, List.forall_mem_cons]
  refine ⟨?_, ?_, ?_, ?_, ?_, ?_, by simp⟩ <;> omega

section Parts

variable {year month day hour minute second : Int} {offset : Option Int} {d : DateTime}

/-- Six integers make exactly the real date-time whose fields they are. -/
theorem ofParts?_eq_some_iff : ofParts? year month day hour minute second offset = some d ↔
    d.IsReal ∧ d.offset = offset ∧ [year, month, day, hour, minute, second] = d.fields := by
  constructor
  · intro h
    refine ⟨isReal_of_ofParts? h, offset_of_ofParts? h, ?_⟩
    simp only [ofParts?, Option.ite_none_right_eq_some, Option.some.injEq] at h
    obtain ⟨⟨hmonth, hday, hhour, hminute, hsecond⟩, -, rfl⟩ := h
    simp only [fields, Int.toNat_of_nonneg, hmonth, hday, hhour, hminute, hsecond]
  · rintro ⟨hreal, rfl, hfields⟩
    simp only [fields, List.cons.injEq] at hfields
    obtain ⟨rfl, rfl, rfl, rfl, rfl, rfl, -⟩ := hfields
    simp [ofParts?, hreal]

/-- The cast makes a field only of that field. -/
theorem saturated_eq_iff {n k : Int} (hk : 0 ≤ k ∧ k ≤ 9999) : saturated n = k ↔ n = k := by
  have hleast : Int64.minValue.toInt = -9223372036854775808 := rfl
  have hlargest : Int64.maxValue.toInt = 9223372036854775807 := rfl
  unfold saturated Int64.ofIntClamp
  split
  · split
    · rw [Int64.toInt_ofIntLE]
    · omega
  · omega

/-- Integers are cast to the fields of a real date-time only if they are those fields. -/
theorem map_saturated_eq_fields_iff (hreal : d.IsReal) {parts : List (Option Int)} :
    parts.map (Option.map saturated) = d.fields.map some ↔ parts = d.fields.map some := by
  -- the fields are far from the ends of the range
  have hle := le_of_mem_fields hreal
  generalize d.fields = fields at hle
  induction fields generalizing parts with
  | nil => simp
  | cons k fields ih =>
    have hk := hle k (by simp)
    cases parts with
    | nil => simp
    | cons part parts =>
      simp only [List.map_cons, List.cons.injEq, ih fun n hn => hle n (by simp [hn])]
      simp [Option.map_eq_some_iff, saturated_eq_iff hk]

end Parts

end DateTime

/-! ### Arguments -/

namespace Builtin

variable {arguments : List Expr}

theorem mapM_eq_some_iff {α β : Type} {f : α → Option β} {as : List α} {bs : List β} :
    as.mapM f = some bs ↔ as.map f = bs.map some := by
  induction as generalizing bs with
  | nil => cases bs <;> simp
  | cons a as ih => cases bs <;> simp [List.mapM_cons, Option.bind_eq_some_iff, ih]

/-- The parts of a date-time are the integers that are given, and zeros for those left out. -/
theorem dateTimeParts?_eq_some_iff {year month day hour minute second : Int} :
    dateTimeParts? arguments = some (year, month, day, hour, minute, second) ↔
      arguments.length ∈ [3, 5, 6] ∧
      arguments.map integer? ++ List.replicate (6 - arguments.length) (some 0) =
        [year, month, day, hour, minute, second].map some := by
  constructor
  · intro h
    simp only [dateTimeParts?, Option.bind_eq_bind, Option.bind_eq_some_iff] at h
    obtain ⟨values, hvalues, h⟩ := h
    rw [mapM_eq_some_iff] at hvalues
    have hlength := congrArg List.length hvalues
    simp only [List.length_map] at hlength
    rw [hvalues, hlength]
    -- one case for each number of arguments that is taken
    split at h <;> cases h <;> exact ⟨by simp, rfl⟩
  · rintro ⟨hlength, h⟩
    -- the integers that are given come first, and zeros stand behind them
    have hgiven := congrArg (List.take arguments.length) h
    have hzeros := congrArg (List.drop arguments.length) h
    rw [List.take_left' (List.length_map ..), ← List.map_take, ← mapM_eq_some_iff] at hgiven
    rw [List.drop_left' (List.length_map ..), ← List.map_drop] at hzeros
    simp only [List.mem_cons, List.not_mem_nil, or_false] at hlength
    rcases hlength with hn | hn | hn <;> rw [hn] at hgiven hzeros <;>
      simp [dateTimeParts?, hgiven] <;> simpa [List.replicate] using hzeros

/-- Without a text that is the only argument, a date-time is made exactly of the integers that are
its fields. -/
theorem buildDateTime_eq_ok_iff {function : String} {offset : Option Int} {kind : Kind}
    (htext : onlyText? arguments = none) : buildDateTime function offset arguments = .ok kind ↔
      ∃ d : DateTime, d.IsReal ∧ d.offset = offset ∧
        (arguments.length ∈ [3, 5, 6] ∧
          arguments.map integer? ++ List.replicate (6 - arguments.length) (some 0) =
            d.fields.map some) ∧
        kind = .constant (.dateTime d) := by
  simp only [buildDateTime, htext]
  constructor
  · intro h
    split at h
    next year month day hour minute second hparts =>
      split at h
      next d hd =>
        obtain ⟨hreal, hoffset, hfields⟩ := DateTime.ofParts?_eq_some_iff.1 hd
        rw [dateTimeParts?_eq_some_iff, hfields] at hparts
        exact ⟨d, hreal, hoffset, hparts, (Except.ok.inj h).symm⟩
      next => cases h
    next => cases h
  · rintro ⟨d, hreal, hoffset, hgiven, rfl⟩
    have hparts := dateTimeParts?_eq_some_iff.2 hgiven
    have hd := DateTime.ofParts?_eq_some_iff.2 ⟨hreal, hoffset, rfl⟩
    simp only [hparts, hd]

end Builtin

namespace DateTime

/-! ### The two functions -/

/-- The function that a date-time is written with: one for those that have an offset, and one for
those that have none. -/
def builtin (zoned : Bool) : Builtin := if zoned then .dateTimeOffset else .dateTime

/-- The offset that the function gives to a date-time that has none. -/
def defaultOffset (zoned : Bool) : Option Int := if zoned then some 0 else none

/-- The date-time without its offset. -/
def unzoned (d : DateTime) : DateTime := { d with offset := none }

/-- The numbers are the fields of the date-time, with zeros for those that are left out. -/
def IsGivenBy (d : DateTime) (numbers : List Number) : Prop :=
  numbers.map Number.toInt? ++ List.replicate (6 - numbers.length) (some 0) = d.fields.map some

instance (d : DateTime) (numbers : List Number) : Decidable (d.IsGivenBy numbers) :=
  inferInstanceAs (Decidable (_ = _))

variable {d : DateTime} {kind : Kind}

theorem builtin_mem_standard (zoned : Bool) : builtin zoned ∈ Builtin.standard := by
  cases zoned <;> decide

theorem builtin_build (zoned : Bool) (arguments : List Expr) : ∃ function,
    (builtin zoned).build arguments =
      Builtin.buildDateTime function (defaultOffset zoned) arguments := by
  cases zoned <;> exact ⟨_, rfl⟩

/-- A text that denotes a date-time makes it, with the offset of the function if it has none. -/
theorem build_text {text : String} (h : ofText? text = some d) (zoned : Bool)
    (unit : Option String) :
    (builtin zoned).build [⟨.constant (.string text), unit⟩] =
      .ok (.constant (.dateTime { d with offset := d.offset.or (defaultOffset zoned) })) := by
  obtain ⟨function, hbuild⟩ := builtin_build zoned [⟨.constant (.string text), unit⟩]
  have htext : Builtin.onlyText? [⟨.constant (.string text), unit⟩] = some text := rfl
  simp only [hbuild, Builtin.buildDateTime, htext, h]

/-- The text of a real date-time makes it again, by the function that it is written with. -/
theorem build_toText (hreal : d.IsReal) (hoffset : d.HasOffset) (unit : Option String) :
    (builtin d.offset.isSome).build [⟨.constant (.string d.toText), unit⟩] =
      .ok (.constant (.dateTime d)) := by
  -- the function is chosen so that its own offset is never used
  have hdefault : d.offset.or (defaultOffset d.offset.isSome) = d.offset := by
    cases d.offset <;> rfl
  rw [build_text (ofText?_toText hreal hoffset), hdefault]

/-- The numbers of a call, each with the unit behind it. -/
def numberArguments (numbers : List (Number × Option String)) : List Expr :=
  numbers.map fun x => ⟨.constant (.number x.1), x.2⟩

/-- Three, five or six numbers make exactly the real date-time whose fields they are. -/
theorem build_numbers_eq_ok_iff (zoned : Bool) {numbers : List (Number × Option String)}
    (hlength : numbers.length ∈ [3, 5, 6]) :
    (builtin zoned).build (numberArguments numbers) = .ok kind ↔
      ∃ d : DateTime, d.IsReal ∧ d.offset = defaultOffset zoned ∧
        d.IsGivenBy (numbers.map Prod.fst) ∧ kind = .constant (.dateTime d) := by
  obtain ⟨function, hbuild⟩ := builtin_build zoned (numberArguments numbers)
  have htext : Builtin.onlyText? (numberArguments numbers) = none := by
    rcases numbers with _ | ⟨x, numbers⟩ <;> rfl
  have hcount : (numberArguments numbers).length = numbers.length := List.length_map ..
  -- zeros are left as they are by the cast, so it is one of all six parts
  have hparts : (numberArguments numbers).map Builtin.integer? ++
      List.replicate (6 - numbers.length) (some 0) =
        ((numbers.map Prod.fst).map Number.toInt? ++
          List.replicate (6 - numbers.length) (some 0)).map (Option.map saturated) := by
    rw [List.map_append, List.map_replicate, numberArguments, List.map_map, List.map_map,
      List.map_map]
    rfl
  rw [hbuild, Builtin.buildDateTime_eq_ok_iff htext, hcount, hparts]
  refine exists_congr fun d => and_congr_right fun hreal => ?_
  rw [map_saturated_eq_fields_iff hreal]
  simp only [IsGivenBy, List.length_map, hlength, true_and]

/-- Where numbers make a date-time, the text of the date and time of day makes it too. -/
theorem build_text_of_numbers {zoned : Bool} {numbers : List (Number × Option String)}
    (hlength : numbers.length ∈ [3, 5, 6]) (hgiven : d.IsGivenBy (numbers.map Prod.fst))
    (h : (builtin zoned).build (numberArguments numbers) = .ok kind) (unit : Option String) :
    (builtin zoned).build [⟨.constant (.string d.unzoned.toText), unit⟩] = .ok kind := by
  obtain ⟨e, hreal, hoffset, hgiven', rfl⟩ := (build_numbers_eq_ok_iff zoned hlength).1 h
  -- the numbers leave open the offset only
  have hfields : d.fields = e.fields := by
    have hsome := hgiven.symm.trans hgiven'
    exact (List.map_inj_right fun _ _ => Option.some.inj).1 hsome
  have hunzoned : d.unzoned = e.unzoned := by
    simp only [fields, List.cons.injEq, Int.natCast_inj] at hfields
    obtain ⟨hyear, hmonth, hday, hhour, hminute, hsecond, -⟩ := hfields
    simp only [unzoned, hyear, hmonth, hday, hhour, hminute, hsecond]
  have hreal' : e.unzoned.IsReal := (isReal_iff _).2 ((isReal_iff e).1 hreal)
  have hread := ofText?_toText hreal' (by simp [HasOffset, unzoned])
  rw [hunzoned, build_text hread, ← hoffset]
  rfl

/-- A real date-time is read back from its text, and rebuilt by the function that it is written
with. Three, five or six numbers make exactly the real date-time whose fields they are, with zeros
for those that are left out, and the text of its date and time of day makes it too; they make none
if one of them does not fit in 64 bits. -/
theorem constructors_agree :
    (∀ (d : DateTime) (unit : Option String), d.IsReal → d.HasOffset →
      ofText? d.toText = some d ∧
      (Constant.dateTime d).toText =
        (builtin d.offset.isSome).name ++ "(\"" ++ d.toText ++ "\")" ∧
      Registry.standard.get? (builtin d.offset.isSome).name = some (builtin d.offset.isSome) ∧
      (builtin d.offset.isSome).build [⟨.constant (.string d.toText), unit⟩] =
        .ok (.constant (.dateTime d))) ∧
    ∀ (zoned : Bool) (numbers : List (Number × Option String)), numbers.length ∈ [3, 5, 6] →
      (∀ kind, (builtin zoned).build (numberArguments numbers) = .ok kind ↔
        ∃ d : DateTime, d.IsReal ∧ d.offset = defaultOffset zoned ∧
          d.IsGivenBy (numbers.map Prod.fst) ∧ kind = .constant (.dateTime d)) ∧
      (∀ (d : DateTime) (kind : Kind) (unit : Option String), d.IsGivenBy (numbers.map Prod.fst) →
        (builtin zoned).build (numberArguments numbers) = .ok kind →
          (builtin zoned).build [⟨.constant (.string d.unzoned.toText), unit⟩] = .ok kind) ∧
      ∀ x ∈ numbers, ∀ n ∈ x.1.toInt?, saturated n ≠ n →
        ∀ kind, (builtin zoned).build (numberArguments numbers) ≠ .ok kind := by
  refine ⟨fun d unit hreal hoffset => ⟨ofText?_toText hreal hoffset, ?_, ?_,
    build_toText hreal hoffset unit⟩, fun zoned numbers hlength =>
      ⟨fun kind => build_numbers_eq_ok_iff zoned hlength,
        fun d kind unit hgiven h => build_text_of_numbers hlength hgiven h unit, ?_⟩⟩
  · rw [Constant.toText]
    cases d.offset <;> rfl
  · exact Registry.get?_name _ (builtin_mem_standard _)
  · intro x hx n hn hlarge kind h
    obtain ⟨d, hreal, -, hgiven, -⟩ := (build_numbers_eq_ok_iff zoned hlength).1 h
    -- the integer is a field, and no field is as large
    have hmem : some n ∈ d.fields.map some := by
      rw [← hgiven]
      exact List.mem_append_left _ (List.mem_map.2 ⟨x.1, List.mem_map_of_mem hx, hn⟩)
    obtain ⟨k, hk, hkn⟩ := List.mem_map.1 hmem
    obtain rfl := Option.some.inj hkn
    exact hlarge ((saturated_eq_iff (le_of_mem_fields hreal k hk)).2 rfl)

/-- The offset of half an hour to the west reads back, and three numbers make the midnight that
their date has at the offset zero. -/
theorem constructors_agree_leap_day :
    let number (n : Nat) : Number × Option String := (.ofDecimal false n 0, none)
    let west : DateTime := ⟨2024, 2, 29, 23, 5, 0, some (-30)⟩
    let midnight : DateTime := ⟨2024, 2, 29, 0, 0, 0, some 0⟩
    ofText? west.toText = some west ∧
      (builtin true).build (numberArguments [number 2024, number 2, number 29]) =
        .ok (.constant (.dateTime midnight)) ∧
      (builtin true).build [⟨.constant (.string midnight.unzoned.toText), none⟩] =
        .ok (.constant (.dateTime midnight)) ∧
      ∀ kind, (builtin true).build
        (numberArguments [number (2 ^ 70), number 2, number 29]) ≠ .ok kind := by
  intro number west midnight
  obtain ⟨htext, hnumbers⟩ := constructors_agree
  obtain ⟨hiff, hsame, -⟩ := hnumbers true [number 2024, number 2, number 29] (by decide)
  obtain ⟨-, -, hlarge⟩ := hnumbers true [number (2 ^ 70), number 2, number 29] (by decide)
  have hgiven : midnight.IsGivenBy ([number 2024, number 2, number 29].map Prod.fst) := by
    decide +kernel
  have hbuild := (hiff _).2 ⟨midnight, by decide, rfl, hgiven, rfl⟩
  refine ⟨(htext west none (by decide) (by simp [HasOffset, west])).1, hbuild,
    hsame midnight _ none hgiven hbuild, ?_⟩
  exact hlarge (number (2 ^ 70)) (by simp) (2 ^ 70) (by decide +kernel) (by decide)

end DateTime

end Formulas
