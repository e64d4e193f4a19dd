import Formulas.Proofs.Environment.Runs
import Formulas.Proofs.Parser.Lookups

/-!
# Catalogs in any order

A catalog that is loaded to its end is a list of registrations that succeed. What the environment
answers then depends on which registrations they are, so catalogs can be loaded in any order, and
again and again, to the same effect.

## Main definitions

* `Environment.Loads` and `Environment.LoadsBoth`: a catalog, or one behind another, is loaded to
  its end.

## Main results

* `Environment.extend_eq_none_iff`: the catalogs that are loaded to their end;
* `Environment.loadsBoth_comm`: two catalogs in both orders, and a catalog once more.
-/

namespace Formulas.Environment

variable {env env' : Environment}

/-- The document is loaded to its end. -/
def Loads (env : Environment) (document : Json) (env' : Environment) : Prop :=
  env.extend (Catalog.entries document) = (env', none)

/-- The documents are loaded one after the other, both to their ends. -/
def LoadsBoth (env : Environment) (first second : Json) (env' : Environment) : Prop :=
  ∃ next, env.Loads first next ∧ next.Loads second env'

/-- Entries are loaded to their end if all of them are registrations, and these succeed one after
the other. -/
theorem extend_eq_none_iff {entries : List Catalog.Entry} :
    env.extend entries = (env', none) ↔
      ∃ rs : List Registration, entries = rs.map .ok ∧ env.registerAll rs = .ok env' := by
  constructor
  · intro h
    fun_induction extend env entries with
    | case1 env =>
      cases h
      exact ⟨[], rfl, rfl⟩
    | case3 env r entries next hr ih =>
      obtain ⟨rs, rfl, hrs⟩ := ih h
      exact ⟨r :: rs, rfl, registerAll_cons_eq_ok_iff.2 ⟨next, hr, hrs⟩⟩
    | case2 | case4 => cases h
  · rintro ⟨rs, rfl, hrs⟩
    induction rs generalizing env with
    | nil =>
      cases hrs
      rfl
    | cons r rs ih =>
      obtain ⟨next, hr, hrs⟩ := registerAll_cons_eq_ok_iff.1 hrs
      simp only [List.map_cons, extend, hr]
      exact ih hrs

/-- Two documents are loaded one after the other if their registrations succeed in that order. -/
theorem loadsBoth_iff {first second : Json} :
    env.LoadsBoth first second env' ↔
      ∃ rs rs' : List Registration, Catalog.entries first = rs.map .ok ∧
        Catalog.entries second = rs'.map .ok ∧ env.registerAll (rs ++ rs') = .ok env' := by
  simp only [LoadsBoth, Loads, extend_eq_none_iff, registerAll_append_eq_ok_iff]
  constructor
  · rintro ⟨next, ⟨rs, hfirst, hrs⟩, rs', hsecond, hrs'⟩
    exact ⟨rs, rs', hfirst, hsecond, next, hrs, hrs'⟩
  · rintro ⟨rs, rs', hfirst, hsecond, next, hrs, hrs'⟩
    exact ⟨next, ⟨rs, hfirst, hrs⟩, rs', hsecond, hrs'⟩

/-- Documents that are loaded in one order are loaded in the other. -/
theorem LoadsBoth.exists_swap {first second : Json} (h : env.LoadsBoth first second env') :
    ∃ env'', env.LoadsBoth second first env'' := by
  obtain ⟨rs, rs', hfirst, hsecond, hrs⟩ := loadsBoth_iff.1 h
  have hmem : ∀ r, r ∈ rs ++ rs' ↔ r ∈ rs' ++ rs := fun r => by simp [or_comm]
  obtain ⟨env'', hswapped⟩ := exists_registerAll_of_mem_iff hmem hrs
  exact ⟨env'', loadsBoth_iff.2 ⟨rs', rs, hsecond, hfirst, hswapped⟩⟩

/-- Documents that are loaded in both orders lead to the same answers. -/
theorem LoadsBoth.answersAs {ab ba : Environment} {a b : Json} (hab : env.LoadsBoth a b ab)
    (hreach : env.Reachable) (hba : env.LoadsBoth b a ba) : ab.AnswersAs ba := by
  obtain ⟨rs, rs', ha, hb, hrs⟩ := loadsBoth_iff.1 hab
  obtain ⟨us', us, hb', ha', hus⟩ := loadsBoth_iff.1 hba
  -- the entries of a document determine its registrations
  obtain rfl := (List.map_inj_right fun _ _ => Except.ok.inj).1 (ha.symm.trans ha')
  obtain rfl := (List.map_inj_right fun _ _ => Except.ok.inj).1 (hb.symm.trans hb')
  exact hreach.answersAs_of_registerAll (fun r => by simp [or_comm]) hrs hus

/-- A document that is loaded can be loaded once more. This changes no answer, but lists its
signatures a second time. -/
theorem Loads.exists_again {once : Environment} {a : Json} (h : env.Loads a once)
    (hreach : env.Reachable) :
    ∃ twice, once.Loads a twice ∧ once.AnswersAs twice ∧
      ∃ added, once.signatures = env.signatures ++ added ∧
        twice.signatures = once.signatures ++ added := by
  obtain ⟨rs, ha, hrs⟩ := extend_eq_none_iff.1 h
  have hmem : ∀ r, r ∈ rs ↔ r ∈ rs ++ rs := fun r => by simp
  obtain ⟨twice, htwice⟩ := exists_registerAll_of_mem_iff hmem hrs
  obtain ⟨next, hnext, hagain⟩ := registerAll_append_eq_ok_iff.1 htwice
  -- the first half of the registrations is the first time that the document is loaded
  obtain rfl : once = next := Except.ok.inj (hrs.symm.trans hnext)
  exact ⟨twice, extend_eq_none_iff.2 ⟨rs, ha, hagain⟩,
    hreach.answersAs_of_registerAll hmem hrs htwice,
    rs.filterMap Registration.signature?, signatures_of_registerAll hrs,
    signatures_of_registerAll hagain⟩

/-- Two catalogs can be loaded in one order if they can be loaded in the other. Both orders lead to
the same answers, and so to the same outcome for every text. A catalog that is loaded can be loaded
once more, which changes none of this, though its signatures are then listed twice. -/
theorem loadsBoth_comm (hreach : env.Reachable) (a b : Json) :
    ((∃ ab, env.LoadsBoth a b ab) ↔ ∃ ba, env.LoadsBoth b a ba) ∧
      (∀ ab ba, env.LoadsBoth a b ab → env.LoadsBoth b a ba →
        ab.AnswersAs ba ∧
          ∀ text, Expr.parse (.standard ab) text = Expr.parse (.standard ba) text) ∧
      ∀ once, env.Loads a once → ∃ twice, once.Loads a twice ∧ once.AnswersAs twice ∧
        (∀ text, Expr.parse (.standard once) text = Expr.parse (.standard twice) text) ∧
        ∃ added, once.signatures = env.signatures ++ added ∧
          twice.signatures = once.signatures ++ added := by
  refine ⟨⟨fun ⟨_, h⟩ => h.exists_swap, fun ⟨_, h⟩ => h.exists_swap⟩, ?_, ?_⟩
  · intro ab ba hab hba
    have hanswers := hab.answersAs hreach hba
    exact ⟨hanswers, hanswers.parse_eq⟩
  · intro once honce
    obtain ⟨twice, htwice, hanswers, hadded⟩ := honce.exists_again hreach
    exact ⟨twice, htwice, hanswers, hanswers.parse_eq, hadded⟩

/-- Two catalogs that share a variable, and give signatures to one function under two spellings, in
an environment that knows the function. The signatures stand in another order, and the answers are
the same. -/
theorem loadsBoth_comm_signatures :
    let env : Environment := ⟨[("x", .number)], [⟨"f", [.number], .string⟩]⟩
    let a : Json := .object [
      ("functions", .array [.object [("name", .string "F"), ("result", .string "text")]]),
      ("variables", .object [("x", .string "number"), ("y", .string "boolean")])]
    let b : Json := .object [
      ("functions", .array [.object [("arguments", .array [.string "int", .string "bool"]),
        ("name", .string "f"), ("result", .string "String")]]),
      ("variables", .object [("y", .string "bool")])]
    let ab : Environment := ⟨[("x", .number), ("y", .boolean)],
      [⟨"f", [.number], .string⟩, ⟨"F", [], .string⟩, ⟨"f", [.number, .boolean], .string⟩]⟩
    let ba : Environment := ⟨[("x", .number), ("y", .boolean)],
      [⟨"f", [.number], .string⟩, ⟨"f", [.number, .boolean], .string⟩, ⟨"F", [], .string⟩]⟩
    env.Reachable ∧ env.LoadsBoth a b ab ∧ env.LoadsBoth b a ba ∧ ab.AnswersAs ba ∧
      ∀ text, Expr.parse (.standard ab) text = Expr.parse (.standard ba) text := by
  intro env a b ab ba
  have hreach : env.Reachable :=
    .register (r := .signature ⟨"f", [.number], .string⟩)
      (.register (r := .binding "x" .number) .refl rfl) rfl
  have hab : env.LoadsBoth a b ab :=
    ⟨(env.extend (Catalog.entries a)).1, by unfold Loads; decide +kernel,
      by unfold Loads; decide +kernel⟩
  have hba : env.LoadsBoth b a ba :=
    ⟨(env.extend (Catalog.entries b)).1, by unfold Loads; decide +kernel,
      by unfold Loads; decide +kernel⟩
  obtain ⟨-, hboth, -⟩ := loadsBoth_comm hreach a b
  exact ⟨hreach, hab, hba, hboth ab ba hab hba⟩

end Formulas.Environment
