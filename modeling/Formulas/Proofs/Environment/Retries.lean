import Formulas.Proofs.Environment.Catalogs

/-!
# Catalogs that fail and are loaded again

A catalog that fails leaves the registrations behind that stand in front of the first entry that
cannot be loaded. They do no harm: a catalog that holds them, among others, is loaded to its end
from there as it is from the environment before, and leads to the same answers.

## Main definitions

* `Registration.Precedes`: the order of the registrations of a catalog;
* `Environment.Refuses`: an entry cannot be loaded.

## Main results

* `Catalog.pairwise_precedes`: a catalog registers its variables in ascending order, and then its
  functions;
* `Environment.extend_eq_some_iff`: the catalogs that fail, and what they leave behind;
* `Environment.exists_loads_after_failure`: loading another catalog after one that failed.
-/

namespace Formulas

/-! ### The order of a catalog -/

/-- The members of the value, if it is an object, stand in ascending order of their keys. -/
def Json.Ascends : Json → Prop
  | .object members => (members.map Prod.fst).Pairwise (· < ·)
  | _ => True

/-- A member keeps the order of the keys, and adds no key but its own. -/
theorem Json.pairwise_insertMember (key : String) (value : Json) {members : List (String × Json)}
    (h : (members.map Prod.fst).Pairwise (· < ·)) :
    ((insertMember key value members).map Prod.fst).Pairwise (· < ·) ∧
      ∀ k ∈ (insertMember key value members).map Prod.fst, k = key ∨ k ∈ members.map Prod.fst := by
  fun_induction insertMember key value members with
  | case1 => simp
  | case2 v rest => exact ⟨h, fun k hk => .inr hk⟩
  | case3 k v rest hne hlt =>
    have hfirst : ∀ k' ∈ ((k, v) :: rest).map Prod.fst, key < k' := by
      rw [List.map_cons, List.pairwise_cons] at h
      refine List.forall_mem_cons.2 ⟨hlt, fun k' hk' => ?_⟩
      exact String.lt_trans hlt (h.1 k' hk')
    exact ⟨List.pairwise_cons.2 ⟨hfirst, h⟩, fun k' hk' => List.mem_cons.1 hk'⟩
  | case4 k v rest hne hlt ih =>
    rw [List.map_cons, List.pairwise_cons] at h
    obtain ⟨hpairwise, hkeys⟩ := ih h.2
    have hgt : k < key :=
      String.not_le.1 fun hle => hne (String.le_antisymm hle (String.not_lt.1 hlt))
    -- the first key stays in front of the others, and of the new one
    refine ⟨List.pairwise_cons.2 ⟨fun k' hk' => ?_, hpairwise⟩, fun k' hk' => ?_⟩
    · rcases hkeys k' hk' with rfl | hk'
      · exact hgt
      · exact h.1 k' hk'
    · rcases List.mem_cons.1 hk' with rfl | hk'
      · exact .inr List.mem_cons_self
      · exact (hkeys k' hk').imp_right (List.mem_cons_of_mem k)

/-- The members of an object that is put together from members in any order ascend. -/
theorem Json.ascends_ofMembers (members : List (String × Json)) : (ofMembers members).Ascends := by
  have hfold : ∀ sorted : List (String × Json), (sorted.map Prod.fst).Pairwise (· < ·) →
      ((members.foldl (fun sorted m => insertMember m.1 m.2 sorted) sorted).map
        Prod.fst).Pairwise (· < ·) := by
    induction members with
    | nil => exact fun _ h => h
    | cons m members ih => exact fun sorted h => ih _ (pairwise_insertMember m.1 m.2 h).1
  exact hfold [] .nil

/-- The registration may stand in front of the other in a catalog: variables stand in ascending
order of their names, and in front of the functions. -/
def Registration.Precedes : Registration → Registration → Prop
  | .binding name _, .binding name' _ => name < name'
  | .signature _, .binding .. => False
  | _, .signature _ => True

theorem Registration.precedes_signature (r : Registration) (s : Signature) :
    r.Precedes (.signature s) := by
  cases r <;> trivial

namespace Catalog

/-- An entry for a variable registers the variable. -/
theorem eq_binding_of_readVariable {name : String} {value : Json} {r : Registration}
    (h : readVariable name value = .ok r) : ∃ type, r = .binding name type := by
  unfold readVariable at h
  cases htype : readType name value with
  | error e =>
    rw [htype] at h
    cases h
  | ok type =>
    rw [htype] at h
    cases h
    exact ⟨type, rfl⟩

/-- An entry for a function registers a signature. -/
theorem eq_signature_of_readFunction {value : Json} {r : Registration}
    (h : readFunction value = .ok r) : ∃ s, r = .signature s := by
  unfold readFunction at h
  split at h
  · cases h
  · obtain ⟨arguments, -, h⟩ := Environment.bind_eq_ok_iff.1 h
    obtain ⟨result, -, h⟩ := Environment.bind_eq_ok_iff.1 h
    cases h
    exact ⟨_, rfl⟩

/-- The variables of an object with ascending keys are registered in that order. -/
theorem pairwise_variableEntries {object : Option Json}
    (hascends : ∀ value ∈ object, value.Ascends) :
    (variableEntries object).Pairwise fun e e' =>
      ∀ r r', e = .ok r → e' = .ok r' → r.Precedes r' := by
  unfold variableEntries
  split
  · exact .nil
  next members =>
    have hkeys : members.Pairwise fun m m' => m.1 < m'.1 := List.pairwise_map.1 (hascends _ rfl)
    refine List.pairwise_map.2 (hkeys.imp fun hlt r r' hr hr' => ?_)
    obtain ⟨type, rfl⟩ := eq_binding_of_readVariable hr
    obtain ⟨type', rfl⟩ := eq_binding_of_readVariable hr'
    exact hlt
  · exact List.pairwise_singleton ..

/-- Every entry for a function registers a signature, or fails. -/
theorem eq_signature_of_mem {functions : Option Json} {r : Registration}
    (h : .ok r ∈ functionEntries functions) : ∃ s, r = .signature s := by
  unfold functionEntries at h
  split at h
  · cases h
  · obtain ⟨value, -, hvalue⟩ := List.mem_map.1 h
    exact eq_signature_of_readFunction hvalue
  · cases List.mem_singleton.1 h

/-- The registrations in front of any entry of a catalog: variables in ascending order, and then
functions in the order of the document. -/
theorem pairwise_precedes {document : Json}
    (hascends : ∀ object ∈ document.member? "variables", object.Ascends)
    {rs : List Registration} {rest : List Entry} (h : entries document = rs.map .ok ++ rest) :
    rs.Pairwise Registration.Precedes := by
  -- whatever stands in front of a function precedes it
  have hfunctions : ∀ e ∈ functionEntries (document.member? "functions"),
      ∀ r r' : Registration, e = .ok r' → r.Precedes r' := by
    rintro _ he r r' rfl
    obtain ⟨s, rfl⟩ := eq_signature_of_mem he
    exact r.precedes_signature s
  have hentries : (entries document).Pairwise fun e e' =>
      ∀ r r', e = .ok r → e' = .ok r' → r.Precedes r' := by
    unfold entries
    split
    · exact List.pairwise_append.2 ⟨pairwise_variableEntries hascends,
        List.pairwise_of_forall_mem_list fun _ _ e' he' r r' _ => hfunctions e' he' r r',
        fun _ _ e' he' r r' _ => hfunctions e' he' r r'⟩
    · exact List.pairwise_singleton ..
  rw [h] at hentries
  have hprefix := (List.pairwise_append.1 hentries).1
  rw [List.pairwise_map] at hprefix
  exact hprefix.imp fun h => h _ _ rfl rfl

end Catalog

namespace Environment

variable {env : Environment}

/-! ### What a failure leaves -/

/-- The entry cannot be loaded, for that reason: it is wrong by itself, or its registration
contradicts the environment. -/
def Refuses (env : Environment) : Catalog.Entry → CatalogError → Prop
  | .error e, err => e = err
  | .ok r, err =>
    ∃ conflict, env.register r = .error conflict ∧ CatalogError.conflict conflict = err

/-- Entries fail at the first of them that cannot be loaded. The registrations in front of that have
succeeded, one after the other, and are left. -/
theorem extend_eq_some_iff {entries : List Catalog.Entry} {left : Environment}
    {err : CatalogError} :
    env.extend entries = (left, some err) ↔
      ∃ rs offending rest, entries = rs.map .ok ++ offending :: rest ∧
        env.registerAll rs = .ok left ∧ left.Refuses offending err := by
  constructor
  · intro h
    fun_induction extend env entries with
    | case1 => cases h
    | case2 env e rest =>
      cases h
      exact ⟨[], .error err, rest, rfl, rfl, rfl⟩
    | case3 env r entries next hr ih =>
      obtain ⟨rs, offending, rest, rfl, hrs, hrefuses⟩ := ih h
      exact ⟨r :: rs, offending, rest, rfl, registerAll_cons_eq_ok_iff.2 ⟨next, hr, hrs⟩, hrefuses⟩
    | case4 env r entries conflict hr =>
      cases h
      exact ⟨[], .ok r, entries, rfl, rfl, conflict, hr, rfl⟩
  · rintro ⟨rs, offending, rest, rfl, hrs, hrefuses⟩
    -- along the registrations that succeed, each of which leads to another environment
    induction rs generalizing env with
    | nil =>
      cases hrs
      cases offending with
      | error e =>
        cases hrefuses
        rfl
      | ok r =>
        obtain ⟨conflict, hr, rfl⟩ := hrefuses
        simp only [List.map_nil, List.nil_append, extend, hr]
    | cons r rs ih =>
      obtain ⟨next, hr, hrs⟩ := registerAll_cons_eq_ok_iff.1 hrs
      simp only [List.map_cons, List.cons_append, extend, hr]
      exact ih hrs

/-- Registrations that succeed together with others also succeed after those, and lead to the same
answers. -/
theorem Reachable.exists_registerAll_after (hreach : env.Reachable) {rs rs' : List Registration}
    (hsubset : ∀ r ∈ rs, r ∈ rs') {left full : Environment} (hleft : env.registerAll rs = .ok left)
    (hfull : env.registerAll rs' = .ok full) :
    ∃ retried, left.registerAll rs' = .ok retried ∧ full.AnswersAs retried := by
  -- in front of `rs'` the registrations `rs` add nothing to what is registered
  have hmem : ∀ r, r ∈ rs' ↔ r ∈ rs ++ rs' := fun r => by simpa using hsubset r
  obtain ⟨retried, hretried⟩ := exists_registerAll_of_mem_iff hmem hfull
  obtain ⟨next, hnext, hagain⟩ := registerAll_append_eq_ok_iff.1 hretried
  obtain rfl : left = next := Except.ok.inj (hleft.symm.trans hnext)
  exact ⟨retried, hagain, hreach.answersAs_of_registerAll hmem hfull hretried⟩

/-- A catalog that fails leaves the environment with the registrations in front of the first entry
that cannot be loaded: variables, in ascending order if the document lists them so, and then
functions. Another catalog that holds these registrations, and would have been loaded to its end
before, is loaded to its end from there as well, and to the same answers. -/
theorem exists_loads_after_failure (hreach : env.Reachable) {first : Json} {left : Environment}
    {err : CatalogError} (hfails : env.extend (Catalog.entries first) = (left, some err)) :
    ∃ rs offending rest, Catalog.entries first = rs.map .ok ++ offending :: rest ∧
      env.registerAll rs = .ok left ∧ left.Refuses offending err ∧
      ((∀ object ∈ first.member? "variables", object.Ascends) →
        rs.Pairwise Registration.Precedes) ∧
      ∀ second full, (∀ r ∈ rs, .ok r ∈ Catalog.entries second) → env.Loads second full →
        ∃ retried, left.Loads second retried ∧ full.AnswersAs retried := by
  obtain ⟨rs, offending, rest, hentries, hleft, hrefuses⟩ := extend_eq_some_iff.1 hfails
  refine ⟨rs, offending, rest, hentries, hleft, hrefuses, ?_, ?_⟩
  · exact fun hascends => Catalog.pairwise_precedes hascends hentries
  · intro second full hholds hloads
    obtain ⟨rs', hentries', hfull⟩ := extend_eq_none_iff.1 hloads
    have hsubset : ∀ r ∈ rs, r ∈ rs' := by
      intro r hr
      obtain ⟨r', hr', heq⟩ := List.mem_map.1 (hentries' ▸ hholds r hr)
      rwa [← Except.ok.inj heq]
    obtain ⟨retried, hretried, hanswers⟩ := hreach.exists_registerAll_after hsubset hleft hfull
    exact ⟨retried, extend_eq_none_iff.2 ⟨rs', hentries', hretried⟩, hanswers⟩

/-- A catalog with a misspelt type behind two variables and a function, and the corrected catalog
with one more variable. The function is listed twice when that is loaded after the failure, and the
answers are the same. -/
theorem exists_loads_after_misspelling :
    let env : Environment := ⟨[("x", .number)], []⟩
    let function := fun name result : String =>
      Json.ofMembers [("name", .string name), ("result", .string result)]
    let first : Json := .object [
      ("functions", .array [function "f" "number", function "g" "txt"]),
      ("variables", .ofMembers [("b", .string "string"), ("a", .string "number")])]
    let second : Json := .object [
      ("functions", .array [function "f" "number", function "g" "text"]),
      ("variables", .ofMembers [("c", .string "bool"), ("b", .string "string"),
        ("a", .string "number")])]
    let left : Environment :=
      ⟨[("x", .number), ("a", .number), ("b", .string)], [⟨"f", [], .number⟩]⟩
    let full : Environment :=
      ⟨[("x", .number), ("a", .number), ("b", .string), ("c", .boolean)],
        [⟨"f", [], .number⟩, ⟨"g", [], .string⟩]⟩
    env.Reachable ∧ env.extend (Catalog.entries first) = (left, some (.unknownType "txt")) ∧
      (∃ rs, env.registerAll rs = .ok left ∧ rs.Pairwise Registration.Precedes) ∧
      env.Loads second full ∧
      ∃ retried, left.Loads second retried ∧ full.AnswersAs retried := by
  intro env function first second left full
  have hreach : env.Reachable := .register (r := .binding "x" .number) .refl rfl
  have hfails : env.extend (Catalog.entries first) = (left, some (.unknownType "txt")) := by
    decide +kernel
  have hloads : env.Loads second full := by
    unfold Loads
    decide +kernel
  obtain ⟨rs, offending, rest, hentries, hleft, -, hordered, hretry⟩ :=
    exists_loads_after_failure hreach hfails
  have hascends : ∀ object ∈ first.member? "variables", object.Ascends := by
    rintro _ ⟨⟩
    exact Json.ascends_ofMembers _
  have hholds : ∀ r ∈ rs, .ok r ∈ Catalog.entries second := by
    have hall : ∀ r ∈ (Catalog.entries first).filterMap Except.toOption,
        r ∈ (Catalog.entries second).filterMap Except.toOption := by decide +kernel
    intro r hr
    have hfirst : .ok r ∈ Catalog.entries first := by
      rw [hentries]
      exact List.mem_append_left _ (List.mem_map_of_mem hr)
    obtain ⟨e, he, her⟩ := List.mem_filterMap.1 (hall r (List.mem_filterMap.2 ⟨_, hfirst, rfl⟩))
    cases e with
    | error _ => cases her
    | ok _ =>
      cases her
      exact he
  exact ⟨hreach, hfails, ⟨rs, hleft, hordered hascends⟩, hloads,
    hretry second full hholds hloads⟩

end Environment

end Formulas
