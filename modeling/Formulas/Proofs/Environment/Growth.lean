import Formulas.Environment

/-!
# Growing environments

An environment grows by registrations that succeed. What it says of a name stays as it is: a
variable keeps its type, and a function its type of result, since a registration that says otherwise
is a conflict.

## Main definitions

* `Environment.GrowsTo`: an environment comes from another by registrations that succeed;
* `Environment.Reachable`: an environment comes from the empty one.

## Main results

* `Environment.addVariable_eq_ok_iff` and `Environment.addSignature_eq_ok_iff`: what a registration
  can do;
* `Environment.GrowsTo.variableType?_eq` and `Environment.GrowsTo.resultType?_eq`: what is known of
  a name stays known;
* `Environment.Reachable.resultType?_eq`: all signatures of a function have the result that the
  environment gives to its calls.
-/

namespace Formulas.Environment

open Text

variable {env env' : Environment}

/-- The environment `env'` comes from `env` by registrations that succeed. -/
inductive GrowsTo (env : Environment) : Environment → Prop
  /-- Nothing is registered. -/
  | refl : GrowsTo env env
  /-- One more registration succeeds. -/
  | register {env₁ env₂ : Environment} {r : Registration} (h : GrowsTo env env₁)
      (hr : env₁.register r = .ok env₂) : GrowsTo env env₂

/-- The environment comes from the empty one by registrations that succeed. -/
def Reachable (env : Environment) : Prop := empty.GrowsTo env

/-- An environment that has grown can grow further. -/
theorem GrowsTo.trans {env'' : Environment} (h : env.GrowsTo env') (h' : env'.GrowsTo env'') :
    env.GrowsTo env'' := by
  induction h' with
  | refl => exact h
  | register _ hr ih => exact .register ih hr

/-- A variable is added behind the others, unless it is known. If it is, it must be with that type,
and the environment stays as it is. -/
theorem addVariable_eq_ok_iff {name : String} {type : ValueType} :
    env.addVariable name type = .ok env' ↔
      env.variableType? name = some type ∧ env' = env ∨
        env.variableType? name = none ∧
          env' = { env with bindings := env.bindings ++ [(name, type)] } := by
  unfold addVariable
  cases env.variableType? name with
  | none => simp [eq_comm]
  | some existing =>
    by_cases htype : existing = type
    · simp [htype, eq_comm]
    · exact iff_of_false (by simp [htype]) (by simp [htype])

/-- A signature is added behind the others if those of its function have its result. -/
theorem addSignature_eq_ok_iff {s : Signature} :
    env.addSignature s = .ok env' ↔
      (∀ s' ∈ env.signaturesOf s.name, s'.result = s.result) ∧
        env' = { env with signatures := env.signatures ++ [s] } := by
  unfold addSignature
  cases hfound : (env.signaturesOf s.name).find? (·.result != s.result) with
  | none =>
    have hagree : ∀ s' ∈ env.signaturesOf s.name, s'.result = s.result := fun s' hs' => by
      simpa using List.find?_eq_none.1 hfound s' hs'
    exact ⟨fun h => ⟨hagree, (Except.ok.inj h).symm⟩, fun h => congrArg Except.ok h.2.symm⟩
  | some existing =>
    -- the signature that was found is one of the function, and differs
    have hmem := List.mem_of_find?_eq_some hfound
    have hdiffers : existing.result ≠ s.result := by simpa using List.find?_some hfound
    exact iff_of_false (by simp) fun h => hdiffers (h.1 existing hmem)

/-- A variable that is added leaves the types of the variables that are known, and all
signatures. -/
theorem addVariable_eq_ok {name : String} {type : ValueType}
    (h : env.addVariable name type = .ok env') :
    env'.signatures = env.signatures ∧
      ∀ n t, env.variableType? n = some t → env'.variableType? n = some t := by
  obtain ⟨-, rfl⟩ | ⟨-, rfl⟩ := addVariable_eq_ok_iff.1 h
  · exact ⟨rfl, fun _ _ hn => hn⟩
  · refine ⟨rfl, fun n t hn => ?_⟩
    -- the new binding stands behind the others, where the known names are found
    have hfound : env.bindings.lookup n = some t := hn
    simp only [variableType?, List.lookup_append, hfound, Option.some_or]

/-- A signature that is added stands behind the others, leaves the variables, and has the result of
all signatures of its function. -/
theorem addSignature_eq_ok {s : Signature} (h : env.addSignature s = .ok env') :
    env'.bindings = env.bindings ∧ env'.signatures = env.signatures ++ [s] ∧
      ∀ s' ∈ env.signaturesOf s.name, s'.result = s.result := by
  obtain ⟨hagree, rfl⟩ := addSignature_eq_ok_iff.1 h
  exact ⟨rfl, rfl, hagree⟩

/-- The result of a function is that of one of its signatures. -/
theorem exists_of_resultType? {name : String} {arity : Nat} {type : ValueType}
    (h : env.resultType? name arity = some type) :
    ∃ s ∈ env.signaturesOf name, s.result = type := by
  rcases Option.or_eq_some_iff.1 h with harity | ⟨-, hfirst⟩
  · obtain ⟨s, hs, rfl⟩ := Option.map_eq_some_iff.1 harity
    exact ⟨s, List.mem_of_find?_eq_some hs, rfl⟩
  · obtain ⟨s, hs, rfl⟩ := Option.map_eq_some_iff.1 hfirst
    exact ⟨s, List.mem_of_mem_head? hs, rfl⟩

/-- A function has a result if it has a signature. -/
theorem exists_resultType? {name : String} {s : Signature} (hs : s ∈ env.signaturesOf name)
    (arity : Nat) : ∃ type, env.resultType? name arity = some type := by
  obtain ⟨first, rest, hlist⟩ := List.exists_cons_of_ne_nil (List.ne_nil_of_mem hs)
  cases harity : env.resultOfCall? name arity with
  | some type => exact ⟨type, by simp [resultType?, harity]⟩
  | none => exact ⟨first.result, by simp [resultType?, harity, hlist]⟩

/-- A function whose signatures agree has their result, for any number of arguments. -/
theorem resultType?_of_forall {name : String} {type : ValueType} {s : Signature}
    (hs : s ∈ env.signaturesOf name) (hall : ∀ s ∈ env.signaturesOf name, s.result = type)
    (arity : Nat) : env.resultType? name arity = some type := by
  obtain ⟨type', htype⟩ := exists_resultType? hs arity
  obtain ⟨s', hs', rfl⟩ := exists_of_resultType? htype
  rw [htype, hall s' hs']

/-- The signatures of a function are the same under all spellings of its name. -/
theorem signaturesOf_congr {name name' : String} (h : sameIgnoringCase name name' = true) :
    env.signaturesOf name = env.signaturesOf name' := by
  have hfold : foldCase name = foldCase name' := by simpa [sameIgnoringCase] using h
  simp only [signaturesOf, sameIgnoringCase, hfold]

/-- A signature that is added stands behind those of its function, and leaves those of all others
as they were. -/
theorem signaturesOf_of_addSignature {s : Signature} (h : env.addSignature s = .ok env')
    (name : String) : env'.signaturesOf name =
      env.signaturesOf name ++ if sameIgnoringCase s.name name = true then [s] else [] := by
  rw [signaturesOf, (addSignature_eq_ok h).2.1, List.filter_append, List.filter_cons]
  rfl

/-- What a registration that succeeds leaves of the results that are known. -/
theorem resultType?_of_register {r : Registration} (h : env.register r = .ok env') {name : String}
    {arity : Nat} {type : ValueType} (hknown : env.resultType? name arity = some type) :
    env'.resultType? name arity = some type := by
  cases r with
  | binding n t =>
    obtain ⟨hsignatures, -⟩ := addVariable_eq_ok h
    simpa only [resultType?, resultOfCall?, signaturesOf, hsignatures] using hknown
  | signature s =>
    obtain ⟨-, -, hagree⟩ := addSignature_eq_ok h
    have hlist := signaturesOf_of_addSignature h name
    by_cases hname : sameIgnoringCase s.name name = true
    · -- the new signature need not be the first, but all of the function have its result
      rw [signaturesOf_congr hname] at hagree
      rw [if_pos hname] at hlist
      have hall : ∀ s' ∈ env'.signaturesOf name, s'.result = s.result := by
        rw [hlist]
        exact List.forall_mem_append.2 ⟨hagree, List.forall_mem_singleton.2 rfl⟩
      obtain ⟨s', hs', rfl⟩ := exists_of_resultType? hknown
      rw [hagree s' hs']
      exact resultType?_of_forall (s := s) (by simp [hlist]) hall arity
    · rw [if_neg hname, List.append_nil] at hlist
      simpa only [resultType?, resultOfCall?, hlist] using hknown

/-- A variable that is known keeps its type. -/
theorem GrowsTo.variableType?_eq (h : env.GrowsTo env') {name : String} {type : ValueType}
    (hknown : env.variableType? name = some type) : env'.variableType? name = some type := by
  induction h with
  | refl => exact hknown
  | @register env₁ env₂ r _ hr ih =>
    cases r with
    | binding n t => exact (addVariable_eq_ok hr).2 name type ih
    | signature s =>
      rw [variableType?, (addSignature_eq_ok hr).1]
      exact ih

/-- A function that is known keeps its type of result. -/
theorem GrowsTo.resultType?_eq (h : env.GrowsTo env') {name : String} {arity : Nat}
    {type : ValueType} (hknown : env.resultType? name arity = some type) :
    env'.resultType? name arity = some type := by
  induction h with
  | refl => exact hknown
  | register _ hr ih => exact resultType?_of_register hr ih

/-- All signatures of a function have one result. -/
theorem Reachable.result_eq (h : env.Reachable) {s s' : Signature} (hs : s ∈ env.signatures)
    (hs' : s' ∈ env.signatures) (hname : sameIgnoringCase s.name s'.name = true) :
    s.result = s'.result := by
  induction h generalizing s s' with
  | refl => cases hs
  | @register env₁ env₂ r _ hr ih =>
    cases r with
    | binding n t =>
      rw [(addVariable_eq_ok hr).1] at hs hs'
      exact ih hs hs' hname
    | signature new =>
      obtain ⟨-, hsignatures, hagree⟩ := addSignature_eq_ok hr
      have hof : ∀ {old : Signature}, old ∈ env₁.signatures →
          sameIgnoringCase old.name new.name = true → old.result = new.result :=
        fun hold hsame => hagree _ (List.mem_filter.2 ⟨hold, hsame⟩)
      rw [hsignatures, List.mem_append, List.mem_singleton] at hs hs'
      rcases hs with hs | rfl <;> rcases hs' with hs' | rfl
      · exact ih hs hs' hname
      · exact hof hs hname
      · exact (hof hs' (by rwa [sameIgnoringCase_comm])).symm
      · rfl

/-- The signatures of a function have one result. -/
theorem Reachable.result_eq_of_mem (h : env.Reachable) {name : String} {s s' : Signature}
    (hs : s ∈ env.signaturesOf name) (hs' : s' ∈ env.signaturesOf name) :
    s.result = s'.result := by
  obtain ⟨hmem, hname⟩ := List.mem_filter.1 hs
  obtain ⟨hmem', hname'⟩ := List.mem_filter.1 hs'
  rw [sameIgnoringCase_comm] at hname'
  exact h.result_eq hmem hmem' (sameIgnoringCase_trans hname hname')

/-- The calls of a function have the result of each of its signatures. -/
theorem Reachable.resultType?_eq (h : env.Reachable) {name : String} {s : Signature}
    (hs : s ∈ env.signaturesOf name) (arity : Nat) :
    env.resultType? name arity = some s.result :=
  resultType?_of_forall hs (fun _ hs' => h.result_eq_of_mem hs' hs) arity

end Formulas.Environment
