import Formulas.Proofs.Environment.Growth

/-!
# What environments know

What an environment says of names follows from the set of the registrations that it knows. Their
order and their number do not matter, since registrations that contradict each other are never known
together. So two histories of registrations lead to the same answers as soon as they registered the
same, and whether a history succeeds does not depend on its order either.

## Main definitions

* `Registration.Agrees`: two registrations do not contradict each other;
* `Environment.Knows`: the environment holds what a registration says;
* `Environment.registerAll`: registrations one after the other;
* `Environment.AnswersAs`: two environments give the same answers.

## Main results

* `Environment.exists_register_iff` and `Environment.exists_registerAll_iff`: what can be
  registered;
* `Environment.knows_of_register` and `Environment.knows_of_registerAll`: what is known then;
* `Environment.Reachable.find?_signaturesOf_eq_some_iff`: lookups of functions, read off what is
  known;
* `Environment.Reachable.answersAs` and `Environment.Reachable.answersAs_of_registerAll`:
  environments that know the same answer alike.
-/

namespace Formulas

open Text

/-- The registrations do not contradict each other: they do not give two types to one variable, or
two types of result to one function. -/
def Registration.Agrees : Registration → Registration → Prop
  -- names of variables are compared exactly, names of functions in any case of letters
  | .binding name type, .binding name' type' => name = name' → type = type'
  | .signature s, .signature s' => sameIgnoringCase s.name s'.name = true → s.result = s'.result
  | _, _ => True

/-- The signature that a registration adds. -/
def Registration.signature? : Registration → Option Signature
  | .binding .. => none
  | .signature s => some s

/-- No registration contradicts itself. -/
theorem Registration.agrees_self (r : Registration) : r.Agrees r := by
  cases r <;> exact fun _ => rfl

/-- It does not matter which of two registrations is named first. -/
theorem Registration.agrees_comm {r r' : Registration} : r.Agrees r' ↔ r'.Agrees r := by
  cases r <;> cases r' <;> simp only [Agrees]
  case binding.binding =>
    rw [eq_comm]
    exact forall_congr' fun _ => eq_comm
  case signature.signature =>
    rw [sameIgnoringCase_comm]
    exact forall_congr' fun _ => eq_comm

namespace Environment

variable {env env' : Environment}

/-! ### One registration -/

/-- The environment holds what the registration says. -/
def Knows (env : Environment) : Registration → Prop
  | .binding name type => env.variableType? name = some type
  | .signature s => s ∈ env.signatures

/-- A registration succeeds exactly if it contradicts nothing that is known. -/
theorem exists_register_iff {r : Registration} :
    (∃ env', env.register r = .ok env') ↔ ∀ known, env.Knows known → known.Agrees r := by
  cases r with
  | binding name type =>
    simp only [register, addVariable_eq_ok_iff]
    constructor
    · rintro ⟨env', hadded⟩ known hknown
      cases known with
      | binding name' type' =>
        rintro rfl
        -- what is known of the name is its one type
        have hone : env.variableType? name' = some type' := hknown
        simpa [hone] using hadded.imp And.left And.left
      | signature => trivial
    · intro h
      cases hknown : env.variableType? name with
      | none => exact ⟨_, .inr ⟨rfl, rfl⟩⟩
      | some existing =>
        have htype : existing = type := h (.binding name existing) hknown rfl
        exact ⟨env, .inl ⟨htype ▸ rfl, rfl⟩⟩
  | signature s =>
    simp only [register, addSignature_eq_ok_iff]
    constructor
    · rintro ⟨env', hagree, -⟩ known hknown
      cases known with
      | binding => trivial
      | signature s' => exact fun hname => hagree s' (List.mem_filter.2 ⟨hknown, hname⟩)
    · refine fun h => ⟨_, fun s' hs' => ?_, rfl⟩
      obtain ⟨hknown, hname⟩ := List.mem_filter.1 hs'
      exact h (.signature s') hknown hname

/-- A registration that succeeds is known with what was known before, and nothing else is. -/
theorem knows_of_register {r : Registration} (h : env.register r = .ok env')
    (known : Registration) : env'.Knows known ↔ env.Knows known ∨ known = r := by
  cases r with
  | binding name type =>
    obtain ⟨hknown, rfl⟩ | ⟨hnone, rfl⟩ := addVariable_eq_ok_iff.1 h
    · -- the variable was known with that type, and the environment stays as it was
      refine (or_iff_left_of_imp ?_).symm
      rintro rfl
      exact hknown
    · cases known with
      | binding name' type' =>
        have hlookup : env.bindings.lookup name = none := hnone
        simp only [Knows, variableType?, List.lookup_append, Registration.binding.injEq]
        -- the new binding is behind the others, but none of those has its name
        by_cases hname : name' = name
        · subst hname
          simp [hlookup, eq_comm]
        · have hne : (name' == name) = false := by simpa using hname
          simp [hne, hname, List.lookup_cons]
      | signature => simp [Knows]
  | signature s =>
    obtain ⟨-, rfl⟩ := addSignature_eq_ok_iff.1 h
    cases known with
    | binding => simp [Knows, variableType?]
    | signature => simp [Knows]

/-! ### Many registrations -/

/-- The environment after registrations one after the other. The first that fails ends them. -/
def registerAll (env : Environment) (rs : List Registration) : Except Conflict Environment :=
  rs.foldlM register env

/-- Two computations succeed one after the other if the second does so with what the first gives. -/
theorem bind_eq_ok_iff {ε α β : Type} {x : Except ε α} {f : α → Except ε β} {b : β} :
    x >>= f = .ok b ↔ ∃ a, x = .ok a ∧ f a = .ok b := by
  cases x with
  | error e => simp [bind, Except.bind]
  | ok a => simp [bind, Except.bind]

/-- The first registration succeeds, and then the others. -/
theorem registerAll_cons_eq_ok_iff {r : Registration} {rs : List Registration} :
    env.registerAll (r :: rs) = .ok env' ↔
      ∃ next, env.register r = .ok next ∧ next.registerAll rs = .ok env' := by
  rw [registerAll, List.foldlM_cons, bind_eq_ok_iff]
  rfl

/-- Registrations one after the other can be made in two parts. -/
theorem registerAll_append_eq_ok_iff {rs rs' : List Registration} :
    env.registerAll (rs ++ rs') = .ok env' ↔
      ∃ next, env.registerAll rs = .ok next ∧ next.registerAll rs' = .ok env' := by
  rw [registerAll, List.foldlM_append, bind_eq_ok_iff]
  rfl

/-- An environment grows by registrations. -/
theorem growsTo_of_registerAll {rs : List Registration} (h : env.registerAll rs = .ok env') :
    env.GrowsTo env' := by
  induction rs generalizing env with
  | nil =>
    cases h
    exact .refl
  | cons r rs ih =>
    obtain ⟨next, hr, hrs⟩ := registerAll_cons_eq_ok_iff.1 h
    exact GrowsTo.trans (.register .refl hr) (ih hrs)

/-- The registrations are known with what was known before, and nothing else is. -/
theorem knows_of_registerAll {rs : List Registration} (h : env.registerAll rs = .ok env')
    (known : Registration) : env'.Knows known ↔ env.Knows known ∨ known ∈ rs := by
  induction rs generalizing env with
  | nil =>
    cases h
    simp
  | cons r rs ih =>
    obtain ⟨next, hr, hrs⟩ := registerAll_cons_eq_ok_iff.1 h
    rw [ih hrs, knows_of_register hr, List.mem_cons, or_assoc]

/-- Registrations succeed one after the other exactly if they contradict neither what is known nor
each other. -/
theorem exists_registerAll_iff {rs : List Registration} :
    (∃ env', env.registerAll rs = .ok env') ↔
      ∀ r ∈ rs, (∀ known, env.Knows known → known.Agrees r) ∧ ∀ r' ∈ rs, r'.Agrees r := by
  induction rs generalizing env with
  | nil => exact iff_of_true ⟨env, rfl⟩ (by simp)
  | cons r rs ih =>
    have hsplit : (∃ env', env.registerAll (r :: rs) = .ok env') ↔
        ∃ next, env.register r = .ok next ∧ ∃ env', next.registerAll rs = .ok env' := by
      simp only [registerAll_cons_eq_ok_iff]
      exact ⟨fun ⟨env', next, h, h'⟩ => ⟨next, h, env', h'⟩,
        fun ⟨next, h, env', h'⟩ => ⟨env', next, h, h'⟩⟩
    rw [hsplit]
    constructor
    · rintro ⟨next, hr, hrs⟩
      have hknown := exists_register_iff.1 ⟨next, hr⟩
      have hnext := ih.1 hrs
      -- the first registration is known to those behind it
      have hfirst : ∀ r' ∈ rs, r.Agrees r' := fun r' hr' =>
        (hnext r' hr').1 r ((knows_of_register hr r).2 (.inr rfl))
      refine List.forall_mem_cons.2 ⟨⟨hknown, List.forall_mem_cons.2 ⟨r.agrees_self, ?_⟩⟩, ?_⟩
      · exact fun r' hr' => Registration.agrees_comm.1 (hfirst r' hr')
      · intro r' hr'
        refine ⟨fun known h => ?_, List.forall_mem_cons.2 ⟨hfirst r' hr', (hnext r' hr').2⟩⟩
        exact (hnext r' hr').1 known ((knows_of_register hr known).2 (.inl h))
    · intro h
      obtain ⟨next, hr⟩ := exists_register_iff.2 (h r List.mem_cons_self).1
      -- what the others meet is what was known, or the first
      refine ⟨next, hr, ih.2 fun r' hr' => ?_⟩
      obtain ⟨hknown, hothers⟩ := h r' (List.mem_cons_of_mem r hr')
      refine ⟨fun known hk => ?_, fun r'' hr'' => hothers r'' (List.mem_cons_of_mem r hr'')⟩
      rcases (knows_of_register hr known).1 hk with hk | rfl
      · exact hknown known hk
      · exact hothers known List.mem_cons_self

/-- Registrations that succeed one after the other do so in any order, each once or more often. -/
theorem exists_registerAll_of_mem_iff {rs rs' : List Registration} (hmem : ∀ r, r ∈ rs ↔ r ∈ rs')
    (h : env.registerAll rs = .ok env') : ∃ env'', env.registerAll rs' = .ok env'' := by
  have hagree := exists_registerAll_iff.1 ⟨env', h⟩
  simp only [hmem] at hagree
  exact exists_registerAll_iff.2 hagree

/-- Registrations put their signatures behind the others, also those that were there before. -/
theorem signatures_of_registerAll {rs : List Registration} (h : env.registerAll rs = .ok env') :
    env'.signatures = env.signatures ++ rs.filterMap Registration.signature? := by
  induction rs generalizing env with
  | nil =>
    cases h
    simp
  | cons r rs ih =>
    obtain ⟨next, hr, hrs⟩ := registerAll_cons_eq_ok_iff.1 h
    cases r with
    | binding name type =>
      rw [ih hrs, (addVariable_eq_ok hr).1]
      rfl
    | signature s =>
      rw [ih hrs, (addSignature_eq_ok hr).2.1, List.append_assoc]
      rfl

/-! ### Answers -/

/-- The result of the first signature of a function that passes a test: there is such a signature,
and all signatures of the function have that result. -/
theorem Reachable.find?_signaturesOf_eq_some_iff (h : env.Reachable) {name : String}
    {test : Signature → Bool} {type : ValueType} :
    ((env.signaturesOf name).find? test).map (·.result) = some type ↔
      (∃ s ∈ env.signaturesOf name, test s = true) ∧
        ∀ s ∈ env.signaturesOf name, s.result = type := by
  constructor
  · intro hfound
    obtain ⟨s, hs, rfl⟩ := Option.map_eq_some_iff.1 hfound
    have hmem := List.mem_of_find?_eq_some hs
    exact ⟨⟨s, hmem, List.find?_some hs⟩, fun s' hs' => h.result_eq_of_mem hs' hmem⟩
  · rintro ⟨⟨s, hs, htest⟩, hall⟩
    obtain ⟨first, hfirst⟩ := Option.isSome_iff_exists.1 (List.find?_isSome.2 ⟨s, hs, htest⟩)
    rw [hfirst, Option.map_some, hall first (List.mem_of_find?_eq_some hfirst)]

/-- The two environments answer alike: the types of variables, the results of calls by the number of
arguments, and the result of the first signature of every function. -/
structure AnswersAs (env env' : Environment) : Prop where
  variableType?_eq : ∀ name, env.variableType? name = env'.variableType? name
  resultOfCall?_eq : ∀ name arity, env.resultOfCall? name arity = env'.resultOfCall? name arity
  firstResult?_eq : ∀ name, (env.signaturesOf name).head?.map (·.result) =
    (env'.signaturesOf name).head?.map (·.result)

/-- Environments that answer alike give one type of result to every call. -/
theorem AnswersAs.resultType?_eq (h : env.AnswersAs env') (name : String) (arity : Nat) :
    env.resultType? name arity = env'.resultType? name arity := by
  rw [resultType?, resultType?, h.resultOfCall?_eq, h.firstResult?_eq]

/-- Environments that know the same answer alike. -/
theorem Reachable.answersAs (h : env.Reachable) (h' : env'.Reachable)
    (hknows : ∀ r, env.Knows r ↔ env'.Knows r) : env.AnswersAs env' := by
  have hmem : ∀ name (s : Signature), s ∈ env.signaturesOf name ↔ s ∈ env'.signaturesOf name := by
    intro name s
    simp only [signaturesOf, List.mem_filter]
    exact and_congr_left' (hknows (.signature s))
  -- a lookup is decided by the members of the list of signatures, whatever their order
  have hfind : ∀ name test, ((env.signaturesOf name).find? test).map (·.result) =
      ((env'.signaturesOf name).find? test).map (·.result) := by
    intro name test
    ext type
    rw [h.find?_signaturesOf_eq_some_iff, h'.find?_signaturesOf_eq_some_iff]
    simp only [hmem]
  have hhead : ∀ signatures : List Signature,
      signatures.head? = signatures.find? fun _ => true := by
    rintro (_ | _) <;> rfl
  refine ⟨?_, fun name arity => hfind name _, ?_⟩
  · intro name
    ext type
    exact hknows (.binding name type)
  · intro name
    rw [hhead, hhead]
    exact hfind name _

/-- The same registrations lead to the same answers, in any order, each once or more often. -/
theorem Reachable.answersAs_of_registerAll (h : env.Reachable) {rs rs' : List Registration}
    (hmem : ∀ r, r ∈ rs ↔ r ∈ rs') {env₁ env₂ : Environment} (h₁ : env.registerAll rs = .ok env₁)
    (h₂ : env.registerAll rs' = .ok env₂) : env₁.AnswersAs env₂ := by
  have hreach : ∀ {rs env'}, env.registerAll rs = .ok env' → env'.Reachable :=
    fun hrs => h.trans (growsTo_of_registerAll hrs)
  refine (hreach h₁).answersAs (hreach h₂) fun r => ?_
  rw [knows_of_registerAll h₁, knows_of_registerAll h₂, hmem]

end Environment

end Formulas
