import Formulas.Catalog
import Formulas.Proofs.Environment.Facts

/-!
# Runs of registrations

An environment is built in a run of steps. Each of them registers something, by itself, in the
builder form, or from a catalog, and each can fail. A step that fails may leave a part of its work
behind: a catalog registers what stands in front of the entry that is wrong. Whatever happens in a
run, an environment only ever grows by registrations that succeed, and this is all that its
invariants need.

## Main definitions

* `Environment.Step`, `Environment.perform` and `Environment.run`: steps, what one does and what a
  run of them does;
* `Environment.Coherent`: the signatures of a function agree, and lookups show it;
* `Environment.KeptBy`: what one environment answers is answered by another.

## Main results

* `Environment.perform_add_cases`: what a registration by itself can do;
* `Environment.growsTo_perform` and `Environment.growsTo_run`: environments grow in a step and in a
  run;
* `Environment.coherent_run`: the invariants of all runs.
-/

namespace Formulas.Environment

open Text

variable {env env' : Environment}

/-! ### Steps -/

/-- A step of a run. -/
inductive Step
  /-- A registration in place. -/
  | add (r : Registration)
  /-- A registration in the builder form: on a copy, which takes the place of the environment if it
  succeeds. -/
  | build (r : Registration)
  /-- The entries of a catalog, in place, up to the first that fails. -/
  | load (text : String)

/-- Why a step fails. -/
inductive Failure
  /-- The registration contradicts an earlier one. -/
  | conflict (cause : Conflict)
  /-- The catalog is not loaded to its end. -/
  | catalog (cause : CatalogError)

/-- The environment after a step, and why the step fails if it does. -/
def perform (env : Environment) : Step → Environment × Option Failure
  -- what fails in the builder form is the copy, so both forms leave what was there
  | .add r | .build r =>
    match env.register r with
    | .ok env' => (env', none)
    | .error conflict => (env, some (.conflict conflict))
  | .load text =>
    let (env', error) := env.extend (Catalog.entriesOfText text)
    (env', error.map .catalog)

/-- The environment after the steps of a run. A step that fails does not end the run. -/
def run (env : Environment) (steps : List Step) : Environment :=
  steps.foldl (fun env step => (env.perform step).1) env

/-- A run goes on from where it was. -/
theorem run_append (env : Environment) (earlier later : List Step) :
    env.run (earlier ++ later) = (env.run earlier).run later :=
  List.foldl_append ..

/-- A registration in place fails at what contradicts it, and leaves the environment as it was, or
else it succeeds, and adds just what it says. -/
theorem perform_add_cases (env : Environment) (r : Registration) :
    ((∃ known, env.Knows known ∧ ¬known.Agrees r) ∧
        ∃ failure, env.perform (.add r) = (env, some failure)) ∨
      (∀ known, env.Knows known → known.Agrees r) ∧
        ∃ env', env.perform (.add r) = (env', none) ∧
          ∀ known, env'.Knows known ↔ env.Knows known ∨ known = r := by
  by_cases hagrees : ∀ known, env.Knows known → known.Agrees r
  · right
    obtain ⟨env', hr⟩ := exists_register_iff.2 hagrees
    exact ⟨hagrees, env', by simp only [perform, hr], knows_of_register hr⟩
  · left
    obtain ⟨known, hknown⟩ := Classical.not_forall.1 hagrees
    refine ⟨⟨known, Classical.not_imp.1 hknown⟩, ?_⟩
    cases hr : env.register r with
    | error conflict => exact ⟨.conflict conflict, by simp only [perform, hr]⟩
    | ok env' => exact absurd (exists_register_iff.1 ⟨env', hr⟩) hagrees

/-- An environment grows by the entries of a catalog, also if one of them fails. -/
theorem growsTo_extend (env : Environment) (entries : List Catalog.Entry) :
    env.GrowsTo (env.extend entries).1 := by
  -- the entries in front of the one that fails are registered, and stay so
  fun_induction extend env entries with
  | case1 => exact .refl
  | case2 => exact .refl
  | case3 env r entries env' hr ih => exact GrowsTo.trans (.register .refl hr) ih
  | case4 => exact .refl

/-- An environment grows in a step, also in one that fails. -/
theorem growsTo_perform (env : Environment) (step : Step) : env.GrowsTo (env.perform step).1 := by
  cases step with
  | add r | build r =>
    simp only [perform]
    split
    next hr => exact .register .refl hr
    next => exact .refl
  | load text => exact growsTo_extend env _

/-- An environment grows in a run. -/
theorem growsTo_run (env : Environment) (steps : List Step) : env.GrowsTo (env.run steps) := by
  induction steps generalizing env with
  | nil => exact .refl
  | cons step steps ih => exact (growsTo_perform env step).trans (ih _)

/-- The catalog fails behind the variable `a`, and the second signature of the function at its
result. What was registered before stays. -/
example : empty.run
    [.load "\x7b\"variables\": \x7b\"a\": \"number\", \"b\": 1, \"c\": \"string\"\x7d\x7d",
      .add (.signature ⟨"f", [], .number⟩), .build (.signature ⟨"F", [.string], .string⟩)] =
    ⟨[("a", .number)], [⟨"f", [], .number⟩]⟩ := by
  decide +kernel

/-! ### Invariants -/

/-- The signatures of a function have one result, and the calls of the function have it as far as
there is a signature with their number of arguments. -/
structure Coherent (env : Environment) : Prop where
  result_eq : ∀ s ∈ env.signatures, ∀ s' ∈ env.signatures,
    sameIgnoringCase s.name s'.name = true → s.result = s'.result
  resultOfCall?_eq_some_iff : ∀ name arity type, env.resultOfCall? name arity = some type ↔
    (∃ s ∈ env.signaturesOf name, s.arguments.length = arity) ∧
      ∀ s ∈ env.signaturesOf name, s.result = type

/-- What is known of variables and functions is still the same in the other environment, where new
signatures of a function stand behind those that were there. -/
structure KeptBy (env env' : Environment) : Prop where
  variableType?_eq : ∀ name type, env.variableType? name = some type →
    env'.variableType? name = some type
  resultOfCall?_eq : ∀ name arity type, env.resultOfCall? name arity = some type →
    env'.resultOfCall? name arity = some type
  head?_signaturesOf_eq : ∀ name s, (env.signaturesOf name).head? = some s →
    (env'.signaturesOf name).head? = some s
  signaturesOf_prefix : ∀ name, env.signaturesOf name <+: env'.signaturesOf name

/-- An environment that comes from the empty one is coherent. -/
theorem Reachable.coherent (h : env.Reachable) : env.Coherent where
  result_eq := fun _ hs _ hs' hname => h.result_eq hs hs' hname
  resultOfCall?_eq_some_iff := fun name arity type => by
    simp only [resultOfCall?, h.find?_signaturesOf_eq_some_iff, beq_iff_eq]

/-- Signatures are only ever put behind the others. -/
theorem GrowsTo.signatures_prefix (h : env.GrowsTo env') : env.signatures <+: env'.signatures := by
  induction h with
  | refl => exact List.prefix_rfl
  | @register env₁ env₂ r _ hr ih =>
    cases r with
    | binding name type => rwa [(addVariable_eq_ok hr).1]
    | signature s =>
      rw [(addSignature_eq_ok hr).2.1]
      exact ih.trans (List.prefix_append ..)

/-- What an environment answers is kept when it grows. -/
theorem GrowsTo.keptBy (h : env.GrowsTo env') : env.KeptBy env' := by
  have hof : ∀ name, env.signaturesOf name <+: env'.signaturesOf name :=
    fun name => h.signatures_prefix.filter _
  refine ⟨fun name type => h.variableType?_eq, ?_, ?_, hof⟩
  · intro name arity type hknown
    obtain ⟨s, hs, rfl⟩ := Option.map_eq_some_iff.1 hknown
    -- the first signature with the number of arguments is found where it was
    obtain ⟨more, hmore⟩ := hof name
    rw [resultOfCall?, ← hmore, List.find?_append, hs, Option.some_or, Option.map_some]
  · intro name s hs
    obtain ⟨more, hmore⟩ := hof name
    rw [← hmore, List.head?_append, hs, Option.some_or]

/-- After every step of a run from the empty environment, whatever fails in it: the environment is
coherent, and what it answers is kept to the end of the run. A registration in place that
contradicts it would fail, and leave it as it is, and any other would add just what it says. -/
theorem coherent_run (earlier later : List Step) :
    let env := empty.run earlier
    env.Coherent ∧ env.KeptBy (empty.run (earlier ++ later)) ∧
      ∀ r, ((∃ known, env.Knows known ∧ ¬known.Agrees r) ∧
          ∃ failure, env.perform (.add r) = (env, some failure)) ∨
        (∀ known, env.Knows known → known.Agrees r) ∧
          ∃ env', env.perform (.add r) = (env', none) ∧
            ∀ known, env'.Knows known ↔ env.Knows known ∨ known = r := by
  intro env
  have hreach : env.Reachable := growsTo_run empty earlier
  refine ⟨hreach.coherent, ?_, perform_add_cases env⟩
  rw [run_append]
  exact (growsTo_run env later).keptBy

end Formulas.Environment
