/-!
# Aggregating functions

Reducers turn a series of values into one. Temporal functions do so over a window of time; every
reducer has a temporal form of the same name.
-/

namespace Formulas

/-- A function from a series to one value. -/
inductive Reducer
  | sum
  | average
  | min
  | max
  | count
  | any
  | all
deriving DecidableEq

namespace Reducer

/-- Every reducer. -/
def members : List Reducer := [.count, .sum, .average, .min, .max, .any, .all]

/-- The name under which a reducer is called. -/
def name : Reducer → String
  | .sum => "SUM"
  | .average => "AVERAGE"
  | .min => "MIN"
  | .max => "MAX"
  | .count => "COUNT"
  | .any => "ANY"
  | .all => "ALL"

/-- The result is a truth value and not a number. -/
def isLogical : Reducer → Bool
  | .any | .all => true
  | _ => false

end Reducer

/-- A function of a series over a window of time. -/
inductive TemporalFunction
  /-- A reducer over a window. -/
  | reduce (reducer : Reducer)
  | countLeading
  | delta
  | deltaTime
  | standardDeviation
  | slope
  | forecast
deriving DecidableEq

namespace TemporalFunction

/-- Every temporal function. -/
def members : List TemporalFunction :=
  Reducer.members.map .reduce
    ++ [.countLeading, .delta, .deltaTime, .standardDeviation, .slope, .forecast]

/-- The name under which a temporal function is called. -/
def name : TemporalFunction → String
  | .reduce reducer => reducer.name
  | .countLeading => "COUNTLEADING"
  | .delta => "DELTA"
  | .deltaTime => "DELTA_TIME"
  | .standardDeviation => "STND"
  | .slope => "SLOPE"
  | .forecast => "FORECAST"

/-- The result is a truth value and not a number. -/
def isLogical : TemporalFunction → Bool
  | .reduce reducer => reducer.isLogical
  | _ => false

/-- Different temporal functions have different names. -/
theorem name_injective {f g : TemporalFunction} (h : f.name = g.name) : f = g := by
  have every : ∀ f : TemporalFunction, f ∈ members := by
    intro f
    cases f with
    | reduce r => cases r <;> decide
    | _ => decide
  have distinct : ∀ f ∈ members, ∀ g ∈ members, f.name = g.name → f = g := by decide +kernel
  exact distinct f (every f) g (every g) h

end TemporalFunction

end Formulas
