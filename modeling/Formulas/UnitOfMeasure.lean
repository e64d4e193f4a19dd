/-!
# Units of measure

The known units and their spellings. A word after a value that is no spelling of a known unit is
kept as it is written.
-/

namespace Formulas

/-- A unit of measure. -/
structure UnitOfMeasure where
  /-- The canonical name. -/
  name : String
  /-- The spellings that stand for the unit. -/
  aliases : List String
deriving DecidableEq

namespace UnitOfMeasure

/-- The known units: temperature, ratio, time, length and area, flow, pressure, energy and power,
electricity, speed, light and air, money. -/
def all : List UnitOfMeasure :=
  [⟨"degC", ["°C", "°c", "degC", "celsius", "Celsius"]⟩,
    ⟨"degF", ["°F", "°f", "degF", "fahrenheit", "Fahrenheit"]⟩, ⟨"K", ["K", "kelvin"]⟩,
    ⟨"deltaDegC", ["deltaDegC", "Δ°C"]⟩, ⟨"deltaDegF", ["deltaDegF", "Δ°F"]⟩,
    ⟨"%", ["%", "percent"]⟩, ⟨"ppm", ["ppm"]⟩, ⟨"ms", ["ms", "millisecond", "milliseconds"]⟩,
    ⟨"s", ["s", "sec", "secs", "second", "seconds"]⟩,
    ⟨"min", ["min", "mins", "minute", "minutes"]⟩, ⟨"h", ["h", "hr", "hrs", "hour", "hours"]⟩,
    ⟨"d", ["d", "day", "days"]⟩, ⟨"week", ["week", "weeks", "wk"]⟩, ⟨"mm", ["mm"]⟩,
    ⟨"cm", ["cm"]⟩, ⟨"m", ["m", "meter", "meters", "metre", "metres"]⟩, ⟨"km", ["km"]⟩,
    ⟨"ft", ["ft", "feet", "foot"]⟩, ⟨"in", ["in", "inch", "inches"]⟩, ⟨"m2", ["m2", "m²", "sqm"]⟩,
    ⟨"ft2", ["ft2", "ft²", "sqft"]⟩, ⟨"lps", ["lps", "L/s"]⟩, ⟨"cfm", ["cfm", "CFM"]⟩,
    ⟨"gpm", ["gpm", "GPM"]⟩, ⟨"m3/h", ["m3/h", "cmh"]⟩, ⟨"Pa", ["Pa", "pa", "pascal"]⟩,
    ⟨"kPa", ["kPa", "kpa"]⟩, ⟨"bar", ["bar"]⟩, ⟨"psi", ["psi", "PSI"]⟩,
    ⟨"inH2O", ["inH2O", "inWC"]⟩, ⟨"W", ["W", "watt", "watts"]⟩,
    ⟨"kW", ["kW", "kw", "kilowatt", "kilowatts"]⟩, ⟨"MW", ["MW"]⟩, ⟨"Wh", ["Wh"]⟩,
    ⟨"kWh", ["kWh", "kwh"]⟩, ⟨"MWh", ["MWh"]⟩, ⟨"BTU", ["BTU", "btu"]⟩,
    ⟨"tonref", ["tonref", "TR"]⟩, ⟨"V", ["V", "volt", "volts"]⟩, ⟨"A", ["A", "amp", "amps"]⟩,
    ⟨"Hz", ["Hz", "hz"]⟩, ⟨"rpm", ["rpm", "RPM"]⟩, ⟨"m/s", ["m/s", "mps"]⟩,
    ⟨"lux", ["lux", "lx"]⟩, ⟨"ppb", ["ppb"]⟩, ⟨"µg/m3", ["µg/m3", "ug/m3"]⟩, ⟨"€", ["€", "EUR"]⟩,
    ⟨"$", ["$", "USD"]⟩]

/-- The unit with that spelling. Spellings are compared letter by letter, in their own case. -/
def lookup (text : String) : Option UnitOfMeasure := all.find? (·.aliases.contains text)

/-- The canonical name of a unit; an unknown word is its own. -/
def canonical (text : String) : String := (lookup text).elim text (·.name)

/-- The canonical name of every known unit is one of its spellings. -/
theorem lookup_name : ∀ unit ∈ all, (lookup unit.name).map UnitOfMeasure.name = some unit.name := by
  decide +kernel

end UnitOfMeasure

end Formulas
