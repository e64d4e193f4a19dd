import Formulas.Json.Token

/-!
# Reading JSON

The reader takes one token after the other and keeps the arrays and objects that are still open on
a stack. A text may open at most 127 of them inside one another.
-/

namespace Formulas.Json

/-- An array or object that is still open. -/
inductive Frame
  /-- An array with the items read so far, the latest first. -/
  | array (items : List Json)
  /-- An object with the members read so far, the latest first, and the key of the value that is
  being read. -/
  | object (members : List (String × Json)) (name : String)

/-- Where the reader stands. -/
inductive Reader
  /-- A value must come, or the end of an array that has just been opened. -/
  | value (justOpened : Bool) (frames : List Frame)
  /-- A key must come, or the end of an object that has just been opened. -/
  | key (justOpened : Bool) (members : List (String × Json)) (frames : List Frame)
  /-- The colon behind a key must come. -/
  | colon (members : List (String × Json)) (name : String) (frames : List Frame)
  /-- A value has been read. -/
  | done (v : Json) (frames : List Frame)

/-- The number of containers that may be open at once. -/
def depthLimit : Nat := 127

/-- The reader at the start of a text. -/
def Reader.start : Reader := .value false []

/-- What one token does, if it may stand where the reader is. -/
def Reader.step? : Reader → Token → Option Reader
  | .value _ frames, .scalar v => some (.done v frames)
  | .value _ frames, .openArray =>
    if frames.length < depthLimit then some (.value true (.array [] :: frames)) else none
  | .value _ frames, .openObject =>
    if frames.length < depthLimit then some (.key true [] frames) else none
  | .value true (.array [] :: frames), .closeArray => some (.done (.array []) frames)
  | .key _ members frames, .scalar (.string name) => some (.colon members name frames)
  | .key true _ frames, .closeObject => some (.done (.object []) frames)
  | .colon members name frames, .colon => some (.value false (.object members name :: frames))
  | .done v (.array items :: frames), .comma => some (.value false (.array (v :: items) :: frames))
  | .done v (.array items :: frames), .closeArray =>
    some (.done (.array (v :: items).reverse) frames)
  | .done v (.object members name :: frames), .comma =>
    some (.key false ((name, v) :: members) frames)
  | .done v (.object members name :: frames), .closeObject =>
    some (.done (ofMembers ((name, v) :: members).reverse) frames)
  | _, _ => none

/-- The value that has been read when the text ends. -/
def Reader.finish? : Reader → Option Json
  | .done v [] => some v
  | _ => none

/-- The value of a JSON text, if the text is one. -/
def parse? (text : String) : Option Json := do
  let tokens ← tokens? text.toList
  let reader ← tokens.foldlM Reader.step? Reader.start
  reader.finish?

end Formulas.Json
