import VaultLocator.Json.Token

/-!
# Reading JSON

A value is read from its tokens by a machine with a stack: each array or object that is not yet
closed is a `VaultLocator.Json.Frame`, and `VaultLocator.Json.Goal` says what may come next. The
machine takes one step for each token, so it needs no bound on the depth of the value.

An object that is read has its members in the order of their keys; of two members with one key the
last wins.
-/

namespace VaultLocator

namespace Json

/-- An array or object that is not yet closed, with what it holds so far, last first. -/
inductive Frame
  | array (items : List Json)
  /-- An object in which the value under `key` is being read. -/
  | object (members : List (String × Json)) (key : String)

/-- What may come next. -/
inductive Goal
  /-- A value. -/
  | value
  /-- The first item of an array, or its end. -/
  | firstItem
  /-- The first key of an object, or its end. -/
  | firstKey
  /-- A further key of an object with the given members, last first. -/
  | key (members : List (String × Json))
  /-- The colon after a key of an object with the given members, last first. -/
  | colon (members : List (String × Json)) (key : String)
  /-- A comma or the end of the array or object, the last value of which has just been read. -/
  | separator (value : Json)
  /-- Nothing: the whole value has been read. -/
  | done (value : Json)

/-- The frames that are open, innermost first, and what may come next. -/
structure Progress where
  frames : List Frame
  goal : Goal

/-- The progress after a whole value. -/
def Progress.complete (frames : List Frame) (value : Json) : Progress :=
  match frames with
  | [] => ⟨[], .done value⟩
  | _ => ⟨frames, .separator value⟩

/-- The progress after the first token of a value. -/
def Progress.begin? (frames : List Frame) : Token → Option Progress
  | .null => some (.complete frames .null)
  | .bool b => some (.complete frames (.bool b))
  | .number n => some (.complete frames (.num n))
  | .text chars => some (.complete frames (.str (String.ofList chars)))
  | .openArray => some ⟨.array [] :: frames, .firstItem⟩
  | .openObject => some ⟨frames, .firstKey⟩
  | _ => none

/-- One token. -/
def Progress.step? (progress : Progress) (token : Token) : Option Progress :=
  match progress.goal, progress.frames, token with
  | .value, frames, token => Progress.begin? frames token
  | .firstItem, .array _ :: frames, .closeArray => some (.complete frames (.arr []))
  | .firstItem, frames, token => Progress.begin? frames token
  | .firstKey, frames, .closeObject => some (.complete frames (.obj []))
  | .firstKey, frames, .text chars => some ⟨frames, .colon [] (String.ofList chars)⟩
  | .key members, frames, .text chars => some ⟨frames, .colon members (String.ofList chars)⟩
  | .colon members key, frames, .colon => some ⟨.object members key :: frames, .value⟩
  | .separator v, .array items :: frames, .comma => some ⟨.array (v :: items) :: frames, .value⟩
  | .separator v, .array items :: frames, .closeArray =>
    some (.complete frames (.arr (v :: items).reverse))
  | .separator v, .object members key :: frames, .comma =>
    some ⟨frames, .key ((key, v) :: members)⟩
  | .separator v, .object members key :: frames, .closeObject =>
    some (.complete frames (Json.object ((key, v) :: members).reverse))
  | _, _, _ => none

/-- All tokens, one after the other. -/
def Progress.run? (progress : Progress) : List Token → Option Progress
  | [] => some progress
  | token :: rest => (progress.step? token).bind fun next => next.run? rest

/-- The value that a list of tokens writes. -/
def ofTokens? (tokens : List Token) : Option Json :=
  match Progress.run? ⟨[], .value⟩ tokens with
  | some ⟨_, .done value⟩ => some value
  | _ => none

/-- **Reading**: the value that a text writes, if it writes one. -/
def read? (text : String) : Option Json :=
  (Token.ofText? text.toList).bind ofTokens?

end Json

end VaultLocator
