import HttpAuth.Json.Lexeme

namespace HttpAuth.Json

inductive Container where
  | array
  | object
deriving DecidableEq, Repr

/-- What has to come next. -/
inductive Expected where
  | value
  /-- A value, or the end of the array that has just begun. -/
  | firstValue
  | key
  /-- A key, or the end of the object that has just begun. -/
  | firstKey
  | colon
  /-- A comma or the end of the innermost container. -/
  | more
deriving DecidableEq, Repr

/-- The state after a value has ended: nothing is left to read if it was the outermost. -/
def afterValue : List Container → Option (Expected × List Container)
  | [] => none
  | stack => some (.more, stack)

/-- What one lexeme does, the innermost open container first; `some none` ends the outermost value. -/
def advance (expected : Expected) (stack : List Container) (l : Lexeme) :
    Option (Option (Expected × List Container)) :=
  match expected, l, stack with
  | .firstValue, .endArray, _ :: outer => some (afterValue outer)
  | .firstKey, .endObject, _ :: outer => some (afterValue outer)
  | .value, .beginArray, _ | .firstValue, .beginArray, _ => some (some (.firstValue, .array :: stack))
  | .value, .beginObject, _ | .firstValue, .beginObject, _ => some (some (.firstKey, .object :: stack))
  | .value, .null, _ | .firstValue, .null, _ => some (afterValue stack)
  | .value, .bool _, _ | .firstValue, .bool _, _ => some (afterValue stack)
  | .value, .number _, _ | .firstValue, .number _, _ => some (afterValue stack)
  | .value, .string _, _ | .firstValue, .string _, _ => some (afterValue stack)
  | .key, .string _, _ | .firstKey, .string _, _ => some (some (.colon, stack))
  | .colon, .colon, _ => some (some (.value, stack))
  | .more, .comma, .array :: _ => some (some (.value, stack))
  | .more, .comma, .object :: _ => some (some (.key, stack))
  | .more, .endArray, .array :: outer => some (afterValue outer)
  | .more, .endObject, .object :: outer => some (afterValue outer)
  | _, _, _ => none

/-- The lexemes behind the value that is being read. -/
def skipFrom (expected : Expected) (stack : List Container) : List Lexeme → Option (List Lexeme)
  | [] => none
  | l :: rest =>
    match advance expected stack l with
    | none => none
    | some none => some rest
    | some (some (next, inner)) => skipFrom next inner rest

/-- The lexemes behind the first value. -/
def skipValue (lexemes : List Lexeme) : Option (List Lexeme) := skipFrom .value [] lexemes

end HttpAuth.Json
