import GridCircuit.Json.Basic

/-!
# Records in documents

A record is an object whose fields are known by name, or a list of the same values in a fixed
order.  In an object a known field may not repeat and an unknown field is passed over; a list may
stop early but not go on.
-/

namespace GridCircuit.Json

/-- The values of the named fields of an object, unless one of them repeats or another field
cannot be passed over. -/
def fieldValues? (names : List String) (fields : List (String × Json)) :
    Option (List (Option Json)) :=
  if fields.all fun field => names.contains field.1 || field.2.isIgnorable then
    names.mapM fun name =>
      match fields.filter fun field => field.1 = name with
      | [] => some none
      | [(_, value)] => some (some value)
      | _ => none
  else none

/-- The values of the named fields of a record; a field that is left out has none. -/
def record? (names : List String) : Json → Option (List (Option Json))
  | object fields => fieldValues? names fields
  | array items =>
    if items.length ≤ names.length then
      some (items.map some ++ List.replicate (names.length - items.length) none)
    else none
  | _ => none

end GridCircuit.Json
