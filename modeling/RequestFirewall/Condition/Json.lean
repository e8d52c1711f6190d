import RequestFirewall.Condition
import RequestFirewall.Decode.Json
/- Match blocks read from JSON. An object may use only the condition fields, each at most once;
   null stands for an absent field. `header` is an object with a `name` and a `value` (other
   fields ignored) or a two-element array; `ip` an array of address texts; `any` and `all`
   arrays of blocks; `not` one block. An array gives the fields of a block by position, and
   missing trailing fields are absent. -/
namespace RequestFirewall.MatchSpec

open Json

def optionalText (j : Json) : Except DecodeFault (Option String) :=
  match j with
  | .null => .ok none
  | j => some <$> j.asString

def addressOfJson (j : Json) : Except DecodeFault Net.IpAddr :=
  match j with
  | .str s =>
    match Net.IpAddr.parse? s with
    | some ip => .ok ip
    | none => .error (.custom "invalid IP address syntax")
  | j => .error (.invalidType j.found "IP address")

def headerOfJson (j : Json) : Except DecodeFault (String × String) :=
  match j with
  | .obj fields => do
    let mut name : Option String := none
    let mut value : Option String := none
    for (k, v) in fields do
      if k == "name" then
        if name.isSome then throw (.duplicateField "name")
        name := some (← v.asString)
      else if k == "value" then
        if value.isSome then throw (.duplicateField "value")
        value := some (← v.asString)
    match name, value with
    | some n, some v => pure (n, v)
    | none, _ => throw (.missingField "name")
    | _, none => throw (.missingField "value")
  | .arr items => do
    let expected := "struct HeaderMatchConfig with 2 elements"
    let name ← match items[0]? with
      | some v => v.asString
      | none => throw (.invalidLength 0 expected)
    let value ← match items[1]? with
      | some v => v.asString
      | none => throw (.invalidLength 1 expected)
    if items.length > 2 then throw (.invalidLength items.length "fewer elements in array")
    pure (name, value)
  | j => .error (.invalidType j.found "struct HeaderMatchConfig")

def optionalList {α : Type} (item : Json → Except DecodeFault α) (j : Json) :
    Except DecodeFault (Option (List α)) :=
  match j with
  | .null => .ok none
  | .arr items => some <$> items.mapM item
  | j => .error (.invalidType j.found "a sequence")

mutual

def takeField : Nat → MatchParts → String → Json → Except DecodeFault MatchParts
  | 0, _, _, _ => .error (.custom "recursion limit exceeded")
  | fuel + 1, p, name, v =>
    if name == "path_prefix" then do pure { p with pathPrefix := ← optionalText v }
    else if name == "path" then do pure { p with path := ← optionalText v }
    else if name == "method" then do pure { p with method := ← optionalText v }
    else if name == "header" then
      match v with
      | .null => .ok { p with header := none }
      | v => do pure { p with header := some (← headerOfJson v) }
    else if name == "header_present" then do pure { p with headerPresent := ← optionalText v }
    else if name == "ip" then do pure { p with ip := ← optionalList addressOfJson v }
    else if name == "any" then do pure { p with any := ← optionalList (ofJsonWith fuel) v }
    else if name == "all" then do pure { p with all := ← optionalList (ofJsonWith fuel) v }
    else if name == "not" then
      match v with
      | .null => .ok { p with negated := none }
      | v => do pure { p with negated := some (← ofJsonWith fuel v) }
    else .error (.unknownField name matchFieldNames)

def ofJsonWith : Nat → Json → Except DecodeFault MatchSpec
  | 0, _ => .error (.custom "recursion limit exceeded")
  | fuel + 1, .obj fields => do
    let mut parts : MatchParts := {}
    let mut seen : List String := []
    for (k, v) in fields do
      if seen.contains k && matchFieldNames.contains k then throw (.duplicateField k)
      parts ← takeField fuel parts k v
      seen := k :: seen
    pure parts.spec
  | fuel + 1, .arr items => do
    let mut parts : MatchParts := {}
    for (k, v) in matchFieldNames.zip items do
      parts ← takeField fuel parts k v
    if items.length > matchFieldNames.length then
      throw (.invalidLength items.length "fewer elements in array")
    pure parts.spec
  | _ + 1, j => .error (.invalidType j.found "struct MatchConfig")

end

def ofJson (j : Json) : Except DecodeFault MatchSpec := ofJsonWith 300 j

end RequestFirewall.MatchSpec
