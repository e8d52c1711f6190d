import RequestFirewall.Json.Value
import RequestFirewall.Decode.Fault
/- Reading typed fields out of JSON values. Each reader either takes the value or names what
   it found instead; objects are read field by field in their given order, a field seen twice
   is refused, and fields the record does not know are skipped. -/
namespace RequestFirewall.Json

def found : Json → Found
  | .null => .null
  | .bool b => .bool b
  | .num (.nat n) => .unsigned n
  | .num (.neg n) => .signed n
  | .num (.float f) => .floatCompact f
  | .str s => .str s
  | .arr _ => .seq
  | .obj _ => .map

def asString (j : Json) : Except DecodeFault String :=
  match j with
  | .str s => .ok s
  | j => .error (.invalidType j.found "a string")

def asWord (j : Json) : Except DecodeFault Nat :=
  match j with
  | .num (.nat n) => .ok n
  | .num (.neg n) => if 0 ≤ n then .ok n.toNat else .error (.invalidValue (.signed n) "u64")
  | j => .error (.invalidType j.found "u64")

def asTextMap (j : Json) : Except DecodeFault (List (String × String)) :=
  match j with
  | .obj fields => fields.mapM fun (k, v) => do pure (k, ← v.asString)
  | j => .error (.invalidType j.found "a map")

end RequestFirewall.Json
