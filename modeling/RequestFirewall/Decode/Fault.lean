import RequestFirewall.Decimal.Shortest
import RequestFirewall.Text.Escape
/- Why a document could not be read as the record it should hold, and the wording of each
   cause. A mismatch names what was found (a boolean, an integer, a float, a string, null, a
   sequence, a map) and what was expected (`a string`, `u64`, `struct MatchConfig`, ...). -/
namespace RequestFirewall

inductive Found where
  | bool (b : Bool)
  | unsigned (n : Nat)
  | signed (n : Int)
  | float (f : Float)
  | floatCompact (f : Float)
  | str (s : String)
  | unit
  | null
  | seq
  | map
  | other (text : String)

def Found.describe : Found → String
  | .bool b => "boolean `" ++ (if b then "true" else "false") ++ "`"
  | .unsigned n => "integer `" ++ Nat.repr n ++ "`"
  | .signed n => "integer `" ++ (if n < 0 then "-" else "") ++ Nat.repr n.natAbs ++ "`"
  | .float f => "floating point `" ++ Decimal.withPoint f ++ "`"
  | .floatCompact f => "floating point `" ++ Decimal.compact f ++ "`"
  | .str s => "string " ++ Text.debugQuote s
  | .unit => "unit value"
  | .null => "null"
  | .seq => "sequence"
  | .map => "map"
  | .other text => text

inductive DecodeFault where
  | invalidType (found : Found) (expected : String)
  | invalidValue (found : Found) (expected : String)
  | invalidLength (n : Nat) (expected : String)
  | unknownField (name : String) (allowed : List String)
  | missingField (name : String)
  | duplicateField (name : String)
  | custom (message : String)

def oneOf (names : List String) : String :=
  let tick (n : String) := "`" ++ n ++ "`"
  match names with
  | [] => ""
  | [a] => tick a
  | [a, b] => tick a ++ " or " ++ tick b
  | _ => "one of " ++ ", ".intercalate (names.map tick)

def DecodeFault.message : DecodeFault → String
  | .invalidType found expected => "invalid type: " ++ found.describe ++ ", expected " ++ expected
  | .invalidValue found expected => "invalid value: " ++ found.describe ++ ", expected " ++ expected
  | .invalidLength n expected => "invalid length " ++ Nat.repr n ++ ", expected " ++ expected
  | .unknownField name [] => "unknown field `" ++ name ++ "`, there are no fields"
  | .unknownField name allowed => "unknown field `" ++ name ++ "`, expected " ++ oneOf allowed
  | .missingField name => "missing field `" ++ name ++ "`"
  | .duplicateField name => "duplicate field `" ++ name ++ "`"
  | .custom message => message

end RequestFirewall
