import RequestFirewall.Decimal.Shortest
/- JSON values and their compact text. Numbers keep the reader's classification: integers that
   fit 64 unsigned bits, negative integers that fit 64 signed bits, and everything else as a
   binary64 float. Objects keep their fields in the order given. The compact text has no blanks;
   strings escape the quote, the backslash and the control characters, and nothing else. -/
namespace RequestFirewall

inductive JsonNumber where
  | nat (n : Nat)
  | neg (n : Int)
  | float (f : Float)

inductive Json where
  | null
  | bool (b : Bool)
  | num (n : JsonNumber)
  | str (s : String)
  | arr (items : List Json)
  | obj (fields : List (String × Json))

def JsonNumber.render : JsonNumber → String
  | .nat n => Nat.repr n
  | .neg n => if n < 0 then "-" ++ Nat.repr n.natAbs else Nat.repr n.natAbs
  | .float f => Decimal.withPoint f

namespace Json

def nat (n : Nat) : Json := .num (.nat n)

def optStr : Option String → Json
  | some s => .str s
  | none => .null

def optNat : Option Nat → Json
  | some n => .nat n
  | none => .null

def field? (j : Json) (k : String) : Option Json :=
  match j with
  | .obj fields => (fields.find? (fun e => e.1 == k)).map Prod.snd
  | _ => none

def hexDigit (n : Nat) : Char :=
  if n < 10 then Char.ofNat ('0'.toNat + n) else Char.ofNat ('a'.toNat + n - 10)

def escapeChar (c : Char) : String :=
  match c with
  | '"' => "\\\""
  | '\\' => "\\\\"
  | '\n' => "\\n"
  | '\r' => "\\r"
  | '\t' => "\\t"
  | '\x08' => "\\b"
  | '\x0c' => "\\f"
  | c =>
    if c.toNat < 0x20 then
      "\\u00" ++ String.ofList [hexDigit (c.toNat / 16), hexDigit (c.toNat % 16)]
    else c.toString

def quote (s : String) : String := "\"" ++ String.join (s.toList.map escapeChar) ++ "\""

mutual

def render : Json → String
  | .null => "null"
  | .bool b => if b then "true" else "false"
  | .num n => n.render
  | .str s => quote s
  | .arr items => "[" ++ renderItems items ++ "]"
  | .obj fields => "\x7b" ++ renderFields fields ++ "\x7d"

def renderItems : List Json → String
  | [] => ""
  | [x] => render x
  | x :: rest => render x ++ "," ++ renderItems rest

def renderFields : List (String × Json) → String
  | [] => ""
  | [(k, v)] => quote k ++ ":" ++ render v
  | (k, v) :: rest => quote k ++ ":" ++ render v ++ "," ++ renderFields rest

end

def insertSorted (k : String) (v : Json) : List (String × Json) → List (String × Json)
  | [] => [(k, v)]
  | (k', v') :: rest =>
    if k == k' then (k, v) :: rest
    else if k < k' then (k, v) :: (k', v') :: rest
    else (k', v') :: insertSorted k v rest

mutual

/-- The value read as a map keyed by text: every object's fields sorted by key, a repeated key
    keeping its last value. -/
def canonical : Json → Json
  | .arr items => .arr (canonicalItems items)
  | .obj fields => .obj ((canonicalFields fields).foldl (fun acc (k, v) => insertSorted k v acc) [])
  | j => j

def canonicalItems : List Json → List Json
  | [] => []
  | j :: rest => canonical j :: canonicalItems rest

def canonicalFields : List (String × Json) → List (String × Json)
  | [] => []
  | (k, v) :: rest => (k, canonical v) :: canonicalFields rest

end

end Json

end RequestFirewall
