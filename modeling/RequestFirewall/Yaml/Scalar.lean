import RequestFirewall.Yaml.Token
import RequestFirewall.Decode.Fault
import RequestFirewall.Word
/- What a YAML scalar stands for. A plain scalar without a tag is resolved by its text: empty,
   `~` or `null` in three spellings is null; `true` and `false` in three spellings are booleans;
   then integers (decimal without leading zeros, or `0x`, `0o`, `0b` with an optional sign),
   first as unsigned 64-bit, then negative 64-bit, then the 128-bit ranges; then finite floats
   and `.inf`, `.nan`; anything else is a string. A quoted or block scalar is a string. The
   core tags `!!bool`, `!!int`, `!!float` and `!!null` demand their kind. -/
namespace RequestFirewall.Yaml

inductive Resolved where
  | unit
  | bool (b : Bool)
  | unsigned (n : Nat)
  | signed (n : Int)
  | wideUnsigned (n : Nat)
  | wideSigned (n : Int)
  | float (f : Float)
  | str (s : String)

def Resolved.found : Resolved → Found
  | .unit => .unit
  | .bool b => .bool b
  | .unsigned n => .unsigned n
  | .signed n => .signed n
  | .wideUnsigned n => .other ("integer `" ++ Nat.repr n ++ "` as u128")
  | .wideSigned n => .other ("integer `" ++ (if n < 0 then "-" else "") ++ Nat.repr n.natAbs ++ "` as i128")
  | .float f => .float f
  | .str s => .str s

def isNullText (s : String) : Bool := s == "~" || s == "null" || s == "Null" || s == "NULL"

def boolText? (s : String) : Option Bool :=
  if s == "true" || s == "True" || s == "TRUE" then some true
  else if s == "false" || s == "False" || s == "FALSE" then some false
  else none

def digitIn (radix : Nat) (c : Char) : Option Nat :=
  let v := if c.isDigit then some (c.toNat - '0'.toNat)
    else if 'a' ≤ c && c ≤ 'z' then some (c.toNat - 'a'.toNat + 10)
    else if 'A' ≤ c && c ≤ 'Z' then some (c.toNat - 'A'.toNat + 10)
    else none
  v.bind fun d => if d < radix then some d else none

def digitsIn (radix : Nat) (cs : List Char) : Option Nat :=
  if cs.isEmpty then none
  else cs.foldlM (fun acc c => (digitIn radix c).map fun d => acc * radix + d) 0

/-- An integer in a radix with an optional sign, within `[lo, hi]`; a lone sign is refused, and
    a `-` only when `lo` is negative. -/
def integerIn (radix : Nat) (lo hi : Int) (cs : List Char) : Option Int :=
  let (negative, digits) := match cs with
    | '+' :: rest => (false, rest)
    | '-' :: rest => if lo < 0 then (true, rest) else (false, cs)
    | _ => (false, cs)
  match digitsIn radix digits with
  | some n =>
    let v : Int := if negative then -(n : Int) else n
    if lo ≤ v && v ≤ hi then some v else none
  | none => none

/-- Whether a text is a zero followed by more digits (after one optional sign): such a text is
    a string, not a number. -/
def zeroLed (s : String) : Bool :=
  let cs := match s.toList with
    | '+' :: rest => rest
    | '-' :: rest => rest
    | cs => cs
  match cs with
  | '0' :: rest => !rest.isEmpty && rest.all Char.isDigit
  | _ => false

def signLed (cs : List Char) : Bool := match cs with
  | '+' :: _ => true
  | '-' :: _ => true
  | _ => false

/-- A non-negative integer at most `hi`: decimal, or hexadecimal, octal or binary after `0x`,
    `0o`, `0b`, with one optional leading `+`. -/
def unsignedText? (hi : Nat) (s : String) : Option Nat :=
  let cs := s.toList
  let body := match cs with
    | '+' :: rest => rest
    | _ => cs
  let radixed (radix : Nat) (rest : List Char) : Option Nat :=
    if signLed rest then none else (integerIn radix 0 hi rest).map Int.toNat
  let viaPrefix : Option (Option Nat) := match body with
    | '0' :: 'x' :: rest => if signLed rest then some none else (radixed 16 rest).map some
    | '0' :: 'o' :: rest => if signLed rest then some none else (radixed 8 rest).map some
    | '0' :: 'b' :: rest => if signLed rest then some none else (radixed 2 rest).map some
    | _ => none
  match viaPrefix with
  | some r => r
  | none =>
    if signLed body || zeroLed s then none
    else (integerIn 10 0 hi body).map Int.toNat

/-- A negative integer (or zero written with a sign) at least `lo`: decimal, or `-0x`, `-0o`,
    `-0b` followed by digits. -/
def negativeText? (lo : Int) (s : String) : Option Int :=
  let hi : Int := -lo - 1
  let viaPrefix : Option Int := match s.toList with
    | '-' :: '0' :: 'x' :: rest => integerIn 16 lo hi ('-' :: rest)
    | '-' :: '0' :: 'o' :: rest => integerIn 8 lo hi ('-' :: rest)
    | '-' :: '0' :: 'b' :: rest => integerIn 2 lo hi ('-' :: rest)
    | _ => none
  match viaPrefix with
  | some v => some v
  | none => if zeroLed s then none else integerIn 10 lo hi s.toList

/-- The float a decimal text spells: optional sign, digits with an optional point (at least one
    digit), optional exponent; infinite results are refused. -/
def decimalFloat? (cs : List Char) : Option Float := do
  let (negative, body) := match cs with
    | '-' :: rest => (true, rest)
    | '+' :: rest => (false, rest)
    | _ => (false, cs)
  let intDigits := body.takeWhile Char.isDigit
  let afterInt := body.dropWhile Char.isDigit
  let (fracDigits, afterFrac) := match afterInt with
    | '.' :: rest => (rest.takeWhile Char.isDigit, rest.dropWhile Char.isDigit)
    | _ => ([], afterInt)
  if intDigits.isEmpty && fracDigits.isEmpty then none
  let exponent ← match afterFrac with
    | [] => some (0 : Int)
    | e :: rest =>
      if e == 'e' || e == 'E' then
        match rest with
        | '-' :: ds => (digitsIn 10 ds).map fun n => -(n : Int)
        | '+' :: ds => (digitsIn 10 ds).map fun n => (n : Int)
        | ds => (digitsIn 10 ds).map fun n => (n : Int)
      else none
  let digits := (intDigits ++ fracDigits).dropWhile (· == '0')
  let mantissa := Word.digitsValue digits
  let e10 := exponent - fracDigits.length
  let magnitude : Float :=
    if mantissa == 0 then 0
    else if e10 + digits.length > 310 then 1.0 / 0.0
    else if e10 + digits.length < -330 then 0
    else if e10 < 0 then Float.ofScientific mantissa true e10.natAbs
    else Float.ofScientific mantissa false e10.natAbs
  if !magnitude.isFinite then none
  pure (if negative then -magnitude else magnitude)

def floatText? (s : String) : Option Float :=
  let body := match s.toList with
    | '+' :: rest => if signLed rest then none else some rest
    | cs => some cs
  match body with
  | none => none
  | some body =>
    let b := String.ofList body
    if b == ".inf" || b == ".Inf" || b == ".INF" then some (1.0 / 0.0)
    else if s == "-.inf" || s == "-.Inf" || s == "-.INF" then some (-1.0 / 0.0)
    else if s == ".nan" || s == ".NaN" || s == ".NAN" then some (0.0 / 0.0)
    else decimalFloat? body

def wideMax : Nat := Nat.pow 2 128 - 1

/-- An integer in the first range it fits: unsigned 64-bit, negative 64-bit, unsigned
    128-bit, negative 128-bit. -/
def integerText? (s : String) : Option Resolved :=
  match unsignedText? Word.max s with
  | some n => some (.unsigned n)
  | none =>
    match negativeText? (-((Nat.pow 2 63 : Nat) : Int)) s with
    | some n => some (.signed n)
    | none =>
      match unsignedText? wideMax s with
      | some n => some (.wideUnsigned n)
      | none => (negativeText? (-((Nat.pow 2 127 : Nat) : Int)) s).map Resolved.wideSigned

def resolvePlain (s : String) : Resolved :=
  if s.isEmpty || isNullText s then .unit
  else match boolText? s with
    | some b => .bool b
    | none =>
      match integerText? s with
      | some r => r
      | none =>
        match (if zeroLed s then none else floatText? s) with
        | some f => .float f
        | none => .str s

def coreTag (kind : String) : String := "tag:yaml.org,2002:" ++ kind

/-- What a scalar stands for, given its tag and style; a core tag whose text does not spell its
    kind is a fault. -/
def resolveScalar (tag : Option String) (text : String) (style : ScalarStyle) :
    Except DecodeFault Resolved :=
  match tag with
  | some t =>
    if t == coreTag "bool" then
      match boolText? text with
      | some b => .ok (.bool b)
      | none => .error (.invalidValue (.str text) "a boolean")
    else if t == coreTag "int" then
      match integerText? text with
      | some r => .ok r
      | none => .error (.invalidValue (.str text) "an integer")
    else if t == coreTag "float" then
      match floatText? text with
      | some f => .ok (.float f)
      | none => .error (.invalidValue (.str text) "a float")
    else if t == coreTag "null" then
      if isNullText text then .ok .unit else .error (.invalidValue (.str text) "null")
    else if t.startsWith "!" && style == .plain then .ok (resolvePlain text)
    else .ok (.str text)
  | none => if style == .plain then .ok (resolvePlain text) else .ok (.str text)

end RequestFirewall.Yaml
