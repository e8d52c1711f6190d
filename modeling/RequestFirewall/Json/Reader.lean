import RequestFirewall.Json.Value
import RequestFirewall.Decimal.Nearest
import RequestFirewall.Word
/- Reading JSON text. The grammar is strict RFC 8259: blanks are space, tab, line feed and
   carriage return; numbers have no leading zeros, no leading `+` and digits on both sides of a
   point; strings hold no raw control characters and their `\u` escapes pair surrogates
   correctly. Arrays and objects nest at most 128 deep. Integers outside the 64-bit ranges, and
   `-0`, are read as floats. Floats come from a 64-bit significand and one scaling by a power
   of ten, so they may miss the nearest binary64 value by a unit in the last place; one too
   large for binary64 is refused. -/
namespace RequestFirewall.Json

def maxDepth : Nat := 128

def isJsonBlank (c : Char) : Bool := c == ' ' || c == '\t' || c == '\n' || c == '\r'

def skipBlank (cs : List Char) : List Char := cs.dropWhile isJsonBlank

def hexValue? (c : Char) : Option Nat :=
  if c.isDigit then some (c.toNat - '0'.toNat)
  else if 'a' ≤ c && c ≤ 'f' then some (c.toNat - 'a'.toNat + 10)
  else if 'A' ≤ c && c ≤ 'F' then some (c.toNat - 'A'.toNat + 10)
  else none

def hex4? (a b c d : Char) : Option Nat := do
  let va ← hexValue? a
  let vb ← hexValue? b
  let vc ← hexValue? c
  let vd ← hexValue? d
  pure (((va * 16 + vb) * 16 + vc) * 16 + vd)

def isHighSurrogate (u : Nat) : Bool := 0xD800 ≤ u && u ≤ 0xDBFF

def isLowSurrogate (u : Nat) : Bool := 0xDC00 ≤ u && u ≤ 0xDFFF

def joinSurrogates (hi lo : Nat) : Char := Char.ofNat (0x10000 + (hi - 0xD800) * 0x400 + (lo - 0xDC00))

/-- The body of a string after its opening quote: its characters and what follows the closing
    quote. A `\u` escape names a code point, or a surrogate pair in two escapes. -/
def stringBody : List Char → List Char → Option (String × List Char)
  | [], _ => none
  | '"' :: rest, acc => some (String.ofList acc.reverse, rest)
  | '\\' :: '"' :: more, acc => stringBody more ('"' :: acc)
  | '\\' :: '\\' :: more, acc => stringBody more ('\\' :: acc)
  | '\\' :: '/' :: more, acc => stringBody more ('/' :: acc)
  | '\\' :: 'b' :: more, acc => stringBody more ('\x08' :: acc)
  | '\\' :: 'f' :: more, acc => stringBody more ('\x0c' :: acc)
  | '\\' :: 'n' :: more, acc => stringBody more ('\n' :: acc)
  | '\\' :: 'r' :: more, acc => stringBody more ('\r' :: acc)
  | '\\' :: 't' :: more, acc => stringBody more ('\t' :: acc)
  | '\\' :: 'u' :: a :: b :: c :: d :: more, acc =>
    match hex4? a b c d with
    | none => none
    | some hi =>
      if isHighSurrogate hi then
        match more with
        | '\\' :: 'u' :: e :: f :: g :: h :: more' =>
          match hex4? e f g h with
          | some lo => if isLowSurrogate lo then stringBody more' (joinSurrogates hi lo :: acc) else none
          | none => none
        | _ => none
      else if isLowSurrogate hi then none
      else stringBody more (Char.ofNat hi :: acc)
  | '\\' :: _, _ => none
  | c :: rest, acc => if c.toNat < 0x20 then none else stringBody rest (c :: acc)

def spanDigits (cs : List Char) : List Char × List Char := (cs.takeWhile Char.isDigit, cs.dropWhile Char.isDigit)

/-- Digits folded into a significand for as long as it stays within 64 bits: the
    significand and the digits that did not fit. -/
def fillSignificand : Nat → List Char → Nat × List Char
  | acc, [] => (acc, [])
  | acc, d :: rest =>
    let next := acc * 10 + (d.toNat - '0'.toNat)
    if next > Word.max then (acc, d :: rest) else fillSignificand next rest

def tenPower (k : Nat) : Float := Decimal.ofDecimal 1 k

/-- `f * 10^exponent` computed as one float multiplication or division by a power of ten
    from the table of `10^0` to `10^308`; a larger negative exponent divides by `10^308` first,
    as often as needed. A result that overflows is refused. -/
def scaleByTen (f : Float) (exponent : Int) : Nat → Option Float
  | 0 => some f
  | fuel + 1 =>
    if exponent.natAbs ≤ 308 then
      if 0 ≤ exponent then
        let g := f * tenPower exponent.natAbs
        if g.isInf then none else some g
      else some (f / tenPower exponent.natAbs)
    else if f == 0 then some f
    else if 0 ≤ exponent then none
    else scaleByTen (f / tenPower 308) (exponent + 308) fuel

def floatOfParts (negative : Bool) (significand : Nat) (exponent : Int) : Option Float :=
  (scaleByTen (Decimal.ofDecimal significand 0) exponent (exponent.natAbs / 308 + 1)).map
    fun f => if negative then -f else f

def exponentMin : Int := -2147483648

def exponentMax : Int := 2147483647

/-- A number at the front: `-`, an integer part without leading zeros, an optional fraction and
    an optional exponent. An integer without fraction or exponent that fits 64 bits stays an
    integer: unsigned, or negative down to `-2^63`. Anything else is a float, built from a
    significand and a 32-bit exponent by one scaling with a power of ten. The significand
    takes digits while it fits 64 bits: once an integer digit does not fit, the remaining
    integer digits only scale it, and the fraction stops at its first digit that does not
    fit. An exponent too long for 32 bits gives zero when the value shrinks; a result too
    large for binary64 is refused. -/
def number? (cs : List Char) : Option (JsonNumber × List Char) := do
  let (negative, afterSign) := match cs with
    | '-' :: rest => (true, rest)
    | _ => (false, cs)
  let (intDigits, afterInt) := spanDigits afterSign
  if intDigits.isEmpty then none
  if intDigits.length > 1 && intDigits.head? == some '0' then none
  let (fracDigits, afterFrac, hasFrac) ← match afterInt with
    | '.' :: rest =>
      let (ds, r) := spanDigits rest
      if ds.isEmpty then none else pure (ds, r, true)
    | _ => pure ([], afterInt, false)
  let (expNeg, expDigits, afterExp, hasExp) ← match afterFrac with
    | e :: rest =>
      if e == 'e' || e == 'E' then
        let (eneg, r1) := match rest with
          | '-' :: r => (true, r)
          | '+' :: r => (false, r)
          | r => (false, r)
        let (ds, r2) := spanDigits r1
        if ds.isEmpty then none else pure (eneg, ds, r2, true)
      else pure (false, [], afterFrac, false)
    | [] => pure (false, [], afterFrac, false)
  let (intSignificand, intLeft) := fillSignificand 0 intDigits
  if !hasFrac && !hasExp && intLeft.isEmpty then
    if !negative then return (.nat intSignificand, afterExp)
    if 0 < intSignificand && intSignificand ≤ Nat.pow 2 63 then
      return (.neg (-(intSignificand : Int)), afterExp)
    return (.float (-(Decimal.ofDecimal intSignificand 0)), afterExp)
  let (significand, fracLeft) := fillSignificand intSignificand fracDigits
  let exponent : Int := (intLeft.length : Int) - (fracDigits.length - fracLeft.length : Nat)
  let written := Word.digitsValue expDigits
  if (written : Int) > exponentMax then
    if significand != 0 && !expNeg then none
    return (.float (if negative then -0.0 else 0.0), afterExp)
  let total := if expNeg then exponent - written else exponent + written
  let f ← floatOfParts negative significand (max exponentMin (min exponentMax total))
  pure (.float f, afterExp)

mutual

/-- A value at the front (after blanks) and the rest, within `fuel` steps and at nesting
    `depth`. -/
def value? : Nat → Nat → List Char → Option (Json × List Char)
  | 0, _, _ => none
  | fuel + 1, depth, cs =>
    match skipBlank cs with
    | 'n' :: 'u' :: 'l' :: 'l' :: rest => some (.null, rest)
    | 't' :: 'r' :: 'u' :: 'e' :: rest => some (.bool true, rest)
    | 'f' :: 'a' :: 'l' :: 's' :: 'e' :: rest => some (.bool false, rest)
    | '"' :: rest => (stringBody rest []).map fun (s, r) => (.str s, r)
    | '[' :: rest =>
      if depth ≥ maxDepth then none
      else match skipBlank rest with
        | ']' :: more => some (.arr [], more)
        | _ => items? fuel (depth + 1) rest []
    | '{' :: rest =>
      if depth ≥ maxDepth then none
      else match skipBlank rest with
        | '}' :: more => some (.obj [], more)
        | _ => fields? fuel (depth + 1) rest []
    | other => (number? other).map fun (n, r) => (.num n, r)

def items? : Nat → Nat → List Char → List Json → Option (Json × List Char)
  | 0, _, _, _ => none
  | fuel + 1, depth, cs, acc =>
    match value? fuel depth cs with
    | none => none
    | some (v, rest) =>
      match skipBlank rest with
      | ',' :: more => items? fuel depth more (v :: acc)
      | ']' :: more => some (.arr (v :: acc).reverse, more)
      | _ => none

def fields? : Nat → Nat → List Char → List (String × Json) → Option (Json × List Char)
  | 0, _, _, _ => none
  | fuel + 1, depth, cs, acc =>
    match skipBlank cs with
    | '"' :: rest =>
      match stringBody rest [] with
      | none => none
      | some (k, afterKey) =>
        match skipBlank afterKey with
        | ':' :: afterColon =>
          match value? fuel depth afterColon with
          | none => none
          | some (v, rest') =>
            match skipBlank rest' with
            | ',' :: more => fields? fuel depth more ((k, v) :: acc)
            | '}' :: more => some (.obj ((k, v) :: acc).reverse, more)
            | _ => none
        | _ => none
    | _ => none

end

def parse? (s : String) : Option Json :=
  let cs := s.toList
  match value? (2 * cs.length + 2) 0 cs with
  | some (v, rest) => if (skipBlank rest).isEmpty then some v else none
  | none => none

end RequestFirewall.Json
