import RequestFirewall.Yaml.Scalar
import RequestFirewall.Text.Blank
import RequestFirewall.Word
/- Numbers written as text in the standard way: a 64-bit signed integer as decimal digits
   after one optional sign, and a float as decimal digits with an optional point and exponent,
   or one of the words `inf`, `infinity` and `nan` in any case. A float too large for the
   format reads as infinite rather than failing. -/
namespace RequestFirewall

/-- Whether digits with an optional point (at least one digit) and an optional exponent make
    up the whole text. -/
def isDecimalShape (body : List Char) : Bool :=
  let afterInt := body.dropWhile Char.isDigit
  let (fracDigits, afterFrac) := match afterInt with
    | '.' :: rest => (rest.takeWhile Char.isDigit, rest.dropWhile Char.isDigit)
    | _ => ([], afterInt)
  let exponentOk := match afterFrac with
    | [] => true
    | e :: rest =>
      let ds := match rest with | '+' :: d => d | '-' :: d => d | d => d
      (e == 'e' || e == 'E') && !ds.isEmpty && ds.all Char.isDigit
  (body.takeWhile Char.isDigit != [] || fracDigits != []) && exponentOk

/-- The float that standard decimal reading gives for a text: an optional sign, then `inf`,
    `infinity` or `nan` in any case, or digits with an optional point and exponent; a value too
    large for a float is infinite. -/
def standardFloat? (s : String) : Option Float :=
  let (negative, body) := match s.toList with
    | '-' :: rest => (true, rest)
    | '+' :: rest => (false, rest)
    | cs => (false, cs)
  let signed (f : Float) : Float := if negative then -f else f
  let word := Text.asciiLower (String.ofList body)
  if word == "inf" || word == "infinity" then some (signed (1.0 / 0.0))
  else if word == "nan" then some (0.0 / 0.0)
  else if isDecimalShape body then
    -- a decimal shape is refused by the finite reader only when its value overflows
    some (signed ((Yaml.decimalFloat? body).getD (1.0 / 0.0)))
  else none

def signedWord? (s : String) : Option Int :=
  let (negative, body) := match s.toList with
    | '-' :: rest => (true, rest)
    | '+' :: rest => (false, rest)
    | cs => (false, cs)
  if body.isEmpty || !body.all Char.isDigit then none
  else
    let v := Word.digitsValue body
    if negative then (if v ≤ Nat.pow 2 63 then some (-(v : Int)) else none)
    else if v < Nat.pow 2 63 then some (v : Int) else none

end RequestFirewall
