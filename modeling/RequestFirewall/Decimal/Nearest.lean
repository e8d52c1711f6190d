/- The binary64 value nearest to a non-negative rational, ties to the even significand. The
   rational `num / den` is cut at the unit of its last significant bit: 53 bits below the
   leading one, but never finer than 2^-1074, where the subnormals end. The quotient by that
   unit is rounded in exact arithmetic, so the result is correctly rounded in every range;
   building the float from the rounded integer is then exact, and a value past the largest
   finite one becomes infinity. -/
namespace RequestFirewall.Decimal

def leadBit (num den : Nat) : Int :=
  let e0 : Int := (Nat.log2 num : Int) - Nat.log2 den
  -- num / den lies in [2^(e0-1), 2^(e0+1)); one comparison settles which half
  if num * Nat.pow 2 (-e0).toNat < den * Nat.pow 2 e0.toNat then e0 - 1 else e0

def roundHalfEven (num den : Nat) : Nat :=
  let q := num / den
  let r := num % den
  if 2 * r > den || (2 * r == den && q % 2 == 1) then q + 1 else q

def nearest (num den : Nat) : Float :=
  if num == 0 || den == 0 then 0
  else
    let unit : Int := max (leadBit num den - 52) (-1074)
    let q := roundHalfEven (num * Nat.pow 2 (-unit).toNat) (den * Nat.pow 2 unit.toNat)
    (UInt64.ofNat q).toFloat.scaleB unit

def ofDecimal (digits : Nat) (exp : Int) : Float :=
  nearest (digits * Nat.pow 10 exp.toNat) (Nat.pow 10 (-exp).toNat)

end RequestFirewall.Decimal
