/- Shortest decimals of binary64 values, written positionally. A finite value m·2^q stands for
   the interval of reals that round to it (ends included when m is even); the printed decimal
   is the one with the fewest significant digits inside that interval, the nearer of two
   candidates on the same grid, and the upper one on an exact tie. The plain text never uses
   an exponent: small values get leading zeros after `0.`, large ones trailing zeros. The
   compact text writes values from 10^-5 up to 10^16 positionally and the others as a
   mantissa with one digit before the point and a signed exponent. -/
namespace RequestFirewall.Decimal

structure Binary where
  m : Nat
  q : Int
  narrowBelow : Bool

def Binary.ofBits (b : UInt64) : Binary :=
  let e := ((b >>> 52) &&& 0x7FF).toNat
  let f := (b &&& 0xFFFFFFFFFFFFF).toNat
  if e == 0 then ⟨f, -1074, false⟩ else ⟨Nat.pow 2 52 + f, (e : Int) - 1075, f == 0 && e > 1⟩

structure Dec where
  digits : Nat
  exp : Int
  deriving Repr, DecidableEq

def cmpScaled (a : Nat) (i : Int) (n : Nat) (j : Int) : Ordering :=
  compare (a * Nat.pow 10 i.toNat * Nat.pow 2 (-j).toNat) (n * Nat.pow 2 j.toNat * Nat.pow 10 (-i).toNat)

def Binary.readsBack (x : Binary) (d : Dec) : Bool :=
  let lo := if x.narrowBelow then 4 * x.m - 1 else 4 * x.m - 2
  let hi := 4 * x.m + 2
  let incl := x.m % 2 == 0
  let cl := cmpScaled d.digits d.exp lo (x.q - 2)
  let ch := cmpScaled d.digits d.exp hi (x.q - 2)
  (cl == .gt || (incl && cl == .eq)) && (ch == .lt || (incl && ch == .eq))

/-- The exponent of the leading decimal digit of a positive value: `10^L ≤ m·2^q < 10^(L+1)`.
    It is found near the estimate from the binary exponent. -/
def Binary.leadExp (x : Binary) : Int :=
  let est : Int := ((Nat.log2 x.m : Int) + x.q) * 30103 / 100000
  let fits (l : Int) : Bool := cmpScaled 1 l x.m x.q != .gt && cmpScaled 1 (l + 1) x.m x.q == .gt
  match [est - 2, est - 1, est, est + 1, est + 2].find? fits with
  | some l => l
  | none => est

def Binary.floorOn (x : Binary) (k : Int) : Nat :=
  (x.m * Nat.pow 2 x.q.toNat * Nat.pow 10 (-k).toNat) / (Nat.pow 2 (-x.q).toNat * Nat.pow 10 k.toNat)

/-- The value's neighbour on the grid of `n` significant digits that reads back, if any:
    the nearer one when both do, the upper one on an exact tie. -/
def Binary.onGrid (x : Binary) (n : Nat) : Option Dec :=
  let k := x.leadExp - n + 1
  let d := x.floorOn k
  let lower : Dec := ⟨d, k⟩
  let upper : Dec := ⟨d + 1, k⟩
  match x.readsBack lower, x.readsBack upper with
  | true, true => if cmpScaled (2 * d + 1) k (2 * x.m) x.q == .gt then some lower else some upper
  | true, false => some lower
  | false, true => some upper
  | false, false => none

def Dec.trim (d : Dec) : Dec :=
  (List.range 20).foldl
    (fun (acc : Dec) _ => if acc.digits ≠ 0 && acc.digits % 10 == 0 then ⟨acc.digits / 10, acc.exp + 1⟩ else acc)
    d

def Binary.shortest (x : Binary) : Dec :=
  match (List.range 17).findSome? (fun i => x.onGrid (i + 1)) with
  | some d => d.trim
  | none => (⟨x.floorOn (x.leadExp - 16), x.leadExp - 16⟩ : Dec).trim

def Dec.positional (d : Dec) : String :=
  let s := Nat.repr d.digits
  if 0 ≤ d.exp then s ++ String.ofList (List.replicate d.exp.toNat '0')
  else
    let p : Int := s.length + d.exp
    if 0 < p then String.ofList (s.toList.take p.toNat) ++ "." ++ String.ofList (s.toList.drop p.toNat)
    else "0." ++ String.ofList (List.replicate (-p).toNat '0') ++ s

/-- Shortest positional text of a binary64 value: `NaN`, `inf` and `-inf` for the
    non-finite ones, `0` and `-0` for the zeros. -/
def plain (f : Float) : String :=
  let b := f.toBits
  let sign := if b >>> 63 == 1 then "-" else ""
  let e := (b >>> 52) &&& 0x7FF
  let frac := b &&& 0xFFFFFFFFFFFFF
  if e == 0x7FF then (if frac == 0 then sign ++ "inf" else "NaN")
  else if e == 0 && frac == 0 then sign ++ "0"
  else sign ++ (Binary.ofBits b).shortest.positional

/-- Shortest positional text with `.0` added when it shows no point, so that a float never
    reads as an integer. Non-finite values stay as `plain` writes them. -/
def withPoint (f : Float) : String :=
  let s := plain f
  if f.isFinite && !s.contains '.' then s ++ ".0" else s

/-- Text of a decimal with an exponent outside `[-5, 16)` for its leading digit: `1e+16`,
    `1.5e-7`; positionally inside it, with `.0` on whole numbers. -/
def Dec.compact (d : Dec) : String :=
  let s := Nat.repr d.digits
  let n : Int := s.length
  let point := n + d.exp
  if 0 ≤ d.exp && point ≤ 16 then s ++ String.ofList (List.replicate d.exp.toNat '0') ++ ".0"
  else if 0 < point && point ≤ 16 then
    String.ofList (s.toList.take point.toNat) ++ "." ++ String.ofList (s.toList.drop point.toNat)
  else if -5 < point && point ≤ 0 then "0." ++ String.ofList (List.replicate (-point).toNat '0') ++ s
  else
    let e := point - 1
    let mantissa := match s.toList with
      | [c] => c.toString
      | c :: rest => c.toString ++ "." ++ String.ofList rest
      | [] => "0"
    mantissa ++ "e" ++ (if e < 0 then "-" else "+") ++ Nat.repr e.natAbs

/-- Shortest text of a binary64 value in the compact layout: `0.0` and `-0.0` for the zeros,
    `NaN`, `inf` and `-inf` for the non-finite values. -/
def compact (f : Float) : String :=
  let b := f.toBits
  let sign := if b >>> 63 == 1 then "-" else ""
  let e := (b >>> 52) &&& 0x7FF
  let frac := b &&& 0xFFFFFFFFFFFFF
  if e == 0x7FF then (if frac == 0 then sign ++ "inf" else "NaN")
  else if e == 0 && frac == 0 then sign ++ "0.0"
  else sign ++ (Binary.ofBits b).shortest.compact

end RequestFirewall.Decimal
