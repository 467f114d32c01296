/-!
# Double precision numbers

A number with a fraction or an exponent is kept as an IEEE binary64, by its bit pattern, so that it has decidable equality and
everything about it is arithmetic on naturals. `ofRatio` rounds a quotient to the nearest double (a tie goes to the even
significand), `ofDecimal?` is the rule by which a decimal literal is read, and `text` writes the fewest digits that read back.
-/

namespace Switchboard

/-- An IEEE binary64, by its bit pattern: sign, eleven bits of exponent, fifty-two bits of fraction. -/
structure Double where
  bits : UInt64
deriving DecidableEq, Repr, Inhabited

namespace Double

/-- The number of patterns of a fraction, `2 ^ 52`. -/
def fractionSize : Nat := 0x10000000000000

/-- The value of the sign bit in a pattern, `2 ^ 63`. -/
def signBit : Nat := 0x8000000000000000

/-- Whether the sign bit is set; minus zero carries it too. -/
def isNegative (x : Double) : Bool :=
  signBit ≤ x.bits.toNat

/-- The bit pattern without its sign. -/
def magnitude (x : Double) : Nat :=
  x.bits.toNat % signBit

/-- The smallest magnitude that is not a finite number. -/
def infinity : Nat :=
  2047 * fractionSize

def isFinite (x : Double) : Bool :=
  x.magnitude < infinity

def neg (x : Double) : Double :=
  ⟨x.bits ^^^ 0x8000000000000000⟩

/-- The whole number `m` of the value `m * 2 ^ q`. -/
def significand (x : Double) : Nat :=
  let fraction := x.magnitude % fractionSize
  if x.magnitude < fractionSize then fraction else fractionSize + fraction

/-- The exponent `q` of the value `m * 2 ^ q`; `-1074` for zero and for the subnormal numbers. -/
def exponent (x : Double) : Int :=
  (max (x.magnitude / fractionSize) 1 : Nat) - 1075

/-- The quotient rounded to the nearest whole number; a half goes to the even neighbour. -/
def roundDiv (num den : Nat) : Nat :=
  let quotient := num / den
  let twice := 2 * (num % den)
  if twice < den ∨ (twice = den ∧ quotient % 2 = 0) then quotient else quotient + 1

/-- `num / den` as a multiple of `2 ^ q`: the numerator and the denominator of `num / den / 2 ^ q`. -/
def scaled (num den : Nat) (q : Int) : Nat × Nat :=
  (num * Nat.pow 2 (-q).toNat, den * Nat.pow 2 q.toNat)

/-- The double nearest to `num / den`, or the infinity when that is past the largest finite number. -/
def ofRatio (num den : Nat) : Double :=
  if num = 0 then ⟨0⟩ else
    let top : Int := Nat.log2 num - Nat.log2 den - 52
    let first := max top (-1074)
    let (n, d) := scaled num den first
    let q := if n / d < fractionSize then max (first - 1) (-1074) else first
    let (n, d) := scaled num den q
    let pattern := (q + 1074).toNat * fractionSize + roundDiv n d
    ⟨(min pattern infinity).toUInt64⟩

def ofNat (n : Nat) : Double :=
  ofRatio n 1

/-- The value of a double without its sign, as a quotient of naturals. -/
def ratio (x : Double) : Nat × Nat :=
  (x.significand * Nat.pow 2 x.exponent.toNat, Nat.pow 2 (-x.exponent).toNat)

/-- The product of two magnitudes, rounded. -/
def mulMagnitude (x y : Double) : Double :=
  ofRatio (x.ratio.1 * y.ratio.1) (x.ratio.2 * y.ratio.2)

/-- The quotient of two magnitudes, rounded. -/
def divMagnitude (x y : Double) : Double :=
  ofRatio (x.ratio.1 * y.ratio.2) (x.ratio.2 * y.ratio.1)

/-- The largest power of ten by which a literal is scaled in one step. -/
def stepExponent : Nat := 308

/-- Scales down by `10 ^ 308` at most `steps` times until the rest of the exponent fits one step, then by that rest. Three steps
bring every 64-bit significand to zero. -/
def scaleDown : Nat → Double → Nat → Double
  | 0, x, _ => x
  | steps + 1, x, e =>
    if e ≤ stepExponent then x.divMagnitude (ofNat (Nat.pow 10 e))
    else if x.magnitude = 0 then x
    else scaleDown steps (x.divMagnitude (ofNat (Nat.pow 10 stepExponent))) (e - stepExponent)

/-- The magnitude of a literal `significand * 10 ^ e`: the significand is rounded first, then scaled by a rounded power of ten,
so that the last bit may differ from that of the nearest double. A literal past the largest finite number has no value. -/
def ofDecimal? (significand : Nat) (e : Int) : Option Double :=
  let x := ofNat significand
  if e < 0 then some (scaleDown 4 x e.natAbs)
  else if e.natAbs ≤ stepExponent then
    let y := x.mulMagnitude (ofNat (Nat.pow 10 e.natAbs))
    if y.isFinite then some y else none
  else if x.magnitude = 0 then some x
  else none

/-! ## The shortest text -/

/-- The bounds of the numbers that round to a double of significand `m`, in quarters of its last place. -/
def roundingBounds (x : Double) : Nat × Nat :=
  let m := x.significand
  let below := if m = fractionSize ∧ -1074 < x.exponent then 1 else 2
  (4 * m - below, 4 * m + 2)

/-- Whether `c * 10 ^ k` rounds to the double; the bounds themselves do when the significand is even. -/
def readsBack (x : Double) (c : Nat) (k : Int) : Bool :=
  let (lo, hi) := x.roundingBounds
  let q := x.exponent - 2
  let left := c * Nat.pow 10 k.toNat * Nat.pow 2 (-q).toNat
  let unit := Nat.pow 10 (-k).toNat * Nat.pow 2 q.toNat
  if x.significand % 2 = 0 then lo * unit ≤ left ∧ left ≤ hi * unit
  else lo * unit < left ∧ left < hi * unit

/-- The neighbour below the value on the grid of multiples of `10 ^ k`, and twice the distance to it in units of the grid, as a
quotient. -/
def gridBelow (x : Double) (k : Int) : Nat × Nat × Nat :=
  let (n, d) := x.ratio
  let n := n * Nat.pow 10 (-k).toNat
  let d := d * Nat.pow 10 k.toNat
  (n / d, 2 * (n % d), d)

/-- The multiple of `10 ^ k` that rounds to the double: the nearer of the value's two neighbours, the even one of two equally
near. -/
def digitsAt? (x : Double) (k : Int) : Option Nat :=
  let (c, twice, den) := x.gridBelow k
  let nearer := if twice < den ∨ (twice = den ∧ c % 2 = 0) then c else c + 1
  let farther := if nearer = c then c + 1 else c
  if nearer ≠ 0 ∧ x.readsBack nearer k then some nearer
  else if farther ≠ 0 ∧ x.readsBack farther k then some farther
  else none

/-- The first grid, from coarse to fine, with a number that rounds to the double. -/
def shortestFrom (x : Double) : Nat → Int → Nat × Int
  | 0, k => ((x.gridBelow k).1, k)
  | fuel + 1, k =>
    match x.digitsAt? k with
    | some c => (c, k)
    | none => shortestFrom x fuel (k - 1)

/-- The shortest decimal `c * 10 ^ k` that rounds to a positive double. -/
def shortest (x : Double) : Nat × Int :=
  let (n, d) := x.ratio
  let top : Int := (Nat.toDigits 10 n).length - (Nat.toDigits 10 d).length + 1
  shortestFrom x 20 top

/-- The exponents of the first digit that are written without an exponent. -/
structure Layout where
  leastPositional : Int
  greatestPositional : Int
  leastExponentDigits : Nat

/-- A number between a hundred-thousandth and `10 ^ 16` is written positionally; an exponent has a sign and as many digits as it
needs. -/
def layout : Layout := ⟨-5, 15, 1⟩

def padLeft (n : Nat) (c : Char) (s : String) : String :=
  String.ofList (List.replicate (n - s.length) c) ++ s

/-- The text of a positive decimal `c * 10 ^ k`. -/
def positiveText (l : Layout) (c : Nat) (k : Int) : String :=
  let digits := toString c
  let first : Int := k + digits.length - 1
  if l.leastPositional ≤ first ∧ first ≤ l.greatestPositional then
    if 0 ≤ k then digits ++ String.ofList (List.replicate k.toNat '0') ++ ".0"
    else if 0 ≤ first then
      (digits.take (first.toNat + 1)).toString ++ "." ++ (digits.drop (first.toNat + 1)).toString
    else "0." ++ String.ofList (List.replicate (-first - 1).toNat '0') ++ digits
  else
    let mantissa :=
      if digits.length = 1 then digits else (digits.take 1).toString ++ "." ++ (digits.drop 1).toString
    mantissa ++ "e" ++ (if first < 0 then "-" else "+") ++
      padLeft l.leastExponentDigits '0' (toString first.natAbs)

/-- The text of a double: the fewest digits that read back, always with a point or an exponent. -/
def text (x : Double) : String :=
  let body :=
    if x.magnitude = 0 then "0.0"
    else
      let (c, k) := x.shortest
      positiveText layout c k
  if x.isNegative then "-" ++ body else body

end Double

end Switchboard
