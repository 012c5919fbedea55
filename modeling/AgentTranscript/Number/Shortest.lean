import AgentTranscript.Number.Binary64

/-! The shortest decimal text of a double: the fewest digits that lie among the numbers rounding to
it, of these the nearest, and of two equally near the even one. -/
namespace AgentTranscript.Binary64

/-- Decimal digits without trailing zeros, and the power of ten of the first of them. -/
structure Digits where
  digits : List Char
  exponent : Int

/-- The numbers that round to a double, in quarters of a least unit. The ends belong to them
exactly when the significand is even. -/
structure Basin where
  low : Nat
  high : Nat
  closed : Bool

/-- Below a power of two the neighbour is half as far away as above it. -/
def basin (x : Binary64) : Basin :=
  let step := twoTo x.shift
  let narrow := x.significand = twoTo 52 ∧ 0 < x.shift
  { low := 4 * x.units - (if narrow then step else 2 * step)
    high := 4 * x.units + 2 * step
    closed := x.significand % 2 = 0 }

def Basin.holds (b : Basin) (num den : Nat) : Bool :=
  if b.closed then b.low * den ≤ num && num ≤ b.high * den
  else b.low * den < num && num < b.high * den

/-- The power of ten of the first digit of a magnitude other than zero. No double is as small as
`10^-324`, so that many places after the point show it. -/
def leading (x : Binary64) : Int :=
  let places : Nat := 324
  ((Nat.toDigits 10 (x.units * tenTo places / twoTo 1074)).length : Int) - 1 - places

/-- The point of the grid of multiples of `10^unit` that stands for the double, if one does. Only
the two neighbours of the value need looking at. -/
def onGrid (x : Binary64) (unit : Int) : Option Nat :=
  let num := twoTo 1076 * tenTo unit.toNat
  let den := tenTo (-unit).toNat
  let value := 4 * x.units * den
  let below := value / num
  let above := below + 1
  match x.basin.holds (below * num) den, x.basin.holds (above * num) den with
  | false, false => none
  | true, false => some below
  | false, true => some above
  | true, true =>
    let twice := 2 * (value - below * num)
    some (if twice < num then below else if num < twice then above else below + below % 2)

def digitsOf (grid : Nat) (unit : Int) : Digits :=
  let all := Nat.toDigits 10 grid
  { digits := (all.reverse.dropWhile (· == '0')).reverse
    exponent := unit + all.length - 1 }

/-- Seventeen digits always suffice, so the last case is never taken. -/
def shortest (x : Binary64) : Digits :=
  let lead := x.leading
  let grids := (List.range 17).map fun (n : Nat) => lead - (n : Int)
  match grids.findSome? fun unit => (x.onGrid unit).map (digitsOf · unit) with
  | some d => d
  | none => digitsOf x.units 0

/-- Positional from `10^-5` up to below `10^16`, always with a digit on each side of the point;
beyond that scientific, with the sign of the exponent written out. -/
def Digits.text (d : Digits) : List Char :=
  let zeros (n : Nat) := List.replicate n '0'
  if -5 ≤ d.exponent ∧ d.exponent < 0 then
    '0' :: '.' :: (zeros ((-d.exponent).toNat - 1) ++ d.digits)
  else if 0 ≤ d.exponent ∧ d.exponent ≤ 15 then
    let whole := d.exponent.toNat + 1
    let padded := d.digits ++ zeros (whole - d.digits.length)
    let tail := padded.drop whole
    padded.take whole ++ '.' :: (if tail.isEmpty then ['0'] else tail)
  else
    let sign := if d.exponent < 0 then '-' else '+'
    let mantissa := match d.digits with
      | first :: second :: more => first :: '.' :: second :: more
      | short => short
    mantissa ++ 'e' :: sign :: Nat.toDigits 10 d.exponent.natAbs

def text (x : Binary64) : List Char :=
  (if x.negative then ['-'] else []) ++
    if x.isZero then ['0', '.', '0'] else x.shortest.text

end AgentTranscript.Binary64
