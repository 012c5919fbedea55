/-! Finite binary64 numbers as exact integers. A magnitude is a natural number of least units,
`2^-1074` each, so every operation is one exact quotient rounded once. There are no infinities:
a result too large to be finite is `none`. -/
namespace AgentTranscript

def twoTo (n : Nat) : Nat := Nat.pow 2 n

def tenTo (n : Nat) : Nat := Nat.pow 10 n

/-- A finite double: a sign, and the place of its magnitude among the finite magnitudes in
increasing order, zero first. -/
structure Binary64 where
  negative : Bool
  place : Nat
  finite : place < 2047 * twoTo 52

namespace Binary64

def significand (x : Binary64) : Nat :=
  if x.place < twoTo 52 then x.place else twoTo 52 + x.place % twoTo 52

def shift (x : Binary64) : Nat := x.place / twoTo 52 - 1

def units (x : Binary64) : Nat := x.significand * twoTo x.shift

def isZero (x : Binary64) : Bool := x.place == 0

instance : BEq Binary64 where
  beq x y := x.place == y.place && (x.negative == y.negative || x.isZero)

theorem beq_self (x : Binary64) : (x == x) = true := by
  simp [BEq.beq, isZero]

def nearest (num den : Nat) : Nat :=
  let q := num / den
  let twice := 2 * (num % den)
  if twice < den then q else if den < twice then q + 1 else q + q % 2

/-- The double nearest to `num / den`, ties to an even significand. The significand gets 53 bits
wherever the magnitude allows them; a carry out of them is the next place and needs no case. -/
@[irreducible] def ofRatio (negative : Bool) (num den : Nat) : Option Binary64 :=
  let scaled := twoTo 1074 * num
  let shift := (scaled / den).log2 - 52
  let place := twoTo 52 * shift + nearest scaled (twoTo shift * den)
  if h : place < 2047 * twoTo 52 then some ⟨negative, place, h⟩ else none

def zero (negative : Bool) : Binary64 := ⟨negative, 0, by decide⟩

def ofNat (n : Nat) : Option Binary64 := ofRatio false n 1

def mul (x y : Binary64) : Option Binary64 :=
  ofRatio (x.negative ^^ y.negative) (x.units * y.units) (twoTo 1074 * twoTo 1074)

def div (x y : Binary64) : Option Binary64 :=
  ofRatio (x.negative ^^ y.negative) x.units y.units

def withSign (negative : Bool) (x : Binary64) : Binary64 := { x with negative }

def toInt? (x : Binary64) : Option Int :=
  if x.units % twoTo 1074 = 0 then
    let n : Int := (x.units / twoTo 1074 : Nat)
    some (if x.negative then -n else n)
  else none

/-- One rounded division by a power of ten that is itself rounded. -/
def overTen (places : Nat) (x : Binary64) : Option Binary64 :=
  (ofNat (tenTo places)).bind x.div

/-- Divides by `10^308` so many times, then by `10^last`. Zero stays zero, so nothing is left to do
there. -/
def shrink (last : Nat) : Nat → Binary64 → Option Binary64
  | 0, x => x.overTen last
  | more + 1, x => if x.isZero then some x else (x.overTen 308).bind (shrink last more)

/-- The value of `significand · 10^exponent`, computed from the rounded significand and the rounded
power of ten, so not always the nearest double. `none` when it is too large. -/
def ofDecimal (significand : Nat) (exponent : Int) : Option Binary64 := do
  let x ← ofNat significand
  match exponent with
  | .ofNat e =>
    if e ≤ 308 then (ofNat (tenTo e)).bind x.mul
    else if x.isZero then some x
    else none
  | .negSucc e => x.shrink (e % 308 + 1) (e / 308)

end Binary64
end AgentTranscript
