import ProxyAudit.Text.Decimal

/-!
# Binary floating point numbers

The finite numbers of the format binary64 are the products of a whole number below 2^53 and a
power of two. A decimal text stands for the nearest of them, an exact half for the one with the
even significand. A number is written with the fewest decimal digits that stand for it, in
positional notation.
-/

namespace ProxyAudit

/-- A number of the format binary64; a finite one is its significand times two to the exponent. -/
inductive Binary64 where
  | finite (negative : Bool) (significand : Nat) (exponent : Int)
  | infinite (negative : Bool)
  | notANumber
  deriving DecidableEq, Repr

namespace Binary64

-- ---------------------------------------------------------------------------
-- From decimal
-- ---------------------------------------------------------------------------

/-- The smallest exponent of a finite number. -/
def minExponent : Int := -1074

/-- The whole number nearest to a quotient; an exact half goes to the even one. -/
def roundQuotient (num den : Nat) : Nat :=
  let q := num / den
  let twice := 2 * (num % den)
  if twice < den ∨ (twice = den ∧ q % 2 = 0) then q else q + 1

/-- A quotient divided by a power of two, as a quotient. -/
def scale (num den : Nat) (e : Int) : Nat × Nat :=
  if 0 ≤ e then (num, den * Nat.pow 2 e.toNat) else (num * Nat.pow 2 (-e).toNat, den)

/-- The exponent at which the whole part of a quotient has 53 bits, or the smallest one. -/
def exponentOf (num den : Nat) : Int :=
  let guess : Int := max minExponent ((num.log2 : Int) - den.log2 - 53)
  let (n, d) := scale num den guess
  let bits := (n / d).log2 + 1
  if 53 < bits then guess + (bits - 53 : Nat) else guess

/-- The number nearest to a quotient of whole numbers. -/
def ofQuotient (negative : Bool) (num den : Nat) : Binary64 :=
  if num = 0 then .finite negative 0 0
  else
    let e := exponentOf num den
    let (n, d) := scale num den e
    let m := roundQuotient n d
    let (m, e) := if m = 0x20000000000000 then (0x10000000000000, e + 1) else (m, e)
    if 971 < e then .infinite negative else .finite negative m e

/-- The number nearest to the whole number that some digits spell times a power of ten. Powers
far beyond the range of the format are not computed. -/
def ofDecimal (negative : Bool) (digits : List Nat) (exponent : Int) : Binary64 :=
  let significant := digits.dropWhile (· == 0)
  let n := significant.foldl (10 * · + ·) 0
  let magnitude := exponent + significant.length
  if n = 0 ∨ magnitude < -400 then .finite negative 0 0
  else if 400 < magnitude then .infinite negative
  else if 0 ≤ exponent then ofQuotient negative (n * Nat.pow 10 exponent.toNat) 1
  else ofQuotient negative n (Nat.pow 10 (-exponent).toNat)

-- ---------------------------------------------------------------------------
-- Shortest digits
-- ---------------------------------------------------------------------------

/-- The numbers that round to a given one lie between two ends, here over a common denominator
and with the number itself; the ends count if the significand is even. -/
structure Interval where
  low : Nat
  value : Nat
  high : Nat
  den : Nat
  closed : Bool

/-- The interval of a significand and an exponent, in quarters of the last place. Below a power of
two the neighbour is nearer. -/
def interval (m : Nat) (e : Int) : Interval :=
  let below := if m = 0x10000000000000 ∧ minExponent < e then 1 else 2
  let (value, den) := scale (4 * m) 4 (-e)
  let quarter := value / (4 * m)
  ⟨value - below * quarter, value, value + 2 * quarter, den, m % 2 = 0⟩

/-- A point of a decimal grid lies in an interval. -/
def Interval.holds (i : Interval) (n : Nat) : Bool :=
  if i.closed then i.low ≤ n && n ≤ i.high else i.low < n && n < i.high

/-- The multiple of a power of ten in an interval that is nearest to the value: the number of
times, if there is one among the two neighbours of the value. -/
def Interval.nearest? (i : Interval) (power : Int) : Option Nat :=
  let i := if 0 ≤ power then i else
    let f := Nat.pow 10 (-power).toNat
    { i with low := i.low * f, value := i.value * f, high := i.high * f }
  let step := i.den * Nat.pow 10 power.toNat
  let k := i.value / step
  let rest := i.value % step
  match i.holds (k * step), i.holds ((k + 1) * step) with
  | true, true => some (if 2 * rest ≤ step then k else k + 1)
  | true, false => some k
  | false, true => some (k + 1)
  | false, false => none

/-- The digits and the power of ten of the coarsest grid with a point in the interval, starting
at a power above the value. -/
def Interval.shortest (i : Interval) : Nat → Int → Nat × Int
  | 0, power => (i.value / i.den, power)
  | tries + 1, power =>
    match i.nearest? power with
    | some 0 => i.shortest tries (power - 1)
    | some k => (k, power)
    | none => i.shortest tries (power - 1)

/-- The positional text of digits times a power of ten, with at least one decimal. -/
def positional (digits : Nat) (power : Int) : List Char :=
  let ds := Decimal.ofNat digits
  if 0 ≤ power then ds ++ List.replicate power.toNat '0' ++ ['.', '0']
  else
    let places := (-power).toNat
    if places < ds.length then ds.take (ds.length - places) ++ '.' :: ds.drop (ds.length - places)
    else ['0', '.'] ++ List.replicate (places - ds.length) '0' ++ ds

def text : Binary64 → String
  | finite negative m e =>
    let body :=
      if m = 0 then ['0', '.', '0']
      else
        let i := interval m e
        let top : Int := (Decimal.ofNat (i.value / i.den)).length
        let (digits, power) := i.shortest 700 top
        positional digits power
    String.ofList (if negative then '-' :: body else body)
  | infinite negative => if negative then "-inf" else "inf"
  | notANumber => "NaN"

end Binary64

end ProxyAudit
