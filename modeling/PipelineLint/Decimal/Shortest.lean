/-!
# Shortest decimal digits

The fewest decimal digits that name one floating point number and no other. A number of the form
`m * 2 ^ q` is the one that is read back from every decimal inside its rounding interval, which
reaches half way to each neighbour and has its ends exactly when `m` is even. The digits are
searched for by their count: the first grid of decimals with a point in the interval gives them, and
of two points on one grid the nearer one.

## Main definitions

* `Decimal.Binary` — a positive floating point number, taken apart
* `Decimal.Digits` — a decimal, as digits behind the point and a power of ten
* `Decimal.shortest` — the fewest digits that name a number
-/

namespace PipelineLint.Decimal

/-- The positive number `significand * 2 ^ exponent`. -/
structure Binary where
  significand : Nat
  exponent : Int
  /-- Whether the number below is only half as far away as the number above. -/
  narrowBelow : Bool
  deriving DecidableEq, Repr

/-- The number whose double precision bits are `bits`, sign apart. -/
def Binary.ofBits (bits : Nat) : Binary :=
  let fraction : Nat := bits % 0x10000000000000
  let biased : Nat := bits / 0x10000000000000 % 0x800
  if biased = 0 then ⟨fraction, -1074, false⟩
  else ⟨fraction + 0x10000000000000, (biased : Int) - 1075, fraction = 0 && 1 < biased⟩

/-- The decimal `0.d₁d₂… * 10 ^ point`. -/
structure Digits where
  digits : List Char
  point : Int
  deriving DecidableEq, Repr

/-- A number and the ends of its rounding interval, over one denominator. -/
structure Interval where
  low : Nat
  value : Nat
  high : Nat
  denominator : Nat
  /-- Whether the ends belong to the interval. -/
  closed : Bool

/-- The rounding interval of a number. Quarters of the last place hold its ends. -/
def Binary.interval (b : Binary) : Interval :=
  let up := Nat.pow 2 (b.exponent - 2).toNat
  { low := (4 * b.significand - if b.narrowBelow then 1 else 2) * up
    value := 4 * b.significand * up
    high := (4 * b.significand + 2) * up
    denominator := Nat.pow 2 (2 - b.exponent).toNat
    closed := b.significand % 2 = 0 }

/-- The `point` for which the value lies between `10 ^ (point - 1)` and `10 ^ point`. No double is
below `10 ^ (-400)`. -/
def Interval.point (i : Interval) : Int :=
  (Nat.toDigits 10 (i.value * Nat.pow 10 400 / i.denominator)).length - 400

/-- The nearest point inside the interval on the grid of decimals with `count` digits. -/
def Interval.hit? (i : Interval) (count : Nat) : Option Nat :=
  let shift := (count : Int) - i.point
  let up := Nat.pow 10 shift.toNat
  let unit := i.denominator * Nat.pow 10 (-shift).toNat
  let below := i.value * up / unit
  let inside (n : Nat) : Bool :=
    if i.closed then i.low * up ≤ n * unit && n * unit ≤ i.high * up
    else i.low * up < n * unit && n * unit < i.high * up
  let far := 2 * (i.value * up % unit)
  let preferBelow := far < unit || (far = unit && below % 2 = 0)
  match inside below, inside (below + 1) with
  | true, true => some (if preferBelow then below else below + 1)
  | true, false => some below
  | false, true => some (below + 1)
  | false, false => none

/-- The digits of `n` on the grid of `count` digits, without trailing zeros. -/
def Interval.digitsOf (i : Interval) (count n : Nat) : Digits :=
  let ds := Nat.toDigits 10 n
  ⟨(ds.reverse.dropWhile (· == '0')).reverse, i.point + ((ds.length : Int) - count)⟩

/-- The fewest digits that name the number; seventeen are always enough. -/
def shortest (b : Binary) : Digits :=
  let i := b.interval
  let hits := (List.range' 1 17).filterMap fun count => (i.hit? count).map (i.digitsOf count)
  hits.head?.getD ⟨[], 0⟩

/-- Where a decimal is written with an exponent. -/
structure Layout where
  /-- The least exponent of ten that is written positionally. -/
  least : Int
  /-- The exponent of ten from which the exponent form is used again. -/
  bound : Int

/-- `d` in positional form, with at least one digit on each side of the point. -/
def Digits.positional (d : Digits) : List Char :=
  let whole := d.digits.take d.point.toNat
  let zeros := List.replicate (d.point.toNat - d.digits.length) '0'
  let rest := List.replicate (-d.point).toNat '0' ++ d.digits.drop d.point.toNat
  (if whole.isEmpty then ['0'] else whole ++ zeros) ++ '.' :: (if rest.isEmpty then ['0'] else rest)

/-- `d` with one digit before the point and a signed exponent. -/
def Digits.scientific (d : Digits) : List Char :=
  let rest := d.digits.drop 1
  let exponent := d.point - 1
  d.digits.take 1 ++ (if rest.isEmpty then [] else '.' :: rest)
    ++ ['e', if exponent < 0 then '-' else '+'] ++ Nat.toDigits 10 exponent.natAbs

/-- `d` in the form that `layout` asks for. -/
def Digits.render (layout : Layout) (d : Digits) : List Char :=
  if layout.least ≤ d.point - 1 && d.point - 1 < layout.bound then d.positional else d.scientific

/-- The text of a finite floating point number. -/
def render (layout : Layout) (x : Float) : String :=
  let bits := x.toBits.toNat
  let magnitude := bits % 0x8000000000000000
  let text := if magnitude = 0 then ['0', '.', '0']
    else (shortest (Binary.ofBits magnitude)).render layout
  String.ofList (if bits = magnitude then text else '-' :: text)

end PipelineLint.Decimal
