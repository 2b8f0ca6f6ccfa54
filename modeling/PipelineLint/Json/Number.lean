import PipelineLint.Json.Failure
import PipelineLint.Decimal.Shortest

/-!
# JSON numbers

A number that is kept is a 64 bit integer where it is written as one and fits, and a double
otherwise. The double is computed from the digits that fit 64 bits by one multiplication with or
division by a power of ten, and a number too large for it is refused. A number that is skipped is
only checked for its grammar.

## Main definitions

* `Json.Number` — a number that was read, and how it is described
* `Json.readNumber` — a number that is kept
* `Json.skipNumber` — the rest of the text behind a number that is skipped
-/

namespace PipelineLint.Json

/-- A number. -/
inductive Number where
  /-- A whole number from 0 that fits 64 bits. -/
  | natural (n : Nat)
  /-- The number `-n`, below 0, that fits 64 bits with its sign. -/
  | negative (n : Nat)
  /-- Any other number. -/
  | float (x : Float)

/-- Numbers from 1e16, and those below 1e-5, are described with an exponent. -/
def Number.layout : Decimal.Layout := ⟨-5, 16⟩

/-- How a number is described where another kind of value was expected. -/
def Number.describe : Number → String
  | .natural n => s!"integer `{n}`"
  | .negative n => s!"integer `-{n}`"
  | .float x => s!"floating point `{Decimal.render layout x}`"

/-- The bound on the digits that are kept exactly: what 64 bits hold. -/
def significandBound : Nat := 0x10000000000000000

/-- From this exponent on, its sign alone decides whether a number is too large or zero. -/
def exponentBound : Nat := 0x80000000

/-- Whether `s` starts with a digit. -/
def startsWithDigit : List Char → Bool
  | c :: _ => c.isDigit
  | [] => false

/-- Takes digits behind the value `n` while it stays below `bound`. Returns the value, the number of
digits taken, and the rest. -/
def absorb (bound n : Nat) : List Char → Nat × Nat × List Char
  | [] => (n, 0, [])
  | c :: s =>
    let more := 10 * n + (c.toNat - 0x30)
    if c.isDigit && more < bound then
      let (total, count, rest) := absorb bound more s
      (total, count + 1, rest)
    else (n, 0, c :: s)

/-! ## Doubles -/

/-- The greatest power of ten that a double holds. -/
def greatestPower : Nat := 308

/-- The double `10 ^ n`, for `n` up to `greatestPower`. -/
def powerOfTen (n : Nat) : Float := Float.ofScientific 1 false n

/-- `x / 10 ^ n` in steps that a double can take. From any 64 bit number two large steps reach
zero, so three steps are always enough. -/
def divideByPower (x : Float) (n : Nat) : Nat → Float
  | 0 => x
  | steps + 1 =>
    if n ≤ greatestPower then x / powerOfTen n
    else if x == 0 then x
    else divideByPower (x / powerOfTen greatestPower) (n - greatestPower) steps

/-- The double `significand * 10 ^ exponent`, unless it is too large. -/
def scale? (significand : Nat) (exponent : Int) : Option Float :=
  let x := Float.ofNat significand
  if exponent < 0 then some (divideByPower x exponent.natAbs 3)
  else if exponent.toNat ≤ greatestPower then
    let y := x * powerOfTen exponent.toNat
    if y.isInf then none else some y
  else if significand = 0 then some x
  else none

/-! ## Numbers that are kept -/

/-- The double `significand * 10 ^ exponent` with its sign, when a number ends before `rest`. -/
def finishFloat (negative : Bool) (significand : Nat) (exponent : Int) : Reader Number :=
  fun rest =>
  match scale? significand exponent with
  | some x => .ok (.float (if negative then -x else x), rest)
  | none => .error (.here .numberTooLarge rest)

/-- Takes the sign of an exponent; `true` stands for a minus. -/
def takeSign : List Char → Bool × List Char
  | '+' :: s => (false, s)
  | '-' :: s => (true, s)
  | s => (false, s)

/-- Reads on behind the `e` of a number. -/
def readExponent (negative : Bool) (significand : Nat) (exponent : Int) : Reader Number := fun s =>
  let (down, s) := takeSign s
  match s with
  | [] => .error (.here .endInValue [])
  | c :: t =>
    if !c.isDigit then .error (.next .badNumber (c :: t))
    else
      let (n, _, rest) := absorb exponentBound 0 (c :: t)
      if !startsWithDigit rest then
        finishFloat negative significand (if down then exponent - n else exponent + n) rest
      else if significand != 0 && !down then .error (.here .numberTooLarge (rest.drop 1))
      else .ok (.float (if negative then -0.0 else 0.0), rest.dropWhile Char.isDigit)

/-- Reads on behind the digits of a fraction. -/
def readAfterFraction (negative : Bool) (significand : Nat) (exponent : Int) : Reader Number
  | 'e' :: s => readExponent negative significand exponent s
  | 'E' :: s => readExponent negative significand exponent s
  | s => finishFloat negative significand exponent s

/-- Reads on behind the point of a number. Digits that no longer fit are left out. -/
def readFraction (negative : Bool) (significand : Nat) (exponent : Int) : Reader Number := fun s =>
  let (significand, count, rest) := absorb significandBound significand s
  if startsWithDigit rest then
    readAfterFraction negative significand (exponent - count) (rest.dropWhile Char.isDigit)
  else if count = 0 then
    .error (.next (if rest.isEmpty then .endInValue else .badNumber) rest)
  else readAfterFraction negative significand (exponent - count) rest

/-- The whole number with the given sign, when a number ends before `rest`. -/
def finishWhole (negative : Bool) (n : Nat) : Reader Number := fun rest =>
  if !negative then .ok (.natural n, rest)
  else if 1 ≤ n ∧ n ≤ 0x8000000000000000 then .ok (.negative n, rest)
  else .ok (.float (-(Float.ofNat n)), rest)

/-- Reads a number behind its minus sign, if it has one. -/
def readNumber (negative : Bool) : Reader Number
  | [] => .error (.here .endInValue [])
  | c :: s =>
    if !c.isDigit then .error (.next .badNumber (c :: s))
    else if c = '0' && startsWithDigit s then .error (.next .badNumber s)
    else
      let (significand, _, rest) := absorb significandBound 0 (c :: s)
      let exponent := (rest.takeWhile Char.isDigit).length
      match rest.dropWhile Char.isDigit with
      | '.' :: t => readFraction negative significand exponent t
      | 'e' :: t => readExponent negative significand exponent t
      | 'E' :: t => readExponent negative significand exponent t
      | t =>
        if startsWithDigit rest then finishFloat negative significand exponent t
        else finishWhole negative significand t

/-! ## Numbers that are skipped -/

/-- Skips the digits of an exponent, behind its `e`. -/
def skipExponent (s : List Char) : Except Failure (List Char) :=
  let (_, s) := takeSign s
  if startsWithDigit s then .ok (s.dropWhile Char.isDigit) else .error (.next .badNumber s)

/-- Skips an exponent, if there is one. -/
def skipAfterFraction : List Char → Except Failure (List Char)
  | 'e' :: s => skipExponent s
  | 'E' :: s => skipExponent s
  | s => .ok s

/-- Skips a number behind its minus sign, if it has one. -/
def skipNumber : List Char → Except Failure (List Char)
  | [] => .error (.next .badNumber [])
  | c :: s =>
    if !c.isDigit then .error (.next .badNumber (c :: s))
    else if c = '0' && startsWithDigit s then .error (.next .badNumber s)
    else
      match s.dropWhile Char.isDigit with
      | '.' :: t =>
        if startsWithDigit t then skipAfterFraction (t.dropWhile Char.isDigit)
        else .error (.next .badNumber t)
      | t => skipAfterFraction t

end PipelineLint.Json
