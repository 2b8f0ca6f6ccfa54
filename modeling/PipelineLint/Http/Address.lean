import PipelineLint.Http.Domain

/-!
# Numeric addresses

Hosts that are numbers. A four-byte address has one to four parts in decimal, octal or hexadecimal,
of which the last fills what the others leave. A sixteen-byte address has eight pieces in
hexadecimal, of which one run of zeros may be left out and the last two may be written as a
four-byte address.

## Main definitions

* `Http.Address.readFour?`, `Http.Address.showFour` — a four-byte address
* `Http.Address.readSixteen?`, `Http.Address.showSixteen` — a sixteen-byte address
-/

namespace PipelineLint.Http.Address

/-! ## Four bytes -/

/-- The value of a digit in some base up to 16. -/
def digitValue? (base : Nat) (c : Char) : Option Nat :=
  match hexValue? c with
  | some n => if n < base then some n else none
  | none => none

/-- The number that digits denote. -/
def readNumber? (base : Nat) (s : List Char) : Option Nat :=
  s.foldlM (fun n c => (digitValue? base c).map (base * n + ·)) 0

/-- The number that a part denotes; its first characters tell the base. -/
def readPart? : List Char → Option Nat
  | [] => none
  | '0' :: 'x' :: s => readNumber? 16 s
  | '0' :: 'X' :: s => readNumber? 16 s
  | '0' :: c :: s => readNumber? 8 (c :: s)
  | s => readNumber? 10 s

/-- The parts of a name; a point at its end says nothing. -/
def parts (name : List Char) : List (List Char) :=
  let ps := Domain.labels name
  if 1 < ps.length && ps.getLast? == some [] then ps.dropLast else ps

/-- Whether a name can only be meant as an address, because its last part is a number. -/
def endsInNumber (name : List Char) : Bool :=
  match (parts name).getLast? with
  | none => false
  | some [] => false
  | some last =>
    last.all Char.isDigit ||
      match last with
      | '0' :: 'x' :: _ => (readPart? last).isSome
      | '0' :: 'X' :: _ => (readPart? last).isSome
      | _ => false

/-- Puts parts together: all but the last are bytes, and the last is below `bound`. -/
def joinParts? (bound : Nat) : Nat → List Nat → Option Nat
  | value, [] => some value
  | value, [last] => if last < bound then some (value * bound + last) else none
  | value, n :: more => if n < 256 then joinParts? (bound / 256) (256 * value + n) more else none

/-- The four-byte address that a name denotes. -/
def readFour? (name : List Char) : Option Nat :=
  let ps := parts name
  if 4 < ps.length then none
  else
    match ps.mapM readPart? with
    | some ns => joinParts? 0x100000000 0 ns
    | none => none

/-- A four-byte address in its usual form. -/
def showFour (n : Nat) : List Char :=
  List.intercalate ['.'] ([n / 0x1000000 % 256, n / 0x10000 % 256, n / 256 % 256, n % 256].map
    (Nat.toDigits 10))

/-! ## Sixteen bytes -/

/-- The pieces between the colons. -/
def pieces (s : List Char) : List (List Char) := Text.splitAt (· == ':') s

/-- The value of a piece: one to four hexadecimal digits. -/
def readPiece? (s : List Char) : Option Nat :=
  if s.isEmpty || 4 < s.length then none else readNumber? 16 s

/-- The value of a byte written in decimal, without leading zeros. -/
def readByte? (s : List Char) : Option Nat :=
  if s.isEmpty || (1 < s.length && s.head? == some '0') then none
  else
    match readNumber? 10 s with
    | some n => if n < 256 then some n else none
    | none => none

/-- The two pieces that a four-byte address stands for. -/
def readEmbedded? (s : List Char) : Option (List Nat) :=
  match (Domain.labels s).mapM readByte? with
  | some [a, b, c, d] => some [256 * a + b, 256 * c + d]
  | _ => none

/-- The values of pieces, of which the last may be a four-byte address. -/
def readPieces? : List (List Char) → Option (List Nat)
  | [] => some []
  | [last] => if last.contains '.' then readEmbedded? last else (readPiece? last).map ([·])
  | p :: more => do
    let n ← readPiece? p
    let ns ← readPieces? more
    pure (n :: ns)

/-- The pieces on the two sides of the place where zeros are left out. -/
def splitAtGap (s : List Char) : Option (List Char × List Char) :=
  match s with
  | [] => none
  | ':' :: ':' :: rest => some ([], rest)
  | c :: rest => (splitAtGap rest).map fun (left, right) => (c :: left, right)

/-- The values of one side of a gap; a side may be empty. -/
def readSide? (s : List Char) : Option (List Nat) :=
  if s.isEmpty then some [] else readPieces? (pieces s)

/-- The eight pieces of a sixteen-byte address. -/
def readSixteen? (s : List Char) : Option (List Nat) :=
  match splitAtGap s with
  | none =>
    match readSide? s with
    | some ns => if ns.length = 8 then some ns else none
    | none => none
  | some (left, right) =>
    if left.contains '.' then none
    else
      match readSide? left, readSide? right with
      | some l, some r =>
        if l.length + r.length < 8 then
          some (l ++ List.replicate (8 - l.length - r.length) 0 ++ r)
        else none
      | _, _ => none

/-- The length of the run of zeros at the start. -/
def zeroRun (ns : List Nat) : Nat := (ns.takeWhile (· == 0)).length

/-- The start and the length of the longest run of zeros, the first one of equal runs. -/
def longestRun : Nat → List Nat → Nat × Nat
  | start, [] => (start, 0)
  | start, n :: ns =>
    let here := zeroRun (n :: ns)
    let (later, length) := longestRun (start + 1) ns
    if length ≤ here then (start, here) else (later, length)

/-- Pieces with colons between them. -/
def showPieces (ns : List Nat) : List Char := List.intercalate [':'] (ns.map (Nat.toDigits 16))

/-- A sixteen-byte address in its usual form: the first longest run of two or more zeros is left
out. -/
def showSixteen (ns : List Nat) : List Char :=
  let (start, length) := longestRun 0 ns
  if length < 2 then showPieces ns
  else showPieces (ns.take start) ++ [':', ':'] ++ showPieces (ns.drop (start + length))

end PipelineLint.Http.Address
