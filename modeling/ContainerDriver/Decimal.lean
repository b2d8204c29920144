/-! Decimal text of a binary floating-point number: the fewest digits that read back as the number,
and among those the nearest. A positive number is `significand * 2 ^ exponent`; the reals that
round to it form an interval around it, and a decimal reads back exactly when it lies in it. The
other way round a literal is the number nearest to it. -/
namespace ContainerDriver.Decimal

/-- A positive finite binary number. `lowest` says that its lower neighbour is only half as far
away as the upper one. -/
structure Binary where
  significand : Nat
  exponent : Int
  lowest : Bool
  deriving DecidableEq, Repr

structure Scientific where
  digits : Nat
  exponent : Int
  deriving DecidableEq, Repr

namespace Binary

def ofBits (bits : Nat) : Binary :=
  let field := bits / Nat.pow 2 52 % 2048
  let fraction := bits % Nat.pow 2 52
  ⟨if field = 0 then fraction else fraction + Nat.pow 2 52, (max field 1 : Nat) - 1075,
   fraction = 0 && field > 1⟩

def value (b : Binary) : Nat := 4 * b.significand
def low (b : Binary) : Nat := b.value - (if b.lowest then 1 else 2)
def high (b : Binary) : Nat := b.value + 2

def scaled (b : Binary) (place : Int) (quarters : Nat) : Nat × Nat :=
  (quarters * Nat.pow 2 (b.exponent - 2).toNat * Nat.pow 10 (-place).toNat,
   Nat.pow 2 (2 - b.exponent).toNat * Nat.pow 10 place.toNat)

def reads (b : Binary) (place : Int) (n : Nat) : Bool :=
  let (low, unit) := b.scaled place b.low
  let (high, _) := b.scaled place b.high
  if b.significand % 2 = 0 then low ≤ n * unit && n * unit ≤ high
  else low < n * unit && n * unit < high

def onGrid (b : Binary) (place : Int) : Option Scientific :=
  let (value, unit) := b.scaled place b.value
  let below := value / unit
  let rest := value % unit
  let downFirst := 2 * rest < unit || (2 * rest == unit && below % 2 == 0)
  let order := if downFirst then [below, below + 1] else [below + 1, below]
  (order.find? fun n => n ≠ 0 && b.reads place n).map (⟨·, place⟩)

def magnitude (b : Binary) : Int :=
  let (value, unit) := b.scaled 0 b.value
  if unit ≤ value then ((Nat.toDigits 10 (value / unit)).length : Int)
  else
    let zeros := (List.range 400).find? fun j => unit ≤ value * Nat.pow 10 (j + 1)
    Int.negOfNat (zeros.getD 400)

def shortest (b : Binary) : Scientific :=
  ((List.range 17).findSome? fun n => b.onGrid (b.magnitude - ((n + 1 : Nat) : Int))).getD ⟨b.significand, 0⟩

end Binary

def trimZeros : Nat → Scientific → Scientific
  | 0, d => d
  | fuel + 1, d =>
    if d.digits ≠ 0 ∧ d.digits % 10 = 0 then trimZeros fuel ⟨d.digits / 10, d.exponent + 1⟩ else d

/-- How a decimal is laid out: positional when its point falls between `least` and `most` digits
from the front, else with an exponent of at least two digits. -/
structure Layout where
  least : Int
  most : Int
  deriving DecidableEq, Repr

def plain : Layout := ⟨-3, 16⟩

def repeated (n : Nat) (c : Char) : String := String.ofList (List.replicate n c)

def Layout.text (layout : Layout) (d : Scientific) : String :=
  let ds := Nat.toDigits 10 d.digits
  let point : Int := ds.length + d.exponent
  if layout.least ≤ point ∧ point ≤ layout.most then
    if point ≤ 0 then "0." ++ repeated (-point).toNat '0' ++ String.ofList ds
    else if (ds.length : Int) ≤ point then
      String.ofList ds ++ repeated (point.toNat - ds.length) '0' ++ ".0"
    else String.ofList (ds.take point.toNat) ++ "." ++ String.ofList (ds.drop point.toNat)
  else
    let e := point - 1
    let es := Nat.toDigits 10 e.natAbs
    let mantissa := if ds.length ≤ 1 then String.ofList ds
      else String.ofList (ds.take 1) ++ "." ++ String.ofList (ds.drop 1)
    mantissa ++ "e" ++ (if e < 0 then "-" else "+") ++ repeated (2 - es.length) '0'
      ++ String.ofList es

def Layout.ofFloat (layout : Layout) (x : Float) : String :=
  if x.isNaN then "nan"
  else
    let bits := x.toBits.toNat
    let sign := if bits ≥ Nat.pow 2 63 then "-" else ""
    let size := bits % Nat.pow 2 63
    if x.isInf then sign ++ "inf"
    else if size = 0 then sign ++ "0.0"
    else sign ++ layout.text (trimZeros 400 (Binary.ofBits size).shortest)

def truncate (x : Float) : Int :=
  let bits := x.toBits.toNat
  let b := Binary.ofBits (bits % Nat.pow 2 63)
  let n : Int := (b.significand * Nat.pow 2 b.exponent.toNat / Nat.pow 2 (-b.exponent).toNat : Nat)
  if bits ≥ Nat.pow 2 63 then -n else n

def nearest (negative : Bool) (digits : Nat) (exponent : Int) : Float :=
  -- Exponents far out of range are settled without computing the power.
  let size : Int := (Nat.toDigits 10 digits).length + exponent
  let x :=
    if digits = 0 ∨ size < -400 then 0.0
    else if 400 < size then 1.0 / 0.0
    else Float.ofScientific digits (exponent < 0) exponent.natAbs
  if negative then -x else x

def notANumber : Float := 0.0 / 0.0
def infinity : Float := 1.0 / 0.0

end ContainerDriver.Decimal
