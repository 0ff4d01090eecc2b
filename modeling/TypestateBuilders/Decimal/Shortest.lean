/-!
# Shortest decimals

The shortest decimal that reads back as a given binary floating-point number. A finite number is
`mantissa · 2 ^ exponent` (`Binary`), and the decimals that round to it fill an interval around it,
whose ends belong to it exactly when the mantissa is even. For one digit, two digits and so on, the
two neighbours of the number on the grid of decimals with so many digits are tried in exact
arithmetic (`Binary.decimalOn?`); the first grid with a neighbour in the interval gives the answer,
and of two neighbours the nearer one. Seventeen digits always suffice.
-/

set_option autoImplicit false
set_option relaxedAutoImplicit false

namespace TypestateBuilders.Decimal

/-- The positive number `mantissa · 2 ^ exponent`. -/
structure Binary where
  /-- The mantissa, below `2 ^ 53`. -/
  mantissa : Nat
  /-- The exponent of two. -/
  exponent : Int
  deriving DecidableEq, Repr

/-- The positive number `digits · 10 ^ exponent`. -/
structure Digits where
  /-- The decimal digits, read as one number. -/
  digits : Nat
  /-- The exponent of ten. -/
  exponent : Int
  deriving DecidableEq, Repr

/-- The leading bit of a mantissa, above its 52 bits of fraction. -/
def hiddenBit : Nat :=
  Nat.pow 2 52

/-- The number that the low 63 bits of a floating-point word stand for: a fraction of 52 bits and an
exponent of eleven, with a hidden leading bit unless the exponent is zero. -/
def Binary.ofBits (bits : Nat) : Binary :=
  let fraction : Nat := bits % hiddenBit
  let scale : Nat := bits / hiddenBit % 2048
  if scale = 0 then ⟨fraction, -1074⟩ else ⟨fraction + hiddenBit, (scale : Int) - 1075⟩

/-- A fraction of natural numbers. -/
structure Ratio where
  /-- The numerator. -/
  numerator : Nat
  /-- The denominator. -/
  denominator : Nat

/-- `count · base ^ exponent` as a fraction. -/
def Ratio.scaled (count base : Nat) (exponent : Int) : Ratio :=
  match exponent with
  | .ofNat n => ⟨count * Nat.pow base n, 1⟩
  | .negSucc n => ⟨count, Nat.pow base (n + 1)⟩

/-- The order of fractions with positive denominators. -/
def Ratio.le (x y : Ratio) : Bool :=
  x.numerator * y.denominator ≤ y.numerator * x.denominator

/-- The strict order of fractions with positive denominators. -/
def Ratio.lt (x y : Ratio) : Bool :=
  !y.le x

namespace Binary

/-- The number itself, if it is whole. -/
def whole? (number : Binary) : Option Nat :=
  let ratio := Ratio.scaled number.mantissa 2 number.exponent
  if ratio.numerator % ratio.denominator = 0 then some (ratio.numerator / ratio.denominator)
  else none

/-- The number in quarters of its last place, plus `quarters`. -/
def shifted (number : Binary) (quarters : Int) : Ratio :=
  .scaled ((number.mantissa : Int) * 4 + quarters).toNat 2 (number.exponent - 2)

/-- The lower end of the interval that rounds to the number. Below a power of two the neighbours lie
half as far apart as above it. -/
def lower (number : Binary) : Ratio :=
  number.shifted (if number.mantissa = hiddenBit && number.exponent ≠ -1074 then -1 else -2)

/-- The upper end of the interval that rounds to the number. -/
def upper (number : Binary) : Ratio :=
  number.shifted 2

/-- Whether a decimal rounds to the number. -/
def accepts (number : Binary) (decimal : Digits) : Bool :=
  let value := Ratio.scaled decimal.digits 10 decimal.exponent
  if number.mantissa % 2 = 0 then number.lower.le value && value.le number.upper
  else number.lower.lt value && value.lt number.upper

/-- The largest decimal on the grid `10 ^ exponent` that does not exceed the number. -/
def floorOn (number : Binary) (exponent : Int) : Nat :=
  let value := number.shifted 0
  match exponent with
  | .ofNat n => value.numerator / (value.denominator * Nat.pow 10 n)
  | .negSucc n => value.numerator * Nat.pow 10 (n + 1) / value.denominator

/-- The number of digits in front of the decimal point, negative for zeros behind it. -/
def pointPlace (number : Binary) : Int :=
  ((number.floorOn (-400)).repr.length : Int) - 400

/-- Whether the number lies above the middle between `digits` and its successor on a grid. -/
def aboveMiddle (number : Binary) (decimal : Digits) : Bool :=
  let middle := Ratio.scaled (decimal.digits * 10 + 5) 10 (decimal.exponent - 1)
  let value := number.shifted 0
  middle.lt value || (middle.le value && value.le middle && decimal.digits % 2 = 1)

/-- The neighbour of the number on a grid that rounds to it, the nearer one if both do. -/
def decimalOn? (number : Binary) (exponent : Int) : Option Digits :=
  let below : Digits := ⟨number.floorOn exponent, exponent⟩
  let above : Digits := ⟨below.digits + 1, exponent⟩
  match number.accepts below, number.accepts above with
  | true, true => some (if number.aboveMiddle below then above else below)
  | true, false => some below
  | false, true => some above
  | false, false => none

/-- The shortest decimal that rounds to a positive number. -/
def shortest (number : Binary) : Digits :=
  let place := number.pointPlace
  ((List.range 17).findSome? fun (count : Nat) ↦
    number.decimalOn? (place - ((count : Int) + 1))).getD
      ⟨number.floorOn (place - 17), place - 17⟩

end Binary

/-- How a decimal is laid out: between two places of the decimal point it is written in full, and
otherwise with an exponent of ten. -/
structure Layout where
  /-- The least place of the point that is written in full. -/
  leastPlace : Int
  /-- The greatest place of the point that is written in full. -/
  greatestPlace : Int
  /-- What a whole number gets behind its last digit. -/
  wholeMark : String
  /-- The least number of digits in an exponent. -/
  exponentWidth : Nat

/-- The digits without zeros at their end. -/
def significant (digits : Nat) : List Char :=
  (digits.repr.toList.reverse.dropWhile (· == '0')).reverse

/-- The text of a positive decimal. -/
def Layout.text (layout : Layout) (decimal : Digits) : String :=
  let place : Int := (decimal.digits.repr.length : Int) + decimal.exponent
  let figures := significant decimal.digits
  if layout.leastPlace ≤ place && place ≤ layout.greatestPlace then
    if place ≤ 0 then
      "0." ++ String.ofList (List.replicate (-place).toNat '0' ++ figures)
    else if figures.length ≤ place.toNat then
      String.ofList (figures ++ List.replicate (place.toNat - figures.length) '0') ++
        layout.wholeMark
    else
      String.ofList (figures.take place.toNat) ++ "." ++ String.ofList (figures.drop place.toNat)
  else
    let power := place - 1
    let size := power.natAbs.repr.toList
    let tail := figures.drop 1
    String.ofList (figures.take 1) ++ (if tail.isEmpty then "" else "." ++ String.ofList tail) ++
      "e" ++ (if power < 0 then "-" else "+") ++
      String.ofList (List.replicate (layout.exponentWidth - size.length) '0' ++ size)

/-- The bit of a floating-point word that holds the sign. -/
def signBit : Nat :=
  Nat.pow 2 63

/-- The whole number that a floating-point number is, if it is one. -/
def wholeOf? (number : Float) : Option Int :=
  if number.isNaN || number.isInf then none
  else
    let bits := number.toBits.toNat
    (Binary.ofBits (bits % signBit)).whole?.map fun size ↦
      if signBit ≤ bits then -(size : Int) else size

/-- The text of a floating-point number in a layout. -/
def Layout.floatText (layout : Layout) (number : Float) : String :=
  if number.isNaN then "nan"
  else
    let bits := number.toBits.toNat
    let sign := if signBit ≤ bits then "-" else ""
    if number.isInf then sign ++ "inf"
    else if bits % signBit = 0 then sign ++ "0" ++ layout.wholeMark
    else sign ++ layout.text (Binary.ofBits (bits % signBit)).shortest

end TypestateBuilders.Decimal
