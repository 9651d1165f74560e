/-!
# Fixed-point text of a binary fraction

A finite double is exactly a natural number times a power of two.  `Text.fixedPoint` writes that
exact value with a given number of decimal places; a value halfway between two neighbours goes to
the one whose last digit is even.
-/

namespace BlockHeap

namespace Text

/-- The quotient rounded to the nearest natural number, a half to the even neighbour. -/
def roundDiv (num den : Nat) : Nat :=
  let quotient := num / den
  let twice := 2 * (num % den)
  if twice < den then quotient
  else if den < twice then quotient + 1
  else quotient + quotient % 2

/-- A non-negative double as numerator and denominator of the fraction it is. -/
def fractionOf (x : Float) : Nat × Nat :=
  let bits := x.toBits.toNat
  let unit := 1 <<< 52
  let exponent := bits / unit % 0x800
  let mantissa := bits % unit
  if exponent = 0 then (mantissa, 1 <<< 1074)
  else if 1075 ≤ exponent then ((unit + mantissa) <<< (exponent - 1075), 1)
  else (unit + mantissa, 1 <<< (1075 - exponent))

/-- A fraction with the given number of decimal places, at least one. -/
def fixedPointOf (places num den : Nat) : String :=
  let unit := Nat.pow 10 places
  let scaled := roundDiv (num * unit) den
  let fraction := toString (scaled % unit)
  toString (scaled / unit) ++ "."
    ++ String.ofList (List.replicate (places - fraction.length) '0') ++ fraction

/-- A non-negative double with the given number of decimal places, at least one. -/
def fixedPoint (places : Nat) (x : Float) : String :=
  let (num, den) := fractionOf x
  fixedPointOf places num den

end Text

end BlockHeap
