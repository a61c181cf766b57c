/-! Reading a decimal quickly rather than exactly: of its digits as many are taken as fit 64 bits, and the power of
ten is applied in one rounded multiplication or division. The result may miss the nearest double by a little. -/

namespace EventMapLint.Decimal

/-- `significand * 10 ^ exponent`, with further digits of the same number still to come. -/
structure Scaled where
  significand : Nat
  exponent : Int
  deriving DecidableEq, Repr

namespace Scaled

def limit : Nat := Nat.pow 2 64

/-- Takes digits before the point. Once one does not fit, it and all after it only raise the exponent. -/
def wholeDigits (s : Scaled) : List Nat → Scaled
  | [] => s
  | d :: rest =>
      if s.significand * 10 + d < limit then { s with significand := s.significand * 10 + d }.wholeDigits rest
      else { s with exponent := s.exponent + (rest.length + 1) }

/-- Takes digits after the point. Once one does not fit, it and all after it are dropped. -/
def fractionDigits (s : Scaled) : List Nat → Scaled
  | [] => s
  | d :: rest =>
      if s.significand * 10 + d < limit then
        fractionDigits ⟨s.significand * 10 + d, s.exponent - 1⟩ rest
      else s

/-- The double for a number, or nothing where it is too large. A power below `10 ^ -308` takes two divisions, and
nothing is left of a number that would take more. -/
def toFloat? (s : Scaled) : Option Float :=
  let value := s.significand.toUInt64.toFloat
  let power (n : Nat) : Float := OfScientific.ofScientific 1 false n
  if s.significand = 0 then some 0
  else if s.exponent > 308 then none
  else if s.exponent ≥ 0 then
    let scaled := value * power s.exponent.toNat
    if scaled.isInf then none else some scaled
  else if s.exponent ≥ -308 then some (value / power (-s.exponent).toNat)
  else if s.exponent ≥ -616 then some (value / power 308 / power (-s.exponent - 308).toNat)
  else some 0

end Scaled

end EventMapLint.Decimal
