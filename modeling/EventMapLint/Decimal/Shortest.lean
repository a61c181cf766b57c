/-! The shortest decimal that reads back as a given binary double. A positive double is `significand * 2 ^ scale`;
the numbers that round to it form an interval around it, whose ends belong to it when the significand is even.
For one digit, two digits and so on the two decimals beside the value on that grid are tried in exact arithmetic:
the first grid with a hit decides, and of two hits the nearer one. -/

namespace EventMapLint.Decimal

/-- A positive binary double, with the distance to its lower neighbour halved if that one is closer. -/
structure Binary where
  significand : Nat
  scale : Int
  closerBelow : Bool
  deriving DecidableEq, Repr

/-- Decimal digits `d₁d₂…` and a power of ten, standing for `d₁.d₂… * 10 ^ exponent`. -/
structure Digits where
  digits : List Nat
  exponent : Int
  deriving DecidableEq, Repr

/-- The magnitude in the bits of a finite double, or nothing for zero. -/
def Binary.ofBits? (bits : Nat) : Option Binary :=
  let exponent : Nat := bits / Nat.pow 2 52 % Nat.pow 2 11
  let fraction : Nat := bits % Nat.pow 2 52
  if exponent = 0 then
    if fraction = 0 then none else some ⟨fraction, -1074, false⟩
  else some ⟨Nat.pow 2 52 + fraction, (exponent : Int) - 1075, fraction = 0 && exponent > 1⟩

namespace Shortest

/-- A value and the ends of its interval as numerators over the common denominator `den`. -/
structure Interval where
  low : Nat
  value : Nat
  high : Nat
  den : Nat
  closed : Bool

/-- The interval of the numbers that round to `b`, in units of `10 ^ -grid`. -/
def Interval.ofBinary (b : Binary) (grid : Int) : Interval :=
  let den := 4 * Nat.pow 2 (-b.scale).toNat * Nat.pow 10 (-grid).toNat
  let unit := Nat.pow 2 b.scale.toNat * Nat.pow 10 grid.toNat
  ⟨(4 * b.significand - if b.closerBelow then 1 else 2) * unit, 4 * b.significand * unit,
    (4 * b.significand + 2) * unit, den, b.significand % 2 = 0⟩

def Interval.contains (s : Interval) (n : Nat) : Bool :=
  if s.closed then s.low ≤ n * s.den && n * s.den ≤ s.high else s.low < n * s.den && n * s.den < s.high

/-- The point of the grid that reads back, if there is one: of the two beside the value the nearer one, and
the even one when both are as near. -/
def Interval.nearest? (s : Interval) : Option Nat :=
  let below := s.value / s.den
  match s.contains below && below != 0, s.contains (below + 1) with
  | true, false => some below
  | false, true => some (below + 1)
  | false, false => none
  | true, true =>
      let down := 2 * (s.value - below * s.den)
      if down < s.den then some below
      else if s.den < down then some (below + 1)
      else if below % 2 = 0 then some below
      else some (below + 1)

/-- Tries finer and finer grids, the coarsest in steps of `10 ^ exponent`, and gives the point and its grid. -/
def search (b : Binary) (exponent : Int) : (tries places : Nat) → Nat × Int
  | 0, places => (0, places - exponent)
  | tries + 1, places =>
      match (Interval.ofBinary b (places - exponent)).nearest? with
      | some n => (n, places - exponent)
      | none => search b exponent tries (places + 1)

/-- The greatest power of ten that is at most the value, looked for from above. -/
def magnitude (b : Binary) : (tries : Nat) → Int → Int
  | 0, exponent => exponent
  | tries + 1, exponent =>
      let s := Interval.ofBinary b (-exponent)
      if s.den ≤ s.value then exponent else magnitude b tries (exponent - 1)

def dropZeros (digits : List Nat) : List Nat := (digits.reverse.dropWhile (· = 0)).reverse

end Shortest

/-- The shortest digits that read back as `b`. -/
def Binary.shortest (b : Binary) : Digits :=
  let top := Shortest.magnitude b 640 309
  let (n, grid) := Shortest.search b top 18 0
  let digits := (Nat.toDigits 10 n).map fun c => c.toNat - '0'.toNat
  ⟨Shortest.dropZeros digits, digits.length - 1 - grid⟩

/-- How a decimal is laid out: positionally for exponents from `least` up to but without `most`, always with a
point, and otherwise with one digit before the point and a signed exponent. -/
structure Layout where
  least : Int
  most : Int
  deriving DecidableEq, Repr

def digitText (digits : List Nat) : String := String.ofList (digits.map fun d => Char.ofNat ('0'.toNat + d))

def zeros (count : Nat) : String := String.ofList (List.replicate count '0')

def Digits.positional (d : Digits) : String :=
  if d.exponent < 0 then "0." ++ zeros (-d.exponent - 1).toNat ++ digitText d.digits
  else
    let whole := d.exponent.toNat + 1
    let fraction := digitText (d.digits.drop whole)
    digitText (d.digits.take whole) ++ zeros (whole - d.digits.length) ++ "." ++
      if fraction.isEmpty then "0" else fraction

def Digits.scientific (d : Digits) : String :=
  let fraction := digitText (d.digits.drop 1)
  digitText (d.digits.take 1) ++ (if fraction.isEmpty then "" else "." ++ fraction) ++ "e" ++
    (if d.exponent < 0 then "-" else "+") ++ toString d.exponent.natAbs

def Digits.layout (d : Digits) (layout : Layout) : String :=
  if layout.least ≤ d.exponent && d.exponent < layout.most then d.positional else d.scientific

/-- The text of a finite double, with a sign also on a negative zero. -/
def text (layout : Layout) (value : Float) : String :=
  let bits := value.toBits.toNat
  (if Nat.pow 2 63 ≤ bits then "-" else "") ++
    match Binary.ofBits? (bits % Nat.pow 2 63) with
    | none => "0.0"
    | some b => b.shortest.layout layout

end EventMapLint.Decimal
