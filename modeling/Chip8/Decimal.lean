/-! Double-precision numbers and decimals. A finite number is an exact integer of a sign, a mantissa and a power of
two. With a fixed count of places it is rounded to the nearest decimal, and a half goes to the even neighbour.

The shortest decimal is the one with the fewest digits that reads back as the number. All reals within half a
unit of the value read back as it, the two ends only if the mantissa is even. On a grid of powers of ten, one of the
value's two neighbours lies in that interval if any point does, so the coarsest grid with such a neighbour gives the
fewest digits. -/

namespace Chip8.Decimal

structure Binary where
  negative : Bool
  mantissa : Nat
  exponent : Int
deriving DecidableEq, Repr

inductive Reading where
  | finite (b : Binary)
  | infinite (negative : Bool)
  | undefined
deriving DecidableEq, Repr

def Reading.ofBits (bits : Nat) : Reading :=
  let negative : Bool := bits / Nat.pow 2 63 = 1
  let scale : Nat := bits / Nat.pow 2 52 % Nat.pow 2 11
  let fraction : Nat := bits % Nat.pow 2 52
  if scale = 2047 then
    if fraction = 0 then .infinite negative else .undefined
  else if scale = 0 then .finite ⟨negative, fraction, -1074⟩
  else .finite ⟨negative, Nat.pow 2 52 + fraction, (scale : Int) - 1075⟩

def Reading.ofFloat (f : Float) : Reading := .ofBits f.toBits.toNat

namespace Binary

def ratio (b : Binary) : Nat × Nat :=
  if 0 ≤ b.exponent then (b.mantissa * Nat.pow 2 b.exponent.toNat, 1)
  else (b.mantissa, Nat.pow 2 (-b.exponent).toNat)

def truncate (b : Binary) : Int :=
  let (p, q) := b.ratio
  if b.negative then -((p / q : Nat) : Int) else (p / q : Nat)

end Binary

/-- The quotient rounded to the nearest whole number, a half to the even one. -/
def roundDiv (p q : Nat) : Nat :=
  let d := p / q
  let r := p % q
  if 2 * r < q then d
  else if q < 2 * r then d + 1
  else if d % 2 = 0 then d else d + 1

def placed (places n : Nat) : List Char :=
  let ds := Nat.toDigits 10 n
  let ds := List.replicate (places + 1 - ds.length) '0' ++ ds
  ds.take (ds.length - places) ++ '.' :: ds.drop (ds.length - places)

def Binary.fixed (places : Nat) (b : Binary) : List Char :=
  let (p, q) := b.ratio
  let sign := if b.negative then ['-'] else []
  sign ++ placed places (roundDiv (p * Nat.pow 10 places) q)

def fixed (places : Nat) (f : Float) : List Char :=
  match Reading.ofFloat f with
  | .finite b => b.fixed places
  | .infinite negative => if negative then ['-', 'i', 'n', 'f'] else ['i', 'n', 'f']
  | .undefined => ['n', 'a', 'n']

/-- An exact fraction and the interval of fractions over the same denominator that read back as it. -/
structure Interval where
  low : Nat
  value : Nat
  high : Nat
  den : Nat
  closed : Bool
deriving Repr

def Binary.interval (b : Binary) : Interval :=
  let below := if b.mantissa = Nat.pow 2 52 && -1074 < b.exponent then 1 else 2
  let e := b.exponent - 2
  let up := Nat.pow 2 e.toNat
  { low := (4 * b.mantissa - below) * up
    value := 4 * b.mantissa * up
    high := (4 * b.mantissa + 2) * up
    den := Nat.pow 2 (-e).toNat
    closed := b.mantissa % 2 = 0 }

def Interval.holds (i : Interval) (p q : Nat) : Bool :=
  if i.closed then i.low * q ≤ p * i.den && p * i.den ≤ i.high * q
  else i.low * q < p * i.den && p * i.den < i.high * q

def digitCount (n : Nat) : Nat := (Nat.toDigits 10 n).length

def Interval.magnitude (i : Interval) : Int :=
  let m : Int := (digitCount i.value : Int) - digitCount i.den
  let (p, q) := if 0 ≤ m then (1, Nat.pow 10 m.toNat) else (Nat.pow 10 (-m).toNat, 1)
  if i.den * q ≤ i.value * p then m + 1 else m

structure Scientific where
  digits : Nat
  power : Int
deriving Repr, DecidableEq

def Scientific.ratio (s : Scientific) : Nat × Nat :=
  if 0 ≤ s.power then (s.digits * Nat.pow 10 s.power.toNat, 1)
  else (s.digits, Nat.pow 10 (-s.power).toNat)

/-- The better of the value's two neighbours among the decimals with the given power of ten. -/
def Interval.onGrid? (i : Interval) (power : Int) : Option Scientific :=
  let (num, den) :=
    if 0 ≤ power then (i.value, i.den * Nat.pow 10 power.toNat)
    else (i.value * Nat.pow 10 (-power).toNat, i.den)
  let d := num / den
  let below : Scientific := ⟨d, power⟩
  let above : Scientific := ⟨d + 1, power⟩
  let fits (s : Scientific) : Bool := let (p, q) := s.ratio; i.holds p q
  match fits below, fits above with
  | true, true =>
    let r := num % den
    if 2 * r < den || (2 * r = den && d % 2 = 0) then some below else some above
  | true, false => some below
  | false, true => some above
  | false, false => none

def Interval.search (i : Interval) (magnitude : Int) : List Nat → Scientific
  | [] => ⟨0, 0⟩
  | n :: ns => (i.onGrid? (magnitude - n)).getD (i.search magnitude ns)

def dropZeros : Nat → Scientific → Scientific
  | 0, s => s
  | n + 1, s => if s.digits % 10 = 0 then dropZeros n ⟨s.digits / 10, s.power + 1⟩ else s

def Binary.shortest (b : Binary) : Scientific :=
  let i := b.interval
  dropZeros 17 (i.search i.magnitude ((List.range 17).map (· + 1)))

/-- Positional from `10 ^ -4` up to `10 ^ 16`, else with an exponent of at least two digits; a point
stands in every positional number. -/
def Scientific.write (s : Scientific) : List Char :=
  let ds := Nat.toDigits 10 s.digits
  let point : Int := ds.length + s.power
  if -4 < point && point ≤ 16 then
    if 0 < point then
      let n := point.toNat
      if ds.length ≤ n then ds ++ List.replicate (n - ds.length) '0' ++ ['.', '0']
      else ds.take n ++ '.' :: ds.drop n
    else '0' :: '.' :: List.replicate (-point).toNat '0' ++ ds
  else
    let e := point - 1
    let es := Nat.toDigits 10 e.natAbs
    let es := List.replicate (2 - es.length) '0' ++ es
    let mark := if e < 0 then '-' else '+'
    let lead := if ds.length ≤ 1 then ds else ds.take 1 ++ '.' :: ds.drop 1
    lead ++ 'e' :: mark :: es

def Binary.write (b : Binary) : List Char :=
  (if b.negative then ['-'] else []) ++
    if b.mantissa = 0 then ['0', '.', '0'] else b.shortest.write

def shortest (f : Float) : String :=
  match Reading.ofFloat f with
  | .finite b => String.ofList b.write
  | .infinite negative => if negative then "-inf" else "inf"
  | .undefined => "nan"

def nearest (digits : Nat) (power : Int) : Float :=
  let magnitude := (digitCount digits : Int) + power
  if digits = 0 || magnitude < -400 then 0
  else if 400 < magnitude then 1 / 0
  else Float.ofScientific digits (power < 0) power.natAbs

end Chip8.Decimal
