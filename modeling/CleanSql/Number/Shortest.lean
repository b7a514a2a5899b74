/-!
# Shortest decimals

A double is a whole number times a power of two. `shortest` finds the fewest decimal digits that
read back as that double, and of those the nearest to it, in whole-number arithmetic alone.
-/
namespace CleanSql.Number

/-- A finite value: `mantissa * 2 ^ exponent`, of either sign. -/
structure Binary where
  negative : Bool
  mantissa : Nat
  exponent : Int
  deriving DecidableEq, Repr

/-- The decimal `digits * 10 ^ exponent`. -/
structure Decimal where
  digits : Nat
  exponent : Int
  deriving DecidableEq, Repr

/-- The parts of a finite double; none for infinities and what is no number. -/
def Binary.ofBits? (bits : UInt64) : Option Binary :=
  let b : Nat := bits.toNat
  let biased : Nat := b / Nat.pow 2 52 % Nat.pow 2 11
  let fraction : Nat := b % Nat.pow 2 52
  if biased = 2047 then none
  else
    some
      { negative := b / Nat.pow 2 63 = 1
        mantissa := if biased = 0 then fraction else fraction + Nat.pow 2 52
        exponent := if biased = 0 then -1074 else Int.ofNat biased - 1075 }

/-- `n * 2 ^ e` as a quotient of whole numbers. -/
def scaleTwo (n : Nat) (e : Int) : Nat × Nat :=
  if e < 0 then (n, Nat.pow 2 e.natAbs) else (n * Nat.pow 2 e.natAbs, 1)

/-- `n * 10 ^ e` as a quotient of whole numbers. -/
def scaleTen (n : Nat) (e : Int) : Nat × Nat :=
  if e < 0 then (n, Nat.pow 10 e.natAbs) else (n * Nat.pow 10 e.natAbs, 1)

def lessQuotient (a b : Nat × Nat) : Bool := a.1 * b.2 < b.1 * a.2

def distance (a b : Nat × Nat) : Nat × Nat :=
  (((a.1 * b.2 : Nat) - (b.1 * a.2 : Nat) : Int).natAbs, a.2 * b.2)

namespace Binary

/-- Four times the value and the two halfway points around it, all over one power of two. Below
the smallest mantissa of its exponent the lower neighbour is only half as far. -/
def interval (b : Binary) : Nat × Nat × Nat :=
  let below := if b.mantissa = Nat.pow 2 52 && -1074 < b.exponent then 1 else 2
  (4 * b.mantissa - below, 4 * b.mantissa, 4 * b.mantissa + 2)

/-- Whether a decimal reads back as the value: it lies between the halfway points, and on one of
them only if the mantissa is even. -/
def readsBack (b : Binary) (d : Decimal) : Bool :=
  let (low, _, high) := b.interval
  let lowest := scaleTwo low (b.exponent - 2)
  let highest := scaleTwo high (b.exponent - 2)
  let point := scaleTen d.digits d.exponent
  if b.mantissa % 2 = 0 then !lessQuotient point lowest && !lessQuotient highest point
  else lessQuotient lowest point && lessQuotient point highest

/-- The two multiples of `10 ^ e` around the value. -/
def neighbours (b : Binary) (e : Int) : Decimal × Decimal :=
  let value := scaleTwo b.mantissa b.exponent
  let unit := scaleTen 1 e
  let n := value.1 * unit.2 / (value.2 * unit.1)
  (⟨n, e⟩, ⟨n + 1, e⟩)

/-- The nearer of two decimals, and of two equally near ones the one with an even last digit. -/
def nearer (b : Binary) (x y : Decimal) : Decimal :=
  let value := scaleTwo b.mantissa b.exponent
  let dx := distance value (scaleTen x.digits x.exponent)
  let dy := distance value (scaleTen y.digits y.exponent)
  if lessQuotient dx dy then x
  else if lessQuotient dy dx then y
  else if x.digits % 2 = 0 then x
  else y

/-- The best decimal on the grid of `10 ^ e` that reads back. -/
def onGrid? (b : Binary) (e : Int) : Option Decimal :=
  let (x, y) := b.neighbours e
  match b.readsBack x, b.readsBack y with
  | true, true => some (b.nearer x y)
  | true, false => some x
  | false, true => some y
  | false, false => none

def search (b : Binary) : Nat → Int → Option Decimal
  | 0, _ => none
  | fuel + 1, e => (b.onGrid? e).or (search b fuel (e - 1))

/-- The exponent of a power of ten that is not below the value. -/
def topExponent (b : Binary) : Int :=
  let bitLength := (Nat.log2 b.mantissa : Int) + b.exponent + 1
  bitLength * 30103 / 100000 + 1

def dropZeros : Nat → Decimal → Decimal
  | 0, d => d
  | fuel + 1, d =>
    if d.digits ≠ 0 && d.digits % 10 = 0 then dropZeros fuel ⟨d.digits / 10, d.exponent + 1⟩ else d

/-- The shortest decimal that reads back as the absolute value. -/
def shortest (b : Binary) : Decimal :=
  if b.mantissa = 0 then ⟨0, 0⟩
  else dropZeros 20 ((b.search 25 b.topExponent).getD ⟨0, 0⟩)

end Binary

/-- Where a layout leaves the positional form. -/
structure Layout where
  /-- The least and the largest exponent of the first digit that are written positionally. -/
  positional? : Option (Int × Int)
  deriving DecidableEq, Repr

def Layout.plain : Layout := ⟨none⟩

/-- Positional from `0.0001` to below `1e+16`. -/
def Layout.scientific : Layout := ⟨some (-4, 15)⟩

def exponentText (n : Nat) : String :=
  if n < 10 then "0" ++ toString n else toString n

/-- A decimal in a layout, with at least one digit on either side of a positional point. -/
def Layout.write (l : Layout) (negative : Bool) (d : Decimal) : String :=
  let digits := toString d.digits
  let lead : Int := d.exponent + digits.length - 1
  let body :=
    if (match l.positional? with
        | none => true
        | some (least, largest) => d.digits = 0 || (least ≤ lead && lead ≤ largest)) then
      if 0 ≤ d.exponent then digits ++ "".pushn '0' d.exponent.natAbs ++ ".0"
      else
        let places := d.exponent.natAbs
        let padded := "".pushn '0' (places + 1 - digits.length) ++ digits
        let cs := padded.toList
        String.ofList (cs.take (cs.length - places)) ++ "." ++
          String.ofList (cs.drop (cs.length - places))
    else
      let cs := digits.toList
      String.ofList (cs.take 1) ++ (if cs.length ≤ 1 then "" else "." ++ String.ofList (cs.drop 1)) ++
        (if lead < 0 then "e-" else "e+") ++ exponentText lead.natAbs
  (if negative then "-" else "") ++ body

def Layout.writeFloat (l : Layout) (x : Float) : String :=
  match Binary.ofBits? x.toBits with
  | some b => l.write b.negative b.shortest
  | none => if x.isNaN then "NaN" else if x < 0 then "-inf" else "inf"

end CleanSql.Number
