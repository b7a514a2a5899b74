/-!
# Numerals

Digits as whole numbers in any base, and decimal numerals as doubles.
-/
namespace CleanSql.Number

def digitValue? (c : Char) : Option Nat :=
  if '0' ≤ c ∧ c ≤ '9' then some (c.toNat - '0'.toNat)
  else if 'a' ≤ c ∧ c ≤ 'f' then some (c.toNat - 'a'.toNat + 10)
  else if 'A' ≤ c ∧ c ≤ 'F' then some (c.toNat - 'A'.toNat + 10)
  else none

def natOfDigits? (base : Nat) : List Char → Option Nat
  | [] => none
  | cs => cs.foldlM (fun n c => (digitValue? c).bind fun d =>
      if d < base then some (n * base + d) else none) 0

/-- A decimal numeral: digits, a number of them after the point, and an exponent. -/
structure Numeral where
  negative : Bool
  digits : List Char
  fraction : List Char
  exponent : Int
  deriving DecidableEq, Repr

/-- The double nearest to a numeral; beyond all doubles it is infinite. -/
def Numeral.toFloat (n : Numeral) : Float :=
  let all := n.digits ++ n.fraction
  let significant := all.dropWhile (· = '0')
  let m := (natOfDigits? 10 significant).getD 0
  let e := n.exponent - n.fraction.length
  let magnitude : Float :=
    if m = 0 then 0
    else if e + significant.length > 400 then 1.0 / 0.0
    else if e + significant.length < -400 then 0
    else if e < 0 then Float.ofScientific m true e.natAbs
    else Float.ofScientific m false e.natAbs
  if n.negative then -magnitude else magnitude

end CleanSql.Number
