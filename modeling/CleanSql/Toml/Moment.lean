import CleanSql.Number.Numeral
import CleanSql.Toml.Fault

/-!
# Dates and times

Whether a scalar is a date, a time, or both with an offset. What it stands for is never needed.
-/
namespace CleanSql.Toml

inductive MomentPart where
  | digits (text : List Char)
  | sign (c : Char)
  deriving DecidableEq, Repr

def momentParts : List Char → List MomentPart
  | [] => []
  | c :: rest =>
    if c.isDigit then
      match momentParts rest with
      | .digits ds :: parts => .digits (c :: ds) :: parts
      | parts => .digits [c] :: parts
    else .sign c :: momentParts rest

/-- A number with a fixed count of digits. -/
structure MomentField where
  size : Nat
  least : Nat
  most : Nat
  /-- The words for the field and for its digits. -/
  name : String
  shape : String

namespace MomentField

def month : MomentField := ⟨2, 1, 12, "month", "a two-digit month (MM)"⟩
def day (most : Nat) : MomentField := ⟨2, 1, most, "day", "a two-digit day (DD)"⟩
def hour : MomentField := ⟨2, 0, 23, "hour", "a two-digit hour (HH)"⟩
def minute : MomentField := ⟨2, 0, 59, "minute", "a two-digit minute (MM)"⟩
def second : MomentField := ⟨2, 0, 60, "second", "a two-digit second (SS)"⟩

def twoDigits (n : Nat) : String := if n < 10 then "0" ++ toString n else toString n

def range (f : MomentField) : String :=
  f.name ++ " between " ++ twoDigits f.least ++ " and " ++ twoDigits f.most

/-- What is expected where a field is not as it should be. -/
def fault? (f : MomentField) (digits : List Char) : Option String :=
  if digits.length ≠ f.size then some f.shape
  else
    match Number.natOfDigits? 10 digits with
    | some n => if f.least ≤ n ∧ n ≤ f.most then none else some f.range
    | none => some f.range

end MomentField

def isLeapYear (year : Nat) : Bool := year % 4 = 0 && (year % 100 ≠ 0 || year % 400 = 0)

def daysOfMonth (year month : Nat) : Nat :=
  if month = 2 then if isLeapYear year then 29 else 28
  else if [4, 6, 9, 11].contains month then 30
  else 31

def takeDigits (part name : String) : List MomentPart → Except Cause (List Char × List MomentPart)
  | .digits ds :: rest => .ok (ds, rest)
  | _ => .error (.badMoment (some part) (some name))

def takeSign (part : String) (c : Char) (words : String) :
    List MomentPart → Except Cause (List MomentPart)
  | .sign d :: rest =>
    if d = c then .ok rest else .error (.badMoment (some part) (some words))
  | _ => .error (.badMoment (some part) (some words))

def checkField (part : String) (f : MomentField) (digits : List Char) : Except Cause Unit :=
  match f.fault? digits with
  | none => .ok ()
  | some expected => .error (.badMoment (some part) (some expected))

def takeDate (year : List Char) (parts : List MomentPart) : Except Cause (List MomentPart) := do
  let (month, parts) ← takeDigits "date" "month" parts
  let parts ← takeSign "date" '-' "`-` (MM-DD)" parts
  let (day, parts) ← takeDigits "date" "day" parts
  if year.length ≠ 4 then throw (.badMoment (some "date") (some "a four-digit year (YYYY)"))
  checkField "date" .month month
  let value (ds : List Char) : Nat := (Number.natOfDigits? 10 ds).getD 0
  checkField "date" (.day (daysOfMonth (value year) (value month))) day
  pure parts

/-- A time, with seconds and their fraction if they are there. -/
def takeTime (parts : List MomentPart) : Except Cause (List MomentPart) := do
  let (hour, parts) ← takeDigits "time" "hour" parts
  let parts ← takeSign "time" ':' "`:` (HH:MM)" parts
  let (minute, parts) ← takeDigits "time" "minute" parts
  let (second, parts) ← match parts with
    | .sign ':' :: rest => do
      let (second, rest) ← takeDigits "time" "second" rest
      match rest with
      | .sign '.' :: rest => do
        let (_, rest) ← takeDigits "time" "nanosecond" rest
        pure (some second, rest)
      | rest => pure (some second, rest)
    | rest => pure (none, rest)
  checkField "time" .hour hour
  checkField "time" .minute minute
  match second with
  | some ds => checkField "time" .second ds
  | none => pure ()
  pure parts

/-- The distance from the time at the prime meridian. -/
def takeOffset : List MomentPart → Except Cause (List MomentPart)
  | [] => .ok []
  | .sign c :: rest =>
    if c = 'Z' || c = 'z' then .ok rest
    else if c = '+' || c = '-' then do
      let (hour, rest) ← takeDigits "offset" "hour" rest
      let rest ← takeSign "offset" ':' "`:` (HH:MM)" rest
      let (minute, rest) ← takeDigits "offset" "minute" rest
      checkField "offset" .hour hour
      checkField "offset" .minute minute
      pure rest
    else .error (.badMoment (some "offset") (some "`Z`, +OFFSET, -OFFSET"))
  | _ => .error (.badMoment (some "offset") (some "`Z`, +OFFSET, -OFFSET"))

/-- Whether a text is a date, a time or both. -/
def checkMoment (text : List Char) : Except Cause Unit := do
  let parts := momentParts text
  let rest ← match parts with
    | .digits year :: .sign '-' :: rest => do
      match ← takeDate year rest with
      | [] => pure []
      | .sign c :: rest =>
        if c = 'T' || c = 't' || c = ' ' then takeOffset (← takeTime rest)
        else throw (.badMoment (some "date-time") (some "`T` between date and time"))
      | _ => throw (.badMoment (some "date-time") (some "`T` between date and time"))
    | .digits _ :: .sign ':' :: _ => takeTime parts
    | .digits _ :: _ => throw (.badMoment none (some "`-` (YYYY-MM) or `:` (HH:MM)"))
    | _ => throw (.badMoment none (some "year or hour"))
  if rest.isEmpty then pure () else throw (.badMoment none none)

end CleanSql.Toml
