import ResilientChat.Text.Scan

/-!
Numbers read from text. A decimal is rounded to the nearest floating-point
number; integers are read exactly.
-/

namespace ResilientChat.Decimal

open Text

/-- Powers of ten beyond this bound lie outside the range of the numbers. -/
def powerLimit : Int := 400

/--
The floating-point number nearest to `digits * 10 ^ exponent`, infinite when
that is out of range.
-/
def toFloat (digits : Nat) (exponent : Int) : Float :=
  let leading := exponent + (Nat.toDigits 10 digits).length
  if digits = 0 || leading < -powerLimit then 0.0
  else if powerLimit < leading then 1.0 / 0.0
  else Float.ofScientific digits (exponent < 0) exponent.natAbs

def digitsValue (ds : List Char) : Nat :=
  ds.foldl (fun n d => 10 * n + (d.toNat - '0'.toNat)) 0

/-- Digits before and after the point, and an exponent, as one number. -/
def fromParts (whole fraction : List Char) (exponent : Int) : Float :=
  toFloat (digitsValue (whole ++ fraction)) (exponent - fraction.length)

/-- An exponent: a sign that may be left out, then at least one digit. -/
def scanExponent : Scan Int := do
  let negative ← Scan.accept '-'
  unless negative do discard (Scan.accept '+')
  let ds ← Scan.takeWhile1 Char.isDigit
  let n : Int := digitsValue ds
  return if negative then -n else n

/-- Unsigned decimal with a point and an exponent that may both be left out. -/
def scanDecimal : Scan Float := do
  let whole ← Scan.takeWhile Char.isDigit
  let fraction ← if ← Scan.accept '.' then Scan.takeWhile Char.isDigit else pure []
  if whole.isEmpty && fraction.isEmpty then failure
  let exponent ← if (← Scan.acceptIf (·.toLower = 'e')).isSome then scanExponent else pure 0
  return fromParts whole fraction exponent

def scanWordOfFloat (word : String) : Option Float :=
  match word.toLower with
  | "inf" | "infinity" => some (1.0 / 0.0)
  | "nan" => some (0.0 / 0.0)
  | _ => none

/-- A decimal, or `inf`, `infinity` or `nan` in any case, after an optional sign. -/
def float? (s : String) : Option Float :=
  let unsigned (cs : List Char) : Option Float :=
    let body := String.ofList cs
    scanWordOfFloat body <|> Scan.all scanDecimal body
  match s.toList with
  | '-' :: rest => (unsigned rest).map Float.neg
  | '+' :: rest => unsigned rest
  | cs => unsigned cs

/-- Decimal digits and nothing else. -/
def digits? (cs : List Char) : Option Nat :=
  if !cs.isEmpty && cs.all Char.isDigit then some (digitsValue cs) else none

/-- A whole number with a sign that may be left out. -/
def int? (s : String) : Option Int :=
  match s.toList with
  | '-' :: rest => (digits? rest).map fun n => -n
  | '+' :: rest => (digits? rest).map fun n => n
  | cs => (digits? cs).map fun n => n

/-- A whole number from zero on; a plus sign may stand in front. -/
def nat? (s : String) : Option Nat :=
  match s.toList with
  | '+' :: rest => digits? rest
  | cs => digits? cs

end ResilientChat.Decimal
