import ResilientChat.Decimal.Shortest

/-!
How numbers are laid out as text. `plain` writes every digit before and after
the point; `numeral` writes what a JSON document holds, with an exponent outside
the range where the plain form is short.
-/

namespace ResilientChat.Decimal

def Digits.positional (d : Digits) : List Char :=
  let ds := d.text
  if 0 ≤ d.exponent then
    if d.digits = 0 then ['0'] else ds ++ List.replicate d.exponent.toNat '0'
  else
    let places := (-d.exponent).toNat
    if places < ds.length then
      ds.take (ds.length - places) ++ '.' :: ds.drop (ds.length - places)
    else '0' :: '.' :: List.replicate (places - ds.length) '0' ++ ds

/-- One digit before the point and an exponent with its sign. -/
def Digits.scientific (d : Digits) : List Char :=
  let mantissa :=
    match d.text with
    | [] => []
    | [c] => [c]
    | c :: rest => c :: '.' :: rest
  let e := d.leading
  mantissa ++ 'e' :: (if e < 0 then '-' else '+') :: Nat.toDigits 10 e.natAbs

/-- Fewest digits, never an exponent, and no point in a whole number. -/
def Binary.plain : Binary → String
  | .nan => "NaN"
  | .infinite negative => if negative then "-inf" else "inf"
  | .finite negative x =>
    String.ofList ((if negative then ['-'] else []) ++ (x.shortest .upward).positional)

/-- The exponents of the leading digit for which a numeral is written without one. -/
structure PlainRange where
  low : Int
  high : Int
deriving Repr, DecidableEq

namespace PlainRange

def double : PlainRange := ⟨-5, 15⟩

def single : PlainRange := ⟨-6, 12⟩

end PlainRange

/--
Fewest digits; a whole number ends in `.0`; the exponent form is used when the
leading digit stands outside the range. There is no numeral for an infinity or
for NaN.
-/
def Binary.numeral? (range : PlainRange) : Binary → Option String
  | .nan | .infinite _ => none
  | .finite negative x =>
    let d := x.shortest .toEven
    let body :=
      if d.leading < range.low || range.high < d.leading then d.scientific
      else if 0 ≤ d.exponent then d.positional ++ ['.', '0']
      else d.positional
    some (String.ofList ((if negative then ['-'] else []) ++ body))

end ResilientChat.Decimal
