/-!
Binary floating-point numbers taken apart. A finite number is a sign and a
magnitude `significand * 2 ^ exponent`; the magnitude also remembers whether the
next smaller number is only half as far away as the next larger one, which is
what decides how many decimal digits identify it.
-/

namespace ResilientChat.Decimal

def twoTo (n : Nat) : Nat := Nat.pow 2 n

def tenTo (n : Nat) : Nat := Nat.pow 10 n

structure Magnitude where
  significand : Nat
  exponent : Int
  /-- The gap to the next smaller number is half the gap to the next larger one. -/
  narrowBelow : Bool
deriving Repr, DecidableEq

inductive Binary where
  | nan
  | infinite (negative : Bool)
  | finite (negative : Bool) (magnitude : Magnitude)
deriving Repr, DecidableEq

namespace Binary

/-- Reads the fields of an interchange format with the given field widths. -/
def ofFields (fractionBits exponentBits bits : Nat) : Binary :=
  let fraction := bits % twoTo fractionBits
  let biased := bits / twoTo fractionBits % twoTo exponentBits
  let negative := bits / twoTo (fractionBits + exponentBits) % 2 == 1
  let unit : Int := 2 - twoTo (exponentBits - 1) - fractionBits
  if biased = twoTo exponentBits - 1 then
    if fraction = 0 then infinite negative else nan
  else if biased = 0 then
    finite negative ⟨fraction, unit, false⟩
  else
    finite negative
      ⟨twoTo fractionBits + fraction, unit + (biased - 1 : Nat), fraction == 0 && 1 < biased⟩

def ofFloat (x : Float) : Binary := ofFields 52 11 x.toBits.toNat

def ofFloat32 (x : Float32) : Binary := ofFields 23 8 x.toBits.toNat

end Binary

/-- The whole number nearest to the magnitude; a half goes up. -/
def Magnitude.round (x : Magnitude) : Nat :=
  if 0 ≤ x.exponent then x.significand * twoTo x.exponent.toNat
  else (2 * x.significand + twoTo (-x.exponent).toNat) / twoTo ((-x.exponent).toNat + 1)

/-- The natural number nearest to a finite number; none for the others. -/
def Binary.round? : Binary → Option Nat
  | .finite negative x => some (if negative then 0 else x.round)
  | .nan | .infinite _ => none

end ResilientChat.Decimal
