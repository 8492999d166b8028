/-!
Digits: the numbers that they write in a base of at most sixteen, and hexadecimal
digits for a number.
-/

namespace ResilientChat.Text

def hexDigit? (c : Char) : Option Nat :=
  if c.isDigit then some (c.toNat - '0'.toNat)
  else if 'a' ≤ c ∧ c ≤ 'f' then some (c.toNat - 'a'.toNat + 10)
  else if 'A' ≤ c ∧ c ≤ 'F' then some (c.toNat - 'A'.toNat + 10)
  else none

def isHexDigit (c : Char) : Bool := (hexDigit? c).isSome

/-- The number that hexadecimal digits write; any other character counts as a zero. -/
def hexValue (ds : List Char) : Nat :=
  ds.foldl (fun n d => 16 * n + (hexDigit? d).getD 0) 0

/-- The number that digits write in a base; none without digits or with one beyond the base. -/
def inBase? (base : Nat) (ds : List Char) : Option Nat :=
  if ds.isEmpty then none
  else ds.foldlM (fun n d => ((hexDigit? d).filter (· < base)).map (base * n + ·)) 0

/-- The hexadecimal digits of a number, filled up to `width` with zeros. -/
def hexChars (width n : Nat) : List Char :=
  let ds := Nat.toDigits 16 n
  List.replicate (width - ds.length) '0' ++ ds

end ResilientChat.Text
