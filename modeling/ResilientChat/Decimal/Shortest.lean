import ResilientChat.Decimal.Binary

/-!
The fewest decimal digits that identify a binary number. The numbers that round
to `x` form an interval around it; the search goes from one digit upwards and
takes the first decimal grid with a point in that interval. Of two grid points
the nearer one is taken; a rule given by the caller settles an exact tie.
-/

namespace ResilientChat.Decimal

/-- Which of two equally near digits is chosen. -/
inductive Tie where
  | toEven
  | upward
deriving Repr, DecidableEq

/-- `digits * 10 ^ exponent`, written with the decimal digits of `digits`. -/
structure Digits where
  digits : Nat
  exponent : Int
deriving Repr, DecidableEq

/-- Drops trailing zeros. The first argument bounds their number. -/
def Digits.strip : Nat → Digits → Digits
  | 0, d => d
  | n + 1, d =>
    if d.digits ≠ 0 ∧ d.digits % 10 = 0 then strip n ⟨d.digits / 10, d.exponent + 1⟩ else d

def Digits.text (d : Digits) : List Char := Nat.toDigits 10 d.digits

def Digits.leading (d : Digits) : Int := d.exponent + (d.text.length - 1 : Nat)

namespace Magnitude

/-- Enough decimal places to see the leading digit of every number of 64 bits. -/
def guardPlaces : Nat := 400

def leading (x : Magnitude) : Int :=
  let scaled :=
    x.significand * twoTo x.exponent.toNat * tenTo guardPlaces / twoTo (-x.exponent).toNat
  (Nat.toDigits 10 scaled).length - 1 - guardPlaces

/--
The point of the grid `10 ^ place` that identifies `x`, if there is one. All
comparisons are between whole numbers: `x` and the ends of its interval are
counted in quarters of the gap above it.
-/
def onGrid (tie : Tie) (x : Magnitude) (place : Int) : Option Digits :=
  let quarter := x.exponent - 2
  let valueUnit := twoTo quarter.toNat * tenTo (-place).toNat
  let gridUnit := twoTo (-quarter).toNat * tenTo place.toNat
  let value := 4 * x.significand * valueUnit
  let low := (4 * x.significand - if x.narrowBelow then 1 else 2) * valueUnit
  let high := (4 * x.significand + 2) * valueUnit
  let closed := x.significand % 2 == 0
  let inside (d : Nat) : Bool :=
    if closed then low ≤ d * gridUnit && d * gridUnit ≤ high
    else low < d * gridUnit && d * gridUnit < high
  let below := value / gridUnit
  let above := below + 1
  let toBelow := value - below * gridUnit
  let toAbove := above * gridUnit - value
  let preferBelow :=
    toBelow < toAbove || toBelow == toAbove && tie == .toEven && below % 2 == 0
  match inside below && below != 0, inside above with
  | true, true => some ⟨if preferBelow then below else above, place⟩
  | true, false => some ⟨below, place⟩
  | false, true => some ⟨above, place⟩
  | false, false => none

/-- Seventeen digits identify every number of 64 bits. -/
def digitLimit : Nat := 17

/-- The fewest digits that identify `x`, without trailing zeros. -/
def shortest (tie : Tie) (x : Magnitude) : Digits :=
  if x.significand = 0 then ⟨0, 0⟩
  else
    let lead := x.leading
    let found := (List.range digitLimit).findSome? fun (n : Nat) => x.onGrid tie (lead - n)
    (found.getD ⟨x.significand, x.exponent⟩).strip digitLimit

end Magnitude

end ResilientChat.Decimal
