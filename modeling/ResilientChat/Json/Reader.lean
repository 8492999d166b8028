import ResilientChat.Decimal.Reading
import ResilientChat.Json.Value
import ResilientChat.Text.Digit

/-!
JSON text to values, strictly by the grammar. Members of objects stay in the
order of the text, repeated keys included, so that a reader of a fixed shape can
refuse them. Numbers beyond the range of floats, lone halves of surrogate pairs
and values nested too deeply follow the grammar too; they are `unreadable`, and
matter only to a reader that asks for them.
-/

namespace ResilientChat.Json

open Text

/-- Arrays and objects may stand this deep inside one another. -/
def depthLimit : Nat := 127

def isSpace (c : Char) : Bool := c = ' ' || c = '\t' || c = '\n' || c = '\r'

def scanUnit : Scan Nat := do
  let mut n := 0
  for _ in [0:4] do
    let some d := hexDigit? (← Scan.next) | failure
    n := 16 * n + d
  return n

/-- The second half of a surrogate pair, as an escape. -/
def scanTrail : Scan Nat := do
  Scan.expectWord "\\u"
  let low ← scanUnit
  if 0xDC00 ≤ low && low ≤ 0xDFFF then return low else failure

/--
The character of a `\u` escape; two escapes for one outside the base plane, and none for half of
such a pair.
-/
def scanUnicodeEscape : Scan (Option Char) := do
  let high ← scanUnit
  if 0xDC00 ≤ high && high ≤ 0xDFFF then return none
  if 0xD800 ≤ high && high ≤ 0xDBFF then
    match scanTrail.run (← get) with
    | some (low, rest) =>
      set rest
      return some (Char.ofNat (0x10000 + (high - 0xD800) * 0x400 + (low - 0xDC00)))
    | none => return none
  return some (Char.ofNat high)

def scanEscape : Scan (Option Char) := do
  match ← Scan.next with
  | '"' => return some '"'
  | '\\' => return some '\\'
  | '/' => return some '/'
  | 'b' => return some '\x08'
  | 'f' => return some '\x0c'
  | 'n' => return some '\n'
  | 'r' => return some '\r'
  | 't' => return some '\t'
  | 'u' => scanUnicodeEscape
  | _ => failure

/-- The rest of a string after its opening quote; `done` holds it backwards. -/
def scanStringTail : Nat → Option (List Char) → Scan (Option String)
  | 0, _ => failure
  | fuel + 1, done => do
    match ← Scan.next with
    | '"' => return done.map fun cs => String.ofList cs.reverse
    | '\\' =>
      let c? ← scanEscape
      scanStringTail fuel (done.bind fun cs => c?.map (· :: cs))
    | c => if c.val < 0x20 then failure else scanStringTail fuel (done.map (c :: ·))

def scanString : Scan (Option String) := do
  Scan.expect '"'
  scanStringTail (← Scan.bound) (some [])

/-- Whole numbers within 64 bits, signed or unsigned, are exact. -/
def isExact (n : Int) : Bool := Int64.minValue.toInt ≤ n && n < UInt64.size

/-- Digits without a leading zero. -/
def scanWhole : Scan (List Char) := do
  let ds ← Scan.takeWhile1 Char.isDigit
  match ds with
  | '0' :: _ :: _ => failure
  | _ => return ds

/-- A number; none if it is out of range. -/
def scanNumber : Scan (Option Number) := do
  let negative ← Scan.accept '-'
  let whole ← scanWhole
  let fraction ← if ← Scan.accept '.' then some <$> Scan.takeWhile1 Char.isDigit else pure none
  let exponent ←
    if (← Scan.acceptIf (·.toLower = 'e')).isSome then some <$> Decimal.scanExponent
    else pure none
  let magnitude := Decimal.fromParts whole (fraction.getD []) (exponent.getD 0)
  let float := Number.float (if negative then -magnitude else magnitude)
  if !magnitude.isFinite then return none
  if fraction.isSome || exponent.isSome then return some float
  let n : Int := Decimal.digitsValue whole
  let signed := if negative then -n else n
  if (negative && n == 0) || !isExact signed then return some float
  return some (.int signed)

mutual

/-- A value; `depth` more levels of nesting are readable. -/
def scanValue : (fuel depth : Nat) → Scan Value
  | 0, _ => failure
  | fuel + 1, depth => do
    Scan.skipWhile isSpace
    match ← Scan.peek with
    | some '"' => return (← scanString).elim .unreadable .string
    | some '[' =>
      let _ ← Scan.next
      Scan.skipWhile isSpace
      let items ← if ← Scan.accept ']' then pure [] else scanItems fuel (depth - 1)
      return if depth = 0 then .unreadable else .array items
    | some '\x7b' =>
      let _ ← Scan.next
      Scan.skipWhile isSpace
      let members ← if ← Scan.accept '\x7d' then pure (some []) else scanMembers fuel (depth - 1)
      return if depth = 0 then .unreadable else members.elim .unreadable .object
    | some 't' => Scan.expectWord "true"; return .bool true
    | some 'f' => Scan.expectWord "false"; return .bool false
    | some 'n' => Scan.expectWord "null"; return .null
    | _ => return (← scanNumber).elim .unreadable .number

def scanItems : (fuel depth : Nat) → Scan (List Value)
  | 0, _ => failure
  | fuel + 1, depth => do
    let v ← scanValue fuel depth
    Scan.skipWhile isSpace
    if ← Scan.accept ']' then return [v]
    Scan.expect ','
    return v :: (← scanItems fuel depth)

/-- The members of an object up to its end, at least one; none if a key is unreadable. -/
def scanMembers : (fuel depth : Nat) → Scan (Option (List (String × Value)))
  | 0, _ => failure
  | fuel + 1, depth => do
    Scan.skipWhile isSpace
    let key? ← scanString
    Scan.skipWhile isSpace
    Scan.expect ':'
    let v ← scanValue fuel depth
    Scan.skipWhile isSpace
    if ← Scan.accept '\x7d' then return key?.map fun key => [(key, v)]
    Scan.expect ','
    let rest? ← scanMembers fuel depth
    return rest?.bind fun rest => key?.map fun key => (key, v) :: rest

end

/-- A value that is readable in every part, nested at most `depth` levels. -/
def scanReadable (depth : Nat) : Scan Value := do
  let v ← scanValue (← Scan.bound) depth
  if v.isReadable then return v else failure

def scanDocument (depth : Nat) : Scan Value := do
  let v ← scanValue (← Scan.bound) depth
  Scan.skipWhile isSpace
  return v

/-- Reads a text in which at most `depth` levels of nesting are readable. -/
def readWithin (depth : Nat) (text : String) : Option Value :=
  Scan.all (scanDocument depth) text

/-- Reads a text for a fixed shape: members as they stand in it, and parts that are unreadable. -/
def read (text : String) : Option Value := readWithin depthLimit text

/-- Reads a value that no fixed shape is asked of. -/
def readUntyped (text : String) : Option Value := (read text).bind Value.untyped?

end ResilientChat.Json
