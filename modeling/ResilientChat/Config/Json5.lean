import ResilientChat.Config.Tree
import ResilientChat.Json.Reader
import ResilientChat.Text.Name

/-!
JSON and JSON5 documents. JSON5 adds comments, names without quotes, strings in
single quotes, commas before a closing bracket, and more ways to write numbers.
Hexadecimal numbers have 32 bits and no sign; infinity and NaN have words, and no
digits stand for them.
-/

namespace ResilientChat

namespace Config

open Text

mutual

def treeOfJson : Json.Value → Tree
  | .null => .null
  | .bool b => .bool b
  | .number (.int n) => wholeOrFloat n
  | .number (.float x) => .float x
  | .number (.single x) => .float x.toFloat
  | .string s => .string s
  | .array items => .array (treesOfJson items)
  | .object members => .table (entriesOfJson members)

def treesOfJson : List Json.Value → List Tree
  | [] => []
  | v :: rest => treeOfJson v :: treesOfJson rest

def entriesOfJson : List (String × Json.Value) → Entries
  | [] => []
  | (key, v) :: rest => (key, treeOfJson v) :: entriesOfJson rest

end

def readJson (text : String) : Option Entries :=
  (Json.readUntyped text).bind fun v => Tree.root? (treeOfJson v)

namespace Json5

def isSpace (c : Char) : Bool := isBlank c && c ≠ '\u0085' || c = '\ufeff'

def isLineEnd (c : Char) : Bool := c = '\n' || c = '\r' || c = '\u2028' || c = '\u2029'

/-- Skips to the end of a comment in stars. -/
def skipStarred : (bound : Nat) → Scan Unit
  | 0 => failure
  | bound + 1 => do
    if ← Scan.acceptWord "*/" then return
    let _ ← Scan.next
    skipStarred bound

def skipBlanks : (bound : Nat) → Scan Unit
  | 0 => failure
  | bound + 1 => do
    Scan.skipWhile isSpace
    if ← Scan.acceptWord "//" then
      Scan.skipWhile fun c => !isLineEnd c
      skipBlanks bound
    else if ← Scan.acceptWord "/*" then
      skipStarred (← Scan.bound)
      skipBlanks bound
    else return

def blanks : Scan Unit := do
  skipBlanks (← Scan.bound)

/--
The character of a `\u` escape. Two escapes for one character lay their bits over one another:
the ten bits of the first one, and those of the second one above the base plane.
-/
def scanUnicodeEscape : Scan Char := do
  let high ← Json.scanUnit
  if 0xDC00 ≤ high && high ≤ 0xDFFF then failure
  if 0xD800 ≤ high && high ≤ 0xDBFF then
    let low ← Json.scanTrail
    return Char.ofNat ((high - 0xD800) <<< 10 ||| (low - 0xDC00 + 0x10000))
  return Char.ofNat high

def scanEscape : Scan (List Char) := do
  match ← Scan.next with
  | 'b' => return ['\x08']
  | 'f' => return ['\x0c']
  | 'n' => return ['\n']
  | 'r' => return ['\r']
  | 't' => return ['\t']
  | 'v' => return ['\x0b']
  | '0' => return ['\x00']
  | 'x' =>
    let high ← Scan.next
    let low ← Scan.next
    unless isHexDigit high && isHexDigit low do failure
    return [Char.ofNat (hexValue [high, low])]
  | 'u' => return [← scanUnicodeEscape]
  | '\r' =>
    let _ ← Scan.accept '\n'
    return []
  | c => if isLineEnd c then return [] else if c.isDigit then failure else return [c]

def scanStringTail (quote : Char) : (bound : Nat) → Scan (List Char)
  | 0 => failure
  | bound + 1 => do
    let c ← Scan.next
    if c = quote then return []
    if c = '\\' then
      let e ← scanEscape
      return e ++ (← scanStringTail quote bound)
    if isLineEnd c then failure
    return c :: (← scanStringTail quote bound)

def scanString : Scan String := do
  let quote ← Scan.next
  unless quote = '"' || quote = '\'' do failure
  return String.ofList (← scanStringTail quote (← Scan.bound))

/-- The characters of a name, as they are or as escapes; `isNext` says which one may come next. -/
def scanNameTail (isNext : Char → Bool) : (bound : Nat) → Scan (List Char)
  | 0 => failure
  | bound + 1 => do
    if ← Scan.acceptWord "\\u" then
      let c ← scanUnicodeEscape
      return c :: (← scanNameTail isNameChar bound)
    match ← Scan.acceptIf isNext with
    | some c => return c :: (← scanNameTail isNameChar bound)
    | none => return []

def scanName : Scan String := do
  let cs ← scanNameTail isNameStart (← Scan.bound)
  if cs.isEmpty then failure else return String.ofList cs

def scanKey : Scan String := do
  match ← Scan.peek with
  | some '"' | some '\'' => scanString
  | _ => scanName

/-- A float with its sign; digits do not stand for an infinity. -/
def finite (negative : Bool) (x : Float) : Scan Tree :=
  if x.isFinite then return .float (if negative then -x else x) else failure

/-- Digits before and after a point, at least one of them, and an exponent. -/
def scanDecimal (negative : Bool) : Scan Tree := do
  let whole ← Scan.takeWhile Char.isDigit
  if 1 < whole.length && whole.head? = some '0' then failure
  let pointed ← Scan.accept '.'
  let fraction ← if pointed then Scan.takeWhile Char.isDigit else pure []
  if whole.isEmpty && fraction.isEmpty then failure
  let exponent ←
    if (← Scan.acceptIf (·.toLower = 'e')).isSome then some <$> Decimal.scanExponent
    else pure none
  if pointed || exponent.isSome then
    finite negative (Decimal.fromParts whole fraction (exponent.getD 0))
  else
    let size : Int := Decimal.digitsValue whole
    let n := if negative then -size else size
    if isWhole n then return .int n else failure

def scanNumber : Scan Tree := do
  let negative ← Scan.accept '-'
  let positive ← if negative then pure false else Scan.accept '+'
  unless positive do
    if ← Scan.acceptWord "Infinity" then
      return .float (if negative then -(1.0 / 0.0) else 1.0 / 0.0)
    if ← Scan.acceptWord "NaN" then return .float (0.0 / 0.0)
  if (← Scan.peek) = some '0' && (← Scan.peekSecond).any (·.toLower = 'x') then
    if negative || positive then failure
    modify (·.drop 2)
    let n := hexValue (← Scan.takeWhile1 isHexDigit)
    if n < UInt32.size then return .int n else failure
  scanDecimal negative

mutual

def scanValue : (bound : Nat) → Scan Tree
  | 0 => failure
  | bound + 1 => do
    blanks
    match ← Scan.peek with
    | some '\x7b' =>
      let _ ← Scan.next
      return .table (← scanMembers bound [])
    | some '[' =>
      let _ ← Scan.next
      return .array (← scanItems bound)
    | some '"' | some '\'' => return .string (← scanString)
    | some 't' => Scan.expectWord "true"; return .bool true
    | some 'f' => Scan.expectWord "false"; return .bool false
    | some 'n' => Scan.expectWord "null"; return .null
    | _ => scanNumber

def scanItems : (bound : Nat) → Scan (List Tree)
  | 0 => failure
  | bound + 1 => do
    blanks
    if ← Scan.accept ']' then return []
    let v ← scanValue bound
    blanks
    if ← Scan.accept ']' then return [v]
    Scan.expect ','
    return v :: (← scanItems bound)

/-- The members of an object up to its end; the last one of each key counts. -/
def scanMembers : (bound : Nat) → Entries → Scan Entries
  | 0, _ => failure
  | bound + 1, done => do
    blanks
    if ← Scan.accept '\x7d' then return done
    let key ← scanKey
    blanks
    Scan.expect ':'
    let v ← scanValue bound
    let done := Entries.put key v done
    blanks
    if ← Scan.accept '\x7d' then return done
    Scan.expect ','
    scanMembers bound done

end

def scanDocument : Scan Tree := do
  let v ← scanValue (← Scan.bound)
  blanks
  return v

end Json5

def readJson5 (text : String) : Option Entries :=
  (Scan.all Json5.scanDocument text).bind Tree.root?

end Config

end ResilientChat
