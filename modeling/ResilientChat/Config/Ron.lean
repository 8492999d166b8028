import ResilientChat.Config.Tree
import ResilientChat.Decimal.Reading
import ResilientChat.Text.Digit

/-!
RON documents: structures with or without a name, maps, lists, optional values,
numbers, truth values, strings and characters. Parentheses hold the fields of a
structure if a name and a colon come first in them, and the items of a list if
not; a name alone, or a pair of parentheses with nothing between them, is null.
-/

namespace ResilientChat

namespace Config

open Text

namespace Ron

def isSpace (c : Char) : Bool := isGap c || c = '\n' || c = '\r'

/-- Skips to the end of a comment; comments may nest. -/
def skipNested : (bound depth : Nat) → Scan Unit
  | 0, _ => failure
  | bound + 1, depth => do
    if ← Scan.acceptWord "*/" then
      if depth = 0 then return else skipNested bound (depth - 1)
    else if ← Scan.acceptWord "/*" then skipNested bound (depth + 1)
    else
      let _ ← Scan.next
      skipNested bound depth

def skipBlanks : (bound : Nat) → Scan Unit
  | 0 => failure
  | bound + 1 => do
    Scan.skipWhile isSpace
    if ← Scan.acceptWord "//" then
      Scan.skipWhile (· ≠ '\n')
      skipBlanks bound
    else if ← Scan.acceptWord "/*" then
      skipNested (← Scan.bound) 0
      skipBlanks bound
    else return

def blanks : Scan Unit := do
  skipBlanks (← Scan.bound)

def scanEscape : Scan Char := do
  match ← Scan.next with
  | '"' => return '"'
  | '\'' => return '\''
  | '\\' => return '\\'
  | 'n' => return '\n'
  | 'r' => return '\r'
  | 't' => return '\t'
  | 'x' =>
    let high ← Scan.next
    let low ← Scan.next
    unless isHexDigit high && isHexDigit low do failure
    return Char.ofNat (hexValue [high, low])
  | 'u' =>
    Scan.expect '\x7b'
    let ds ← Scan.takeWhile1 isHexDigit
    Scan.expect '\x7d'
    let n := hexValue ds
    if ds.length ≤ 6 && n.isValidChar then return Char.ofNat n else failure
  | _ => failure

def scanStringTail : (bound : Nat) → Scan (List Char)
  | 0 => failure
  | bound + 1 => do
    match ← Scan.next with
    | '"' => return []
    | '\\' =>
      let e ← scanEscape
      return e :: (← scanStringTail bound)
    | c => return c :: (← scanStringTail bound)

/-- The rest of a raw string whose closing quote is followed by as many signs as its opening one. -/
def scanRawTail (closing : String) : (bound : Nat) → Scan (List Char)
  | 0 => failure
  | bound + 1 => do
    if ← Scan.acceptWord closing then return []
    let c ← Scan.next
    return c :: (← scanRawTail closing bound)

def scanRaw : Scan String := do
  Scan.expect 'r'
  let signs ← Scan.takeWhile (· = '#')
  Scan.expect '"'
  return String.ofList (← scanRawTail (String.ofList ('"' :: signs)) (← Scan.bound))

def scanChar : Scan String := do
  Scan.expect '\''
  let c ← Scan.next
  if c = '\'' then failure
  let c ← if c = '\\' then scanEscape else pure c
  Scan.expect '\''
  return String.singleton c

/-- A string in quotes, a raw string or a character. -/
def scanText : Scan String := do
  match ← Scan.peek with
  | some '"' =>
    let _ ← Scan.next
    return String.ofList (← scanStringTail (← Scan.bound))
  | some '\'' => scanChar
  | _ => scanRaw

def isWholeChar (c : Char) : Bool := isHexDigit c || c = '_'

def isFloatChar (c : Char) : Bool := c.isDigit || "eE.+-_".toList.contains c

/-- The digits of a whole number after its sign; underscores do not count but do not come first. -/
def scanDigits : Scan Nat := do
  let base ←
    if ← Scan.acceptWord "0x" then pure 16
    else if ← Scan.acceptWord "0b" then pure 2
    else if ← Scan.acceptWord "0o" then pure 8
    else pure 10
  let ds ← Scan.takeWhile isWholeChar
  if ds.head? = some '_' then failure
  match inBase? base (ds.filter (· ≠ '_')) with
  | some n => return n
  | none => failure

/-- A whole number: of 64 bits with a sign if one is written, else of 64 bits without. -/
def scanWhole : Scan Tree := do
  if ← Scan.accept '-' then
    let n : Int := - (← scanDigits)
    if isWhole n then return .int n else failure
  else if ← Scan.accept '+' then
    let n ← scanDigits
    if isWhole n then return .int n else failure
  else
    let n ← scanDigits
    if n < UInt64.size then return wholeOrFloat n else failure

def scanFloat : Scan Tree := do
  match Decimal.float? (String.ofList (← Scan.takeWhile isFloatChar)) with
  | some x => return .float x
  | none => failure

/-- A number. It is a float if more of it reads as a float than as a whole number. -/
def scanNumber : Scan Tree := do
  let cs ← get
  let unsigned := if cs.head?.any fun c => c = '-' || c = '+' then cs.tail else cs
  let whole := (unsigned.takeWhile isWholeChar).length
  if whole < (unsigned.takeWhile isFloatChar).length then scanFloat else scanWhole <|> scanFloat

def isNameStart (c : Char) : Bool := c.isAlpha || c = '_'

def isNameChar (c : Char) : Bool := c.isAlphanum || c = '_'

def isRawChar (c : Char) : Bool := isNameChar c || c = '.' || c = '+' || c = '-'

def scanRawName : Scan String := do
  Scan.expectWord "r#"
  return String.ofList (← Scan.takeWhile1 isRawChar)

/-- A name; no character of a raw name follows it. -/
def scanPlainName : Scan String := do
  let cs ← Scan.takeWhile1 isNameChar
  let next ← Scan.peek
  if cs.head?.all isNameStart && !next.any isRawChar && !(cs = ['r'] && next = some '"') then
    return String.ofList cs
  else failure

def scanName : Scan String := scanRawName <|> do
  let name ← scanPlainName
  if name = "r" && (← Scan.peek) = some '#' then failure else return name

/-- Takes `word` off if it comes next and is not part of a longer name. -/
def acceptName (word : String) : Scan Bool := do
  let cs := word.toList
  let rest ← get
  if cs.isPrefixOf rest && !(rest[cs.length]?).any isNameChar then
    set (rest.drop cs.length)
    return true
  else return false

/-- The name of a field, if a name and a colon come next. -/
def scanField : Scan String := do
  let name ← scanName
  blanks
  Scan.expect ':'
  return name

/-- Containers and what they hold may stand this deep inside one another, each on its own level. -/
def depthLimit : Nat := 128

mutual

/--
A value with `depth` more levels for what it holds. With `loose` the value of `Some` may stand
without parentheses.
-/
def scanValue (loose : Bool) : (bound depth : Nat) → Scan Tree
  | 0, _ => failure
  | bound + 1, depth => do
    if ← acceptName "true" then return .bool true
    if ← acceptName "false" then return .bool false
    if ← acceptName "Some" then return ← scanSome loose bound depth
    if ← acceptName "None" then return .null
    if ← Scan.acceptWord "()" then return .null
    if ← acceptName "inf" then return .float (1.0 / 0.0)
    if ← acceptName "-inf" then return .float (-(1.0 / 0.0))
    if ← acceptName "NaN" then return .float (0.0 / 0.0)
    match scanName.run (← get) with
    | some (_, rest) =>
      set rest
      blanks
      if (← Scan.peek) = some '(' then scanParens loose bound depth else return .null
    | none =>
      match ← Scan.peek with
      | some '(' => scanParens loose bound depth
      | some '[' =>
        let _ ← Scan.next
        let inner + 1 := depth | failure
        return .array (← scanItems loose ']' bound inner)
      | some '\x7b' =>
        let _ ← Scan.next
        let inner + 1 := depth | failure
        return .table (← scanPairs loose bound inner [])
      | some c =>
        if c.isDigit || c = '+' || c = '-' || c = '.' then scanNumber
        else return .string (← scanText)
      | none => failure

def scanSome (loose : Bool) : (bound depth : Nat) → Scan Tree
  | 0, _ => failure
  | bound + 1, depth => do
    blanks
    let inner + 1 := depth | failure
    if ← Scan.accept '(' then
      blanks
      let v ← scanValue loose bound inner
      blanks
      if ← Scan.accept ',' then blanks
      Scan.expect ')'
      return v
    else if loose then scanValue loose bound inner
    else failure

/-- What stands in parentheses: fields or a list of values. -/
def scanParens (loose : Bool) : (bound depth : Nat) → Scan Tree
  | 0, _ => failure
  | bound + 1, depth => do
    Scan.expect '('
    blanks
    let inner + 1 := depth | failure
    if (scanField.run (← get)).isSome then return .table (← scanFields loose bound inner [])
    else return .array (← scanItems loose ')' bound inner)

/-- The fields of a structure up to its end; the last one of each name counts. -/
def scanFields (loose : Bool) : (bound depth : Nat) → Entries → Scan Entries
  | 0, _, _ => failure
  | bound + 1, depth, done => do
    blanks
    if ← Scan.accept ')' then return done
    let inner + 1 := depth | failure
    let name ← scanField
    blanks
    let v ← scanValue loose bound inner
    let done := Entries.put name v done
    blanks
    if ← Scan.accept ')' then return done
    Scan.expect ','
    scanFields loose bound depth done

/-- The pairs of a map up to its end; keys are texts, and the last one of each key counts. -/
def scanPairs (loose : Bool) : (bound depth : Nat) → Entries → Scan Entries
  | 0, _, _ => failure
  | bound + 1, depth, done => do
    blanks
    if ← Scan.accept '\x7d' then return done
    let inner + 1 := depth | failure
    let key ← scanText
    blanks
    Scan.expect ':'
    blanks
    let v ← scanValue loose bound inner
    let done := Entries.put key v done
    blanks
    if ← Scan.accept '\x7d' then return done
    Scan.expect ','
    scanPairs loose bound depth done

def scanItems (loose : Bool) : (closing : Char) → (bound depth : Nat) → Scan (List Tree)
  | _, 0, _ => failure
  | closing, bound + 1, depth => do
    blanks
    if ← Scan.accept closing then return []
    let inner + 1 := depth | failure
    let v ← scanValue loose bound inner
    blanks
    if ← Scan.accept closing then return [v]
    Scan.expect ','
    return v :: (← scanItems loose closing bound depth)

end

/-- A word of the language's own, and blanks after it. -/
def expectMark (word : String) : Scan Unit := do
  Scan.expectWord word
  blanks

def extensions : List String := ["unwrap_newtypes", "implicit_some", "unwrap_variant_newtypes"]

/-- The names of extensions up to the closing parenthesis; a comma may follow the last one. -/
def scanExtensionNames : (bound : Nat) → Scan (List String)
  | 0 => failure
  | bound + 1 => do
    let name ← scanName
    unless extensions.contains name do failure
    blanks
    if ← Scan.accept ',' then
      blanks
      if (← Scan.peek).any isNameChar then return name :: (← scanExtensionNames bound)
    expectMark ")"
    return [name]

def scanExtensions : (bound : Nat) → Scan (List String)
  | 0 => failure
  | bound + 1 => do
    blanks
    if (← Scan.peek) ≠ some '#' then return []
    for word in ["#", "!", "[", "enable", "("] do expectMark word
    let names ← scanExtensionNames bound
    expectMark "]"
    return names ++ (← scanExtensions bound)

def scanDocument : Scan Tree := do
  let names ← scanExtensions (← Scan.bound)
  let v ← scanValue (names.contains "implicit_some") (← Scan.bound) depthLimit
  blanks
  return v

end Ron

def readRon (text : String) : Option Entries :=
  (Scan.all Ron.scanDocument text).bind Tree.root?

end Config

end ResilientChat
