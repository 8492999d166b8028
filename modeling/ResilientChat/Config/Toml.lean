import ResilientChat.Config.Tree
import ResilientChat.Decimal.Reading
import ResilientChat.Text.Digit

/-!
TOML documents. Tables are opened by headers, by dotted keys, or on the way to
another table; how a table came about decides whether it may be opened again.
Dates and times become strings in one spelling.
-/

namespace ResilientChat

namespace Config

open Text

namespace Toml

/-- How a table came about. -/
inductive Origin where
  | header
  /-- On the way to a table with a header. -/
  | implied
  /-- By a dotted key. -/
  | dotted
deriving Repr, DecidableEq

inductive Node where
  | leaf (v : Tree)
  | table (origin : Origin) (entries : List (String × Node))
  /-- Tables that were opened one after the other under one header. -/
  | tables (items : List (List (String × Node)))
deriving Repr, Inhabited

abbrev Nodes := List (String × Node)

namespace Nodes

def put (key : String) (n : Node) : Nodes → Nodes
  | [] => [(key, n)]
  | (k, m) :: rest => if k = key then (key, n) :: rest else (k, m) :: put key n rest

/-- Gives a key of an open table its value; no key has two. -/
def define (key : String) (v : Tree) (nodes : Nodes) : Option Nodes :=
  if (nodes.lookup key).isSome then none else some (put key (.leaf v) nodes)

/--
Gives the last one of some keys its value, under the tables of the keys before it. Those tables
have no header of their own, and the last one of them came about by dotted keys.
-/
def defineDotted (v : Tree) : List String → Nodes → Option Nodes
  | [], _ => none
  | [key], nodes => define key v nodes
  | key :: rest, nodes =>
    match nodes.lookup key with
    | none => (defineDotted v rest []).map fun inner => put key (.table .dotted inner) nodes
    | some (.table .header _) => none
    | some (.table origin inner) =>
      if rest.length = 1 && origin ≠ .dotted then none
      else (defineDotted v rest inner).map fun inner => put key (.table origin inner) nodes
    | some (.tables items) =>
      if rest.length = 1 then none
      else
        (defineDotted v rest (items.getLast?.getD [])).map fun last =>
          put key (.tables (items.dropLast ++ [last])) nodes
    | some (.leaf _) => none

/-- Works on the table that a header leads to, opening tables on the way. -/
def within (act : Nodes → Option Nodes) : List String → Nodes → Option Nodes
  | [], nodes => act nodes
  | key :: rest, nodes =>
    match nodes.lookup key with
    | none => (within act rest []).map fun inner => put key (.table .implied inner) nodes
    | some (.table origin inner) =>
      (within act rest inner).map fun inner => put key (.table origin inner) nodes
    | some (.tables items) =>
      (within act rest (items.getLast?.getD [])).map fun last =>
        put key (.tables (items.dropLast ++ [last])) nodes
    | some (.leaf _) => none

def openTable (key : String) (nodes : Nodes) : Option Nodes :=
  match nodes.lookup key with
  | none => some (put key (.table .header []) nodes)
  | some (.table .implied inner) => some (put key (.table .header inner) nodes)
  | some _ => none

/-- Opens one more table under a header in double brackets. -/
def openItem (key : String) (nodes : Nodes) : Option Nodes :=
  match nodes.lookup key with
  | none => some (put key (.tables [[]]) nodes)
  | some (.tables items) => some (put key (.tables (items ++ [[]])) nodes)
  | some _ => none

end Nodes

mutual

def Node.toTree : Node → Tree
  | .leaf v => v
  | .table _ entries => .table (treesOf entries)
  | .tables items => .array (itemsOf items)

def treesOf : List (String × Node) → Entries
  | [] => []
  | (key, n) :: rest => (key, n.toTree) :: treesOf rest

def itemsOf : List (List (String × Node)) → List Tree
  | [] => []
  | entries :: rest => .table (treesOf entries) :: itemsOf rest

end

def gap : Scan Unit := Scan.skipWhile isGap

def isControl (c : Char) : Bool := (c.val < 0x20 && c ≠ '\t') || c.val = 0x7f

def scanLineEnd : Scan Unit := do
  let _ ← Scan.accept '\r'
  Scan.expect '\n'

def comment : Scan Unit := do
  if ← Scan.accept '#' then Scan.skipWhile fun c => !isControl c

/-- What may follow a statement on its line. -/
def restOfLine : Scan Unit := do
  gap
  comment
  unless ← Scan.atEnd do scanLineEnd

/-- Skips gaps and ends of lines, and what may stand in front of an end. -/
def skipLines (before : Scan Unit) : (bound : Nat) → Scan Unit
  | 0 => failure
  | bound + 1 => do
    gap
    before
    match ← Scan.peek with
    | some '\n' => scanLineEnd; skipLines before bound
    | some '\r' =>
      if (← Scan.peekSecond) = some '\n' then
        scanLineEnd
        skipLines before bound
    | _ => return

def emptyLines : Scan Unit := do
  skipLines (pure ()) (← Scan.bound)

def commentLines : Scan Unit := do
  skipLines comment (← Scan.bound)

def scanHex (width : Nat) : Scan Char := do
  let ds ← Scan.takeWhile isHexDigit
  let n := hexValue (ds.take width)
  if ds.length < width || !n.isValidChar then failure
  modify fun rest => ds.drop width ++ rest
  return Char.ofNat n

def scanEscape : Scan Char := do
  match ← Scan.next with
  | 'b' => return '\x08'
  | 't' => return '\t'
  | 'n' => return '\n'
  | 'f' => return '\x0c'
  | 'r' => return '\r'
  | '"' => return '"'
  | '\\' => return '\\'
  | 'u' => scanHex 4
  | 'U' => scanHex 8
  | _ => failure

/-- The rest of a string on one line; only strings in double quotes know escapes. -/
def scanLineTail (quote : Char) : (bound : Nat) → Scan (List Char)
  | 0 => failure
  | bound + 1 => do
    let c ← Scan.next
    if c = quote then return []
    if isControl c then failure
    if c = '\\' && quote = '"' then
      let e ← scanEscape
      return e :: (← scanLineTail quote bound)
    return c :: (← scanLineTail quote bound)

def scanLinesTail (quote : Char) : (bound : Nat) → Scan (List Char)
  | 0 => failure
  | bound + 1 => do
    if ← Scan.acceptWord (String.ofList [quote, quote, quote]) then
      let one ← Scan.accept quote
      let two ← if one then Scan.accept quote else pure false
      return List.replicate (one.toNat + two.toNat) quote
    let c ← Scan.next
    if c = '\r' then
      Scan.expect '\n'
      return '\n' :: (← scanLinesTail quote bound)
    if c = '\n' then return '\n' :: (← scanLinesTail quote bound)
    if isControl c then failure
    if c = '\\' && quote = '"' then
      let rest ← get
      match rest.dropWhile isGap with
      | '\n' :: _ | '\r' :: _ =>
        gap
        scanLineEnd
        emptyLines
        scanLinesTail quote bound
      | _ =>
        let e ← scanEscape
        return e :: (← scanLinesTail quote bound)
    else return c :: (← scanLinesTail quote bound)

def scanString (quote : Char) : Scan String := do
  if ← Scan.acceptWord (String.ofList [quote, quote, quote]) then
    if (← Scan.peek) = some '\r' then scanLineEnd else discard (Scan.accept '\n')
    return String.ofList (← scanLinesTail quote (← Scan.bound))
  Scan.expect quote
  return String.ofList (← scanLineTail quote (← Scan.bound))

def isBareChar (c : Char) : Bool := c.isAlphanum || c = '_' || c = '-'

def scanSimpleKey : Scan String := do
  match ← Scan.peek with
  | some '"' =>
    Scan.expect '"'
    return String.ofList (← scanLineTail '"' (← Scan.bound))
  | some '\'' =>
    Scan.expect '\''
    return String.ofList (← scanLineTail '\'' (← Scan.bound))
  | _ => return String.ofList (← Scan.takeWhile1 isBareChar)

def scanKeys : (bound : Nat) → Scan (List String)
  | 0 => failure
  | bound + 1 => do
    gap
    let key ← scanSimpleKey
    gap
    if ← Scan.accept '.' then return key :: (← scanKeys bound)
    return [key]

/-- Keys have fewer parts than this, and arrays and tables on one line nest less deeply. -/
def depthLimit : Nat := 80

def scanKey : Scan (List String) := do
  let keys ← scanKeys (← Scan.bound)
  if keys.length < depthLimit then return keys else failure

/-- The text without its underscores, which stand between digits only. -/
def ungrouped? (isDigit : Char → Bool) : (before : Option Char) → List Char → Option (List Char)
  | _, [] => some []
  | before, '_' :: rest =>
    if before.any isDigit && rest.head?.any isDigit then ungrouped? isDigit none rest else none
  | _, c :: rest => (ungrouped? isDigit (some c) rest).map (c :: ·)

def wholeIn? (base : Nat) (cs : List Char) : Option Tree := do
  let n ← inBase? base (← ungrouped? isHexDigit none cs)
  if isWhole n then some (.int n) else none

def signed (cs : List Char) : Int × List Char :=
  match cs with
  | '-' :: rest => (-1, rest)
  | '+' :: rest => (1, rest)
  | rest => (1, rest)

def isPlainWhole (cs : List Char) : Bool :=
  cs.all Char.isDigit && !cs.isEmpty && (cs.length = 1 || cs.head? ≠ some '0')

def isPlainFloat (cs : List Char) : Bool :=
  let whole := cs.takeWhile Char.isDigit
  let isExponent (rest : List Char) : Bool :=
    match rest with
    | [] => true
    | e :: rest =>
      let ds := (signed rest).2
      e.toLower = 'e' && !ds.isEmpty && ds.all Char.isDigit
  isPlainWhole whole &&
    match cs.drop whole.length with
    | '.' :: rest =>
      !(rest.takeWhile Char.isDigit).isEmpty && isExponent (rest.dropWhile Char.isDigit)
    | rest => isExponent rest

/-- A number; digits may stand for negative infinity but not for the positive one. -/
def number? (cs : List Char) : Option Tree :=
  match cs with
  | '0' :: 'x' :: ds => wholeIn? 16 ds
  | '0' :: 'o' :: ds => wholeIn? 8 ds
  | '0' :: 'b' :: ds => wholeIn? 2 ds
  | _ => do
    let (sign, body) := signed cs
    match String.ofList body with
    | "inf" => return .float (if sign < 0 then -(1.0 / 0.0) else 1.0 / 0.0)
    | "nan" => return .float (0.0 / 0.0)
    | _ =>
      let body ← ungrouped? Char.isDigit none body
      if isPlainWhole body then
        let n := sign * Decimal.digitsValue body
        if isWhole n then return .int n else none
      else if isPlainFloat body then
        let x ← Decimal.float? (String.ofList body)
        if sign < 0 then return .float (-x)
        else if x.isFinite then return .float x
        else none
      else none

def scanDigits (width : Nat) : Scan (List Char) := do
  let ds ← Scan.takeWhile Char.isDigit
  if ds.length ≠ width then failure else return ds

def scanTwo (low high : Nat) : Scan (List Char) := do
  let ds ← scanDigits 2
  let n := Decimal.digitsValue ds
  if low ≤ n && n ≤ high then return ds else failure

def daysIn (year month : Nat) : Nat :=
  if month = 2 then
    if year % 4 = 0 && (year % 100 ≠ 0 || year % 400 = 0) then 29 else 28
  else if month = 4 || month = 6 || month = 9 || month = 11 then 30
  else 31

def scanDate : Scan (List Char) := do
  let year ← scanDigits 4
  Scan.expect '-'
  let month ← scanTwo 1 12
  Scan.expect '-'
  let day ← scanTwo 1 (daysIn (Decimal.digitsValue year) (Decimal.digitsValue month))
  return year ++ '-' :: month ++ '-' :: day

def dropTrailingZeros (ds : List Char) : List Char := (ds.reverse.dropWhile (· = '0')).reverse

/-- A time of day; of a fraction nine digits count. -/
def scanTime : Scan (List Char) := do
  let hour ← scanTwo 0 23
  Scan.expect ':'
  let minute ← scanTwo 0 59
  Scan.expect ':'
  let second ← scanTwo 0 60
  let fraction ←
    if ← Scan.accept '.' then dropTrailingZeros <$> (List.take 9 <$> Scan.takeWhile1 Char.isDigit)
    else pure []
  return hour ++ ':' :: minute ++ ':' :: second
    ++ if fraction.isEmpty then [] else '.' :: fraction

/-- The distance from universal time, if one follows; none at all is written with a plus. -/
def scanOffset : Scan (List Char) := do
  match ← Scan.peek with
  | some 'Z' | some 'z' =>
    let _ ← Scan.next
    return ['Z']
  | some '+' | some '-' =>
    let sign ← Scan.next
    let hour ← scanTwo 0 23
    Scan.expect ':'
    let minute ← scanTwo 0 59
    let none := hour ++ minute = "0000".toList
    return (if none then '+' else sign) :: hour ++ ':' :: minute
  | _ => return []

def scanMoment : Scan Tree := do
  let text ←
    (do
      let date ← scanDate
      let next ← Scan.peek
      let digitAfter := (← Scan.peekSecond).any Char.isDigit
      if next = some 'T' || next = some 't' || (next = some ' ' && digitAfter) then
        let _ ← Scan.next
        let time ← scanTime
        return date ++ 'T' :: time ++ (← scanOffset)
      else return date)
    <|> scanTime
  return .string (String.ofList text)

def isNumberChar (c : Char) : Bool :=
  c.isAlphanum || c = '.' || c = '_' || c = '+' || c = '-'

def scanNumber : Scan Tree := do
  match number? (← Scan.takeWhile1 isNumberChar) with
  | some v => return v
  | none => failure

/-- A date starts with four digits and a hyphen, a time with two digits and a colon. -/
def startsMoment (cs : List Char) : Bool :=
  let ds := cs.takeWhile Char.isDigit
  let next := cs[ds.length]?
  (ds.length = 4 && next = some '-') || (ds.length = 2 && next = some ':')

mutual

/-- A value; `depth` says how many arrays and tables it stands in. -/
def scanValue : (bound depth : Nat) → Scan Tree
  | 0, _ => failure
  | bound + 1, depth => do
    match ← Scan.peek with
    | some '"' => return .string (← scanString '"')
    | some '\'' => return .string (← scanString '\'')
    | some '[' =>
      let _ ← Scan.next
      unless depth + 1 < depthLimit do failure
      return .array (← scanItems bound (depth + 1))
    | some '\x7b' =>
      let _ ← Scan.next
      unless depth + 1 < depthLimit do failure
      gap
      if ← Scan.accept '\x7d' then return .table []
      return .table (treesOf (← scanPairs bound (depth + 1) []))
    | some 't' => Scan.expectWord "true"; return .bool true
    | some 'f' => Scan.expectWord "false"; return .bool false
    | _ => if startsMoment (← get) then scanMoment else scanNumber

/-- The items of an array up to its end; they may stand on several lines. -/
def scanItems : (bound depth : Nat) → Scan (List Tree)
  | 0, _ => failure
  | bound + 1, depth => do
    commentLines
    if ← Scan.accept ']' then return []
    let v ← scanValue bound depth
    commentLines
    if ← Scan.accept ']' then return [v]
    Scan.expect ','
    return v :: (← scanItems bound depth)

def scanPairs : (bound depth : Nat) → Nodes → Scan Nodes
  | 0, _, _ => failure
  | bound + 1, depth, done => do
    let keys ← scanKey
    Scan.expect '='
    gap
    let v ← scanValue bound depth
    let some done := Nodes.defineDotted v keys done | failure
    gap
    if ← Scan.accept '\x7d' then return done
    Scan.expect ','
    scanPairs bound depth done

end

/-- The statements of a document; `path` leads to the table that is open. -/
def scanStatements : (bound : Nat) → (path : List String) → Nodes → Scan Nodes
  | 0, _, _ => failure
  | bound + 1, path, nodes => do
    commentLines
    match ← Scan.peek with
    | none => return nodes
    | some '[' =>
      let _ ← Scan.next
      let double ← Scan.accept '['
      let keys ← scanKey
      Scan.expectWord (if double then "]]" else "]")
      restOfLine
      let name := keys.getLast?.getD ""
      let start := if double then Nodes.openItem name else Nodes.openTable name
      let some nodes := Nodes.within start keys.dropLast nodes | failure
      scanStatements bound keys nodes
    | some _ =>
      let keys ← scanKey
      Scan.expect '='
      gap
      let v ← scanValue (← Scan.bound) 0
      restOfLine
      let some nodes := Nodes.within (Nodes.defineDotted v keys) path nodes | failure
      scanStatements bound path nodes

/-- The statements of a text, after a mark of byte order if there is one. -/
def scanDocument : Scan Nodes := do
  discard (Scan.accept '\ufeff')
  scanStatements (← Scan.bound) [] []

end Toml

def readToml (text : String) : Option Entries :=
  (Scan.all Toml.scanDocument text).map Toml.treesOf

end Config

end ResilientChat
