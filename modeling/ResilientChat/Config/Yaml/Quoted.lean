import ResilientChat.Config.Yaml.Cursor
import ResilientChat.Text.Digit

/-!
Scalars in quotes. In single quotes a quote is written twice; in double quotes a
backslash starts an escape, and one at the end of a line joins it with the next
one. Further lines are indented at least as far as the mapping around them.
-/

namespace ResilientChat

namespace Config

open Text

namespace Yaml

namespace Quoted

open Reading

def scanHex (width : Nat) : Reading Char := do
  let ds := (← get).rest.take width
  let n := hexValue ds
  unless ds.length = width && ds.all isHexDigit && n.isValidChar do failure
  modify (·.pass width)
  return Char.ofNat n

def scanEscape : Reading Char := do
  let some c ← peek | failure
  modify (·.pass 1)
  match c with
  | '0' => return '\x00'
  | 'a' => return '\x07'
  | 'b' => return '\x08'
  | 't' | '\t' => return '\t'
  | 'n' => return '\n'
  | 'v' => return '\x0b'
  | 'f' => return '\x0c'
  | 'r' => return '\r'
  | 'e' => return '\x1b'
  | ' ' => return ' '
  | '"' => return '"'
  | '/' => return '/'
  | '\\' => return '\\'
  | 'N' => return '\u0085'
  | '_' => return '\u00a0'
  | 'L' => return '\u2028'
  | 'P' => return '\u2029'
  | 'x' => scanHex 2
  | 'u' => scanHex 4
  | 'U' => scanHex 8
  | _ => failure

/-- Characters up to a blank or the closing quote; the flag says that a backslash ended the line. -/
def scanRun (quote : Char) : (bound : Nat) → Reading (List Char × Bool)
  | 0 => failure
  | bound + 1 => do
    let first ← peek
    let second ← peekSecond
    if first = some '\'' && second = some '\'' && quote = '\'' then
      modify (·.pass 2)
      let (cs, joined) ← scanRun quote bound
      return ('\'' :: cs, joined)
    else if endsWord first || first = some quote then return ([], false)
    else if first = some '\\' && quote = '"' then
      modify (·.pass 1)
      if second.any isBreak then
        modify Cursor.nextLine
        return ([], true)
      let c ← scanEscape
      let (cs, joined) ← scanRun quote bound
      return (c :: cs, joined)
    else
      let some c := first | failure
      modify (·.pass 1)
      let (cs, joined) ← scanRun quote bound
      return (c :: cs, joined)

/-- A tab does not indent a further line. -/
def overTab (indent : Int) : Reading Unit := do
  if (← get).column < indent then failure
  modify (·.skip 1)

def scanTail (indent : Int) (quote : Char) : (bound : Nat) → Reading (List Char)
  | 0 => failure
  | bound + 1 => do
    let c ← get
    if c.atDocumentMark || c.rest.isEmpty || c.column < indent then failure
    let (run, joined) ← scanRun quote (← Reading.bound)
    if ← accept quote then return run
    let gap ←
      if joined then (List.replicate · '\n') <$> emptyLines (overTab indent)
      else fold (overTab indent)
    return run ++ gap ++ (← scanTail indent quote bound)

/--
A scalar in quotes and the blanks after it. Then its line ends, or a mark of the brackets around
it follows, or the colon of a key; outside brackets such a key stands on one line.
-/
def scan (indent : Int) (inFlow : Bool) : Reading String := do
  let c ← get
  let some quote ← peek | failure
  modify (·.pass 1)
  let text ← scanTail indent quote (← Reading.bound)
  discard restOfLine
  let next ← peek
  let sameLine := c.line = (← get).line
  if endsLine next || (inFlow && (next = some ',' || next = some ']' || next = some '\x7d'))
      || (next = some ':' && (inFlow || sameLine)) then
    return String.ofList text
  else failure

end Quoted

end Yaml

end Config

end ResilientChat
