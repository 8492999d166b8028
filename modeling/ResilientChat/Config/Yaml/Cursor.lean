import ResilientChat.Text.Class

/-!
A place in the text of a YAML document. It knows its line and column, and whether
anything but blanks stands before it on its line. A line ends at a line feed, a
carriage return, or both in that order; the text ends at the first zero character.
-/

namespace ResilientChat

namespace Config

open Text

namespace Yaml

def isBreak (c : Char) : Bool := c = '\n' || c = '\r'

def endsWord (c : Option Char) : Bool := c.all fun c => isGap c || isBreak c

def endsLine (c : Option Char) : Bool := c.all isBreak

/-- The marks that brackets and what stands in them are made of. -/
def isFlowMark (c : Char) : Bool := "[]\x7b\x7d,".toList.contains c

structure Cursor where
  rest : List Char
  index : Nat := 0
  line : Nat := 0
  column : Nat := 0
  /-- Only blanks stand before it on its line. -/
  fresh : Bool := true
deriving Repr, DecidableEq, Inhabited

namespace Cursor

def ofText (text : String) : Cursor where
  rest := text.toList.takeWhile (· ≠ '\x00')

def skip (n : Nat) (c : Cursor) : Cursor :=
  { c with rest := c.rest.drop n, index := c.index + n, column := c.column + n }

/-- Over `n` characters that are not all blank. -/
def pass (n : Nat) (c : Cursor) : Cursor := { c.skip n with fresh := c.fresh && n = 0 }

def nextLine (c : Cursor) : Cursor :=
  let n :=
    match c.rest with
    | '\r' :: '\n' :: _ => 2
    | _ => 1
  { c.skip n with line := c.line + 1, column := 0, fresh := true }

/-- Three times the same mark, and nothing more of a word, in the first column. -/
def atTriple (mark : Char) (c : Cursor) : Bool :=
  match c.rest with
  | x :: y :: z :: rest =>
    c.column = 0 && x = mark && y = mark && z = mark && endsWord rest.head?
  | _ => false

def atDocumentMark (c : Cursor) : Bool := c.atTriple '-' || c.atTriple '.'

end Cursor

abbrev Reading := StateT Cursor Option

namespace Reading

def peek : Reading (Option Char) := do
  return (← get).rest.head?

def peekSecond : Reading (Option Char) := do
  return (← get).rest[1]?

/-- Takes `c` off if it comes next, and says whether it did. -/
def accept (c : Char) : Reading Bool := do
  if (← peek) = some c then
    modify (·.pass 1)
    return true
  else return false

/-- Takes the characters off that satisfy `p`, none of them a blank. -/
def passWhile (p : Char → Bool) : Reading (List Char) := do
  let cs := (← get).rest.takeWhile p
  modify (·.pass cs.length)
  return cs

def takeGaps : Reading (List Char) := do
  let gaps := (← get).rest.takeWhile isGap
  modify (·.skip gaps.length)
  return gaps

def comment : Reading Unit := do
  if (← peek) = some '#' then discard (passWhile fun c => !isBreak c)

/-- Skips blanks and a comment, which stands after a blank. -/
def restOfLine : Reading (List Char) := do
  let gaps ← takeGaps
  if gaps.isEmpty && (← peek) = some '#' then failure
  comment
  return gaps

/-- A bound for every loop over what is left. -/
def bound : Reading Nat := do
  return (← get).rest.length + 1

/-- Skips blanks and ends of lines, and counts the latter; `overTab` skips a tab. -/
def countBreaks (overTab : Reading Unit) : (bound : Nat) → Reading Nat
  | 0 => failure
  | bound + 1 => do
    match ← peek with
    | some '\t' =>
      overTab
      countBreaks overTab bound
    | some ' ' =>
      modify (·.skip 1)
      countBreaks overTab bound
    | some c =>
      if isBreak c then
        modify Cursor.nextLine
        return (← countBreaks overTab bound) + 1
      else return 0
    | none => return 0

def emptyLines (overTab : Reading Unit) : Reading Nat := do
  countBreaks overTab (← bound)

/--
What stands between two words of a scalar: the blanks of a line, or for the end of a line and
`n` empty lines after it a blank or, if there are any, `n` ends of lines.
-/
def fold (overTab : Reading Unit) : Reading (List Char) := do
  let gaps ← takeGaps
  if (← peek).any isBreak then
    modify Cursor.nextLine
    let n ← emptyLines overTab
    return if n = 0 then [' '] else List.replicate n '\n'
  else return gaps

end Reading

end Yaml

end Config

end ResilientChat
