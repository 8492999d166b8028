import ResilientChat.Config.Yaml.Cursor

/-!
Scalars over the indented lines after a bar, which keeps the ends of lines, or
after an angle, which folds them. A sign says what becomes of the ends of lines
behind the text, and a digit how far its lines are indented.
-/

namespace ResilientChat

namespace Config

open Text

namespace Yaml

namespace Block

open Reading

inductive Tail where
  /-- All go. -/
  | strip
  /-- One stays. -/
  | clip
  /-- All stay. -/
  | keep
deriving Repr, DecidableEq

def scanTail? : Reading (Option Tail) := do
  if ← accept '+' then return some .keep
  else if ← accept '-' then return some .strip
  else return none

/-- The digit, if there is one; it is not zero. -/
def scanIndent? : Reading (Option Nat) := do
  match ← peek with
  | some c =>
    if !c.isDigit then return none
    if c = '0' then failure
    modify (·.pass 1)
    return some (c.toNat - '0'.toNat)
  | none => return none

def scanHeader : Reading (Tail × Option Nat) := do
  match ← scanTail? with
  | some tail => return (tail, ← scanIndent?)
  | none =>
    let indent? ← scanIndent?
    if indent?.isNone then return (.clip, none)
    return ((← scanTail?).getD .clip, indent?)

def skipSpaces (column : Nat) : Reading Unit := do
  let c ← get
  set (c.skip ((c.rest.takeWhile (· = ' ')).length.min (column - c.column)))

/-- Skips empty lines and the indentation of the next one, and counts the lines. -/
def skipEmpty (indent : Nat) : (bound : Nat) → Reading Nat
  | 0 => failure
  | bound + 1 => do
    skipSpaces indent
    if (← peek).any isBreak then
      modify Cursor.nextLine
      return (← skipEmpty indent bound) + 1
    else return 0

/-- Skips empty lines, counts them, and finds the widest indentation up to the first text. -/
def findIndent : (bound widest : Nat) → Reading (Nat × Nat)
  | 0, _ => failure
  | bound + 1, widest => do
    let c ← get
    let c := c.skip (c.rest.takeWhile (· = ' ')).length
    set c
    let widest := max widest c.column
    if c.rest.head?.any isBreak then
      modify Cursor.nextLine
      let (n, widest) ← findIndent bound widest
      return (n + 1, widest)
    else return (0, widest)

def breaks (n : Nat) : List Char := List.replicate n '\n'

structure Lines where
  text : List Char
  /-- The last line has an end. -/
  ended : Bool
  /-- The empty lines after it. -/
  empty : Nat

/--
The lines of the text from here on, after a line that has an end or the header, and after some
empty lines. Two lines are folded unless one of them starts with a blank.
-/
def scanLines (literal : Bool) (indent : Nat) : (bound : Nat) → (ended : Bool) → (empty : Nat) →
    (afterBlank : Bool) → Reading Lines
  | 0, _, _, _ => failure
  | bound + 1, ended, empty, afterBlank => do
    let c ← get
    if c.column ≠ indent || c.rest.isEmpty || (indent = 0 && c.atTriple '.') then
      return ⟨[], ended, empty⟩
    let blank := c.rest.head?.any isGap
    let before :=
      if literal || !ended || afterBlank || blank then breaks (ended.toNat + empty)
      else if empty = 0 then [' ']
      else breaks empty
    let line ← passWhile fun c => !isBreak c
    if (← peek).isNone then return ⟨before ++ line, false, 0⟩
    modify Cursor.nextLine
    let empty ← skipEmpty indent (← Reading.bound)
    let more ← scanLines literal indent bound true empty blank
    return { more with text := before ++ line ++ more.text }

def emptyText (tail : Tail) (breakAfterHeader : Bool) (lines : Nat) : List Char :=
  match tail with
  | .strip => []
  | .clip => breaks breakAfterHeader.toNat
  | .keep => if !breakAfterHeader then [] else breaks (max 1 lines)

/-- A scalar after its bar or angle, in a block that is indented by `outer`. -/
def scan (outer : Int) (literal : Bool) : Reading String := do
  let (tail, digit) ← scanHeader
  discard restOfLine
  unless endsLine (← peek) do failure
  let breakAfterHeader := (← peek).isSome
  if breakAfterHeader then modify Cursor.nextLine
  if (← peek) = some '\t' then failure
  let (empty, indent) ←
    match digit with
    | some n =>
      let indent := (max outer 0).toNat + n
      pure (← skipEmpty indent (← Reading.bound), indent)
    | none =>
      let (empty, widest) ← findIndent (← Reading.bound) 0
      pure (empty, max widest (outer + 1).toNat)
  if (← peek).isNone then return String.ofList (emptyText tail breakAfterHeader empty)
  let c ← get
  if c.column < indent && outer < c.column then failure
  let lines ← scanLines literal indent (← Reading.bound) false empty false
  let c ← get
  let unended := c.rest.isEmpty && max indent 1 ≤ c.column
  let after :=
    match tail with
    | .strip => 0
    | .clip => lines.ended.toNat + unended.toNat
    | .keep => lines.ended.toNat + unended.toNat + lines.empty
  return String.ofList (lines.text ++ breaks after)

end Block

end Yaml

end Config

end ResilientChat
