/-!
Reading a text from the front. A scanner takes characters off a list and may
fail; an alternative starts again where the failed branch started. Every loop
counts down a bound, which callers take from the length of the text.
-/

namespace ResilientChat.Text

/-- Reads some characters and yields a value, or fails. -/
abbrev Scan := StateT (List Char) Option

namespace Scan

variable {α : Type}

def peek : Scan (Option Char) := do
  return (← get).head?

def peekSecond : Scan (Option Char) := do
  return (← get)[1]?

def next : Scan Char := do
  match ← get with
  | c :: rest => set rest; return c
  | [] => failure

/-- Takes the next character off if it satisfies `p`. -/
def acceptIf (p : Char → Bool) : Scan (Option Char) := do
  match ← get with
  | c :: rest => if p c then do set rest; return some c else return none
  | [] => return none

/-- Takes `c` off if it comes next, and says whether it did. -/
def accept (c : Char) : Scan Bool := do
  return (← acceptIf (· = c)).isSome

def expect (c : Char) : Scan Unit := do
  unless ← accept c do failure

/-- Takes `word` off if the text starts with it, and says whether it did. -/
def acceptWord (word : String) : Scan Bool := do
  let rest ← get
  let cs := word.toList
  if cs.isPrefixOf rest then do set (rest.drop cs.length); return true else return false

def expectWord (word : String) : Scan Unit := do
  unless ← acceptWord word do failure

def takeWhile (p : Char → Bool) : Scan (List Char) := do
  let rest ← get
  set (rest.dropWhile p)
  return rest.takeWhile p

def takeWhile1 (p : Char → Bool) : Scan (List Char) := do
  let cs ← takeWhile p
  if cs.isEmpty then failure else return cs

def skipWhile (p : Char → Bool) : Scan Unit := modify (·.dropWhile p)

def atEnd : Scan Bool := do
  return (← get).isEmpty

/-- A bound for every loop over what is left: no loop turns without reading. -/
def bound : Scan Nat := do
  return 2 * (← get).length + 4

def all (scan : Scan α) (s : String) : Option α :=
  match scan.run s.toList with
  | some (a, []) => some a
  | _ => none

end Scan

end ResilientChat.Text
