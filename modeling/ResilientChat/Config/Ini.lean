import ResilientChat.Config.Tree
import ResilientChat.Text.Digit

/-!
INI documents: lines `key = value`, in sections or before the first one. All
values are strings. A comment starts in the first column and takes the whole
line; only a line feed ends the line of a comment or starts a new first column.
-/

namespace ResilientChat

namespace Config

open Text

namespace Ini

def isLineEnd (c : Char) : Bool := c = '\n' || c = '\r'

def trim (cs : List Char) : String :=
  let back := (cs.dropWhile isBlank).reverse.dropWhile isBlank
  String.ofList back.reverse

/-- The number of four hexadecimal digits, where a plus may take the place of the first one. -/
def unitOf? (cs : List Char) : Option Nat :=
  if cs.length ≠ 4 then none
  else
    match cs with
    | '+' :: ds => inBase? 16 ds
    | ds => inBase? 16 ds

/-- What an escape stands for, after its backslash. A line feed stands for nothing. -/
def scanEscape : Scan (List Char) := do
  match ← Scan.next with
  | '0' => return ['\x00']
  | 'a' => return ['\x07']
  | 'b' => return ['\x08']
  | 't' => return ['\t']
  | 'r' => return ['\r']
  | 'n' => return ['\n']
  | '\n' => return []
  | 'x' =>
    let cs ← get
    let some n := unitOf? (cs.take 4) | failure
    unless n.isValidChar do failure
    set (cs.drop 4)
    return [Char.ofNat n]
  | c => return [c]

/-- Text up to a character that ends it; `atEnd` says whether the end of the document does too. -/
def scanUntil (ends : Char → Bool) (atEnd : Bool) : (bound : Nat) → Scan (List Char)
  | 0 => failure
  | bound + 1 => do
    match ← Scan.peek with
    | none => if atEnd then return [] else failure
    | some c =>
      if ends c then return []
      let _ ← Scan.next
      let cs ← if c = '\\' then scanEscape else pure [c]
      return cs ++ (← scanUntil ends atEnd bound)

def scanLine : Scan (List Char) := do
  scanUntil isLineEnd true (← Scan.bound)

/-- A value: the rest of the line, where a text in quotes may come first; blanks around it go. -/
def scanValue : Scan String := do
  Scan.skipWhile fun c => isBlank c && !isLineEnd c
  let quoted (q : Char) : Scan (List Char) := do
    let _ ← Scan.next
    let inner ← scanUntil (· = q) false (← Scan.bound)
    let _ ← Scan.next
    return inner
  let first ←
    match ← Scan.peek with
    | some '"' => quoted '"'
    | some '\'' => quoted '\''
    | _ => pure []
  return trim (first ++ (← scanLine))

/-- The sections of a document; the entries before the first section have no name. -/
abbrev Sections := List (Option String × Entries)

def addEntry (key value : String) : Sections → Sections
  | [] => [(none, [(key, .string value)])]
  | [(name, entries)] => [(name, Entries.put key (.string value) entries)]
  | first :: rest => first :: addEntry key value rest

/-- Skips blanks and says whether the next character stands in the first column. -/
def skipBlanks (atLineStart : Bool) : Scan Bool := do
  let skipped ← Scan.takeWhile isBlank
  return match skipped.getLast? with
    | none => atLineStart
    | some c => c = '\n'

def scanSections : (bound : Nat) → (atLineStart : Bool) → Sections → Scan Sections
  | 0, _, _ => failure
  | bound + 1, atLineStart, done => do
    let atLineStart ← skipBlanks atLineStart
    match ← Scan.peek with
    | none => return done
    | some ';' | some '#' =>
      unless atLineStart do failure
      Scan.skipWhile (· ≠ '\n')
      scanSections bound false done
    | some '[' =>
      let _ ← Scan.next
      let name ← scanUntil (· = ']') false (← Scan.bound)
      let _ ← Scan.next
      scanSections bound false (done ++ [(some (trim name), [])])
    | some _ =>
      let key ← scanUntil (fun c => c = '=' || c = ':') false (← Scan.bound)
      let _ ← Scan.next
      if (trim key).isEmpty then failure
      let value ← scanValue
      scanSections bound false (addEntry (trim key) value done)

def scanDocument : Scan Sections := do
  scanSections (← Scan.bound) true []

/-- The entries without a section, and a table for each section. -/
def toEntries (sections : Sections) : Entries :=
  sections.foldl (fun document s =>
    match s.1 with
    | none => s.2.foldl (fun document e => Entries.put e.1 e.2 document) document
    | some name => Entries.put name (.table s.2) document) []

end Ini

def readIni (text : String) : Option Entries :=
  (Scan.all Ini.scanDocument text).map Ini.toEntries

end Config

end ResilientChat
