import ResilientChat.Config.Yaml.Block
import ResilientChat.Config.Yaml.Plain
import ResilientChat.Config.Yaml.Quoted
import ResilientChat.Config.Yaml.Token

/-!
The tokens of a text. Outside brackets the indentation opens and closes mappings
and sequences. A key shows itself only by the colon behind it, so the place of
the last token that may start one is kept, and the tokens of a key and of the
mapping around it are put in there.
-/

namespace ResilientChat

namespace Config

open Text

namespace Yaml

structure Level where
  /-- The indentation around it. -/
  outer : Int
  /-- It is that of a mapping or a sequence; else only of a value that may become one. -/
  isBlock : Bool
deriving Repr, DecidableEq

/-- A token that may turn out to start a key. -/
structure KeyStart where
  /-- Its place among the tokens. -/
  place : Nat
  index : Nat
  line : Nat
  column : Nat
  /-- Nothing but a key may stand there. -/
  required : Bool
deriving Repr, DecidableEq

structure Lexer where
  cursor : Cursor
  tokens : Array Token := #[]
  indent : Int := -1
  /-- The levels inside one another, the innermost first. -/
  levels : List Level := []
  keyAllowed : Bool := true
  /-- Where a key may have started: in the brackets, the innermost first, and outside them. -/
  starts : List (Option KeyStart) := [none]
  /-- Where a colon needs no blank after it. -/
  adjacent : Nat := 0
  /-- The colons that follow belong to a mapping that was opened. -/
  mappingOpened : Bool := false
  /-- For each sequence in brackets: whether its item is a mapping without braces. -/
  bareMappings : List Bool := []
deriving Inhabited

abbrev Lexing := StateT Lexer Option

namespace Lexer

def inFlow (s : Lexer) : Bool := 1 < s.starts.length

def column (s : Lexer) : Nat := s.cursor.column

def push (t : Token) (s : Lexer) : Lexer := { s with tokens := s.tokens.push t }

def insert (place : Nat) (t : Token) (s : Lexer) : Lexer :=
  { s with tokens := s.tokens.insertIdxIfInBounds place t }

def leaveBeyond (column : Int) (s : Lexer) : Lexer :=
  if s.inFlow then s else go s.levels s
where
  go : List Level → Lexer → Lexer
    | [], s => s
    | level :: rest, s =>
      if column < s.indent then
        let s := { s with indent := level.outer, levels := rest }
        go rest (if level.isBlock then s.push .blockEnd else s)
      else s

/-- Leaves a level that became no mapping or sequence. -/
def leaveValue (s : Lexer) : Lexer :=
  match s.levels with
  | ⟨outer, false⟩ :: rest => { s with indent := outer, levels := rest }
  | _ => s

/-- Opens a mapping or sequence at a column unless one is open there. -/
def openLevel (column : Nat) (place : Option Nat) (t : Token) (s : Lexer) : Lexer :=
  if s.inFlow then s
  else
    let s := if s.indent ≤ column then s.leaveValue else s
    if s.indent < column then
      let s := { s with levels := ⟨s.indent, true⟩ :: s.levels, indent := column }
      s.insert (place.getD s.tokens.size) t
    else s

/-- What follows is indented further than the mapping or sequence around it. -/
def openValue (s : Lexer) : Lexer :=
  if !s.inFlow && s.levels.head?.any Level.isBlock then
    { s with levels := ⟨s.indent, false⟩ :: s.levels, indent := s.indent + 1 }
  else s

def saveStart (s : Lexer) : Lexer :=
  if s.keyAllowed then
    let c := s.cursor
    let required := !s.inFlow && s.indent = c.column && s.levels.head?.any Level.isBlock
    { s with starts := some ⟨s.tokens.size, c.index, c.line, c.column, required⟩ :: s.starts.tail }
  else s

def start? (s : Lexer) : Option KeyStart := s.starts.head?.join

/-- No token so far starts a key; none if one has to. -/
def dropStart? (s : Lexer) : Option Lexer :=
  if s.start?.any KeyStart.required then none else some { s with starts := none :: s.starts.tail }

/-- Outside brackets a key stands on one line and has at most that many characters. -/
def keyLimit : Nat := 1024

def dropStale? (s : Lexer) : Option Lexer :=
  let isStale (k : KeyStart) : Bool :=
    k.line < s.cursor.line || k.index + keyLimit < s.cursor.index
  if !s.inFlow && s.start?.any isStale then s.dropStart? else some s

/-- Ends a mapping without braces in a sequence. -/
def endBareMapping (s : Lexer) : Lexer :=
  match s.bareMappings with
  | true :: rest =>
    { s with mappingOpened := false, bareMappings := false :: rest }.push .closeMapping
  | _ => s

end Lexer

namespace Lexing

open Lexer

def reading {α : Type} (read : Reading α) : Lexing α := do
  let s ← get
  match read.run s.cursor with
  | some (a, cursor) =>
    set { s with cursor }
    return a
  | none => failure

def modify? (f : Lexer → Option Lexer) : Lexing Unit := do
  match f (← get) with
  | some s => set s
  | none => failure

def allowKey (allowed : Bool) : Lexing Unit := modify fun s => { s with keyAllowed := allowed }

def emit (t : Token) : Lexing Unit := modify (·.push t)

def pass (n : Nat) : Lexing Unit := reading (modify (·.pass n))

/-- A tab does not indent a line with content in a block. -/
def skipTab : Lexing Unit := do
  let s ← get
  if !s.levels.isEmpty && s.cursor.fresh && s.column < s.indent then
    discard (reading Reading.restOfLine)
    unless endsLine (← reading Reading.peek) do failure
  else reading (modify (·.skip 1))

/-- Skips blanks, comments and ends of lines. Outside brackets a key may start a line. -/
def skipBlanks : (bound : Nat) → Lexing Unit
  | 0 => failure
  | bound + 1 => do
    match ← reading Reading.peek with
    | some '\t' =>
      skipTab
      skipBlanks bound
    | some ' ' =>
      reading (modify (·.skip 1))
      skipBlanks bound
    | some '#' =>
      reading Reading.comment
      skipBlanks bound
    | some c =>
      if isBreak c then
        reading (modify Cursor.nextLine)
        unless (← get).inFlow do allowKey true
        skipBlanks bound
    | none => return

def blanks : Lexing Unit := do
  skipBlanks ((← get).cursor.rest.length + 1)

def leaveAll : Lexing Unit := do
  modify (·.leaveBeyond (-1))
  modify? dropStart?
  allowKey false

def versionNumber : Reading Unit := do
  let ds ← Reading.passWhile Char.isDigit
  if ds.isEmpty || 9 < ds.length then failure

def isTagLetter (c : Char) : Bool := c.isAlphanum || c = '_' || c = '-'

def isUriChar (c : Char) : Bool :=
  c.isAlphanum || c = '-' || "#;/?:@&=+$,_.!~*'()[]%".toList.contains c

def isTagChar (c : Char) : Bool := isUriChar c && !isFlowMark c && c ≠ '!'

def uriByte : Reading Nat := do
  unless ← Reading.accept '%' do failure
  let ds := (← get).rest.take 2
  unless ds.length = 2 && ds.all isHexDigit do failure
  modify (·.pass 2)
  return hexValue ds

/-- The character of one or two escapes; two bytes stand side by side. -/
def uriEscape : Reading Char := do
  let first ← uriByte
  if first < 0x80 then return Char.ofNat first
  unless 0xC0 ≤ first && first < 0xE0 do failure
  let second ← uriByte
  let n := 0x100 * first + second
  unless 0x80 ≤ second && second < 0xC0 && n.isValidChar do failure
  return Char.ofNat n

def uriChars (p : Char → Bool) : (bound : Nat) → Reading (List Char)
  | 0 => failure
  | bound + 1 => do
    match ← Reading.peek with
    | some c =>
      if !p c then return []
      if c = '%' then
        let e ← uriEscape
        return e :: (← uriChars p bound)
      modify (·.pass 1)
      return c :: (← uriChars p bound)
    | none => return []

def uriText (p : Char → Bool) : Reading (List Char) := do
  uriChars p (← Reading.bound)

/-- An exclamation mark, letters, and perhaps a second mark. -/
def tagHandle : Reading (List Char × Bool) := do
  unless ← Reading.accept '!' do failure
  let cs ← Reading.passWhile isTagLetter
  let closed ← Reading.accept '!'
  return (cs, closed)

def handleText (cs : List Char) : String := String.ofList ('!' :: cs ++ ['!'])

/-- A line after a percent sign; one that is not known counts as a handle without a name. -/
def directive : Reading Token := do
  modify (·.pass 1)
  let name ← Reading.passWhile isTagLetter
  if name.isEmpty || !endsWord (← Reading.peek) then failure
  let token ←
    match String.ofList name with
    | "YAML" =>
      discard Reading.takeGaps
      versionNumber
      unless ← Reading.accept '.' do failure
      versionNumber
      pure Token.version
    | "TAG" =>
      discard Reading.takeGaps
      let (cs, closed) ← tagHandle
      if !closed && !cs.isEmpty then failure
      discard Reading.takeGaps
      let next ← Reading.peek
      unless next.any fun c => c = '!' || isTagChar c do failure
      let meaning ← uriText isUriChar
      unless endsWord (← Reading.peek) do failure
      pure (.tagHandle (if closed then handleText cs else "!") (String.ofList meaning))
    | _ =>
      discard (Reading.passWhile fun c => !isBreak c)
      pure (.tagHandle "" "")
  discard Reading.restOfLine
  unless endsLine (← Reading.peek) do failure
  if (← Reading.peek).isSome then modify Cursor.nextLine
  return token

/-- A tag: in full between angles, after a handle, or after a single mark. -/
def tag (inFlow : Bool) : Reading Token := do
  let token ←
    if (← Reading.peekSecond) = some '<' then
      modify (·.pass 2)
      let cs ← uriText isUriChar
      unless ← Reading.accept '>' do failure
      pure (Token.tag "" (String.ofList cs))
    else
      let (cs, closed) ← tagHandle
      let more ← uriText isTagChar
      if closed then
        if more.isEmpty then failure
        pure (.tag (handleText cs) (String.ofList more))
      else if (cs ++ more).isEmpty then pure (.tag "" "!")
      else pure (.tag "!" (String.ofList (cs ++ more)))
  let next ← Reading.peek
  if endsWord next || (inFlow && next.any isFlowMark) then return token else failure

def anchorName : Reading String := do
  modify (·.pass 1)
  let cs ← Reading.passWhile fun c =>
    !isGap c && !isBreak c && !isFlowMark c && c ≠ '\ufeff'
  if cs.isEmpty then failure else return String.ofList cs

def keyPart (keyAfter : Bool) (read : Reading Token) : Lexing Unit := do
  modify saveStart
  allowKey keyAfter
  emit (← reading read)

/-- A scalar in quotes; in brackets a colon may follow it directly. -/
def quoted : Lexing Unit := do
  let s ← get
  modify saveStart
  allowKey false
  let text ← reading (Quoted.scan s.indent s.inFlow)
  blanks
  modify fun s => { s with adjacent := s.cursor.index }
  emit (.scalar false text)

/-- A scalar without quotes; a key may follow if it ends with its line. -/
def plain : Lexing Unit := do
  modify saveStart
  allowKey false
  modify leaveValue
  let s ← get
  let text ← reading (Plain.scan (s.indent + 1) s.inFlow)
  if (← get).cursor.fresh then allowKey true
  emit (.scalar true text)

def block (literal : Bool) : Lexing Unit := do
  modify saveStart
  allowKey true
  pass 1
  modify leaveValue
  let s ← get
  emit (.scalar false (← reading (Block.scan s.indent literal)))

/-- Brackets nest no deeper than this. -/
def flowLimit : Nat := 255

def openBracket (t : Token) : Lexing Unit := do
  modify saveStart
  modify openValue
  let s ← get
  unless s.starts.length ≤ flowLimit do failure
  set { s with starts := none :: s.starts }
  allowKey true
  pass 1
  if t = .openMapping then modify fun s => { s with mappingOpened := true }
  else modify fun s => { s with bareMappings := false :: s.bareMappings }
  discard (reading Reading.restOfLine)
  emit t

def closeBracket (t : Token) : Lexing Unit := do
  modify? dropStart?
  modify fun s => if s.inFlow then { s with starts := s.starts.tail } else s
  allowKey false
  if t = .closeSequence then
    modify endBareMapping
    modify fun s => { s with bareMappings := s.bareMappings.tail }
  pass 1
  discard (reading Reading.restOfLine)
  modify fun s => if s.inFlow then { s with adjacent := s.cursor.index } else s
  emit t

def comma : Lexing Unit := do
  modify? dropStart?
  allowKey true
  modify endBareMapping
  pass 1
  discard (reading Reading.restOfLine)
  emit .comma

def item : Lexing Unit := do
  let s ← get
  if s.inFlow || !s.keyAllowed then failure
  pass 1
  modify (·.openLevel s.column none .blockSequence)
  let gaps ← reading Reading.restOfLine
  let c := (← get).cursor
  if gaps.contains '\t' && c.rest.head? = some '-' && endsWord c.rest[1]? then failure
  if c.rest.head?.any fun c => isBreak c || isFlowMark c then modify openValue
  modify? dropStart?
  allowKey true
  emit .item

/-- Spaces, comments and ends of lines; outside brackets a key may start a line. -/
def skipAfterMark : (bound : Nat) → Lexing Unit
  | 0 => failure
  | bound + 1 => do
    match ← reading Reading.peek with
    | some ' ' =>
      reading (modify (·.skip 1))
      skipAfterMark bound
    | some '#' =>
      reading Reading.comment
      skipAfterMark bound
    | some c =>
      if isBreak c then
        reading (modify Cursor.nextLine)
        unless (← get).inFlow do allowKey true
        skipAfterMark bound
    | none => return

/-- The question mark of a key; a space or the end of the line follows it, and no tab. -/
def questionMark : Lexing Unit := do
  let s ← get
  if s.inFlow then set { s with mappingOpened := true }
  else
    unless s.keyAllowed do failure
    set (s.openLevel s.column none .blockMapping)
  modify? dropStart?
  allowKey (!s.inFlow)
  pass 1
  let next ← reading Reading.peek
  unless next.any fun c => c = ' ' || isBreak c do failure
  skipAfterMark ((← get).cursor.rest.length + 1)
  if (← reading Reading.peek) = some '\t' then failure
  emit .key

/-- After a colon a tab alone does not set a word off. -/
def afterColon : Reading Unit := do
  if (← Reading.peek) = some '\t' then
    let gaps ← Reading.restOfLine
    if !gaps.contains ' ' && (← Reading.peek).any isTagLetter then failure

def colon : Lexing Unit := do
  let s ← get
  let bare := !s.bareMappings.isEmpty && !s.mappingOpened
  if bare then set { s with bareMappings := true :: s.bareMappings.tail }
  pass 1
  reading afterColon
  match s.start? with
  | some k =>
    modify (·.insert k.place .key)
    if bare then
      if k.line < s.cursor.line then failure
      modify (·.insert k.place .openMapping)
    modify (·.openLevel k.column (some k.place) .blockMapping)
    modify openValue
    modify fun s => { s with starts := none :: s.starts.tail }
    allowKey false
  | none =>
    if bare then emit .openMapping
    unless s.inFlow do
      unless s.keyAllowed do failure
      modify (·.openLevel s.column none .blockMapping)
    modify openValue
    allowKey (!s.inFlow)
  emit .value

/-- A mark that ends a document or starts one; after the former its line ends. -/
def documentMark : Lexing Unit := do
  let ends := (← get).cursor.atTriple '.'
  leaveAll
  pass 3
  if ends then
    emit .documentEnd
    discard (reading Reading.restOfLine)
    unless endsLine (← reading Reading.peek) do failure
  else emit .documentStart

/-- The next token; says whether there was one. -/
def step : Lexing Bool := do
  blanks
  modify? dropStale?
  modify fun s => s.leaveBeyond s.column
  let s ← get
  let c := s.cursor
  let some first := c.rest.head? |
    if s.starts.any fun k => k.any KeyStart.required then failure
    modify (·.leaveBeyond (-1))
    return false
  let second := c.rest[1]?
  if c.column = 0 && first = '%' then
    leaveAll
    emit (← reading directive)
  else if c.atDocumentMark then documentMark
  else if c.column < s.indent then failure
  else if first = '[' then openBracket .openSequence
  else if first = '\x7b' then openBracket .openMapping
  else if first = ']' then closeBracket .closeSequence
  else if first = '\x7d' then closeBracket .closeMapping
  else if first = ',' then comma
  else if first = '-' && endsWord second then item
  else if first = '?' && endsWord second then questionMark
  else if first = ':' && (endsWord second ||
      (s.inFlow && (second.any isFlowMark || c.index = s.adjacent))) then colon
  else if first = '*' then keyPart false (.alias <$> anchorName)
  else if first = '&' then keyPart false (.anchor <$> anchorName)
  else if first = '!' then keyPart false (tag s.inFlow)
  else if first = '|' && !s.inFlow then block true
  else if first = '>' && !s.inFlow then block false
  else if first = '\'' || first = '"' then quoted
  else if first = '%' || first = '@' || first = '\x60' then failure
  else plain
  return true

def steps : (bound : Nat) → Lexing Unit
  | 0 => failure
  | bound + 1 => do
    if ← step then steps bound

end Lexing

/-- The tokens of a text; none if no document has such a text. -/
def tokens? (text : String) : Option (List Token) :=
  let cursor := Cursor.ofText text
  match (Lexing.steps (cursor.rest.length + 1)).run { cursor } with
  | some ((), s) => some s.tokens.toList
  | none => none

end Yaml

end Config

end ResilientChat
