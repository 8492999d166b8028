import ResilientChat.Config.Yaml.Cursor

/-!
Scalars without quotes. One ends before a colon with a blank after it, before a
comment, where a line is not indented far enough, and in brackets before a mark
that belongs to them.
-/

namespace ResilientChat

namespace Config

open Text

namespace Yaml

namespace Plain

open Reading

def word (inFlow : Bool) : List Char → List Char
  | [] => []
  | c :: rest =>
    let next := rest.head?
    if isGap c || isBreak c || (inFlow && isFlowMark c) then []
    else if c = ':' && (endsWord next || (inFlow && next.any isFlowMark)) then []
    else c :: word inFlow rest

/-- A tab in the indentation stands only on a line without content. -/
def overTab (indent : Int) : Reading Unit := do
  if (← get).column < indent then
    discard restOfLine
    unless endsLine (← peek) do failure
  else modify (·.skip 1)

/-- The words of a scalar; `gap` stands before the next one. -/
def scanWords (indent : Int) (inFlow : Bool) : (bound : Nat) → (gap : List Char) →
    Reading (List Char)
  | 0, _ => failure
  | bound + 1, gap => do
    let c ← get
    if c.atDocumentMark || c.rest.head? = some '#' then return []
    if inFlow && c.rest.head? = some '-' && (c.rest[1]?).any isFlowMark then failure
    let cs := word inFlow c.rest
    if cs.isEmpty then return []
    set (c.pass cs.length)
    let next ← fold (overTab indent)
    if next.isEmpty || (!inFlow && (← get).column < indent) then return gap ++ cs
    return gap ++ cs ++ (← scanWords indent inFlow bound next)

/-- A scalar whose lines are indented by at least `indent`, inside brackets the first one too. -/
def scan (indent : Int) (inFlow : Bool) : Reading String := do
  if inFlow && (← get).column < indent then failure
  return String.ofList (← scanWords indent inFlow (← Reading.bound) [])

end Plain

end Yaml

end Config

end ResilientChat
