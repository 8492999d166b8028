import ResilientChat.Decimal.Layout
import ResilientChat.Json.Value
import ResilientChat.Text.Digit

/-!
Values to JSON text, without blanks. Strings escape the quote, the backslash and
the control characters; everything else stands for itself.
-/

namespace ResilientChat.Json

open Text

def escapeChar (c : Char) : List Char :=
  match c with
  | '"' => ['\\', '"']
  | '\\' => ['\\', '\\']
  | '\x08' => ['\\', 'b']
  | '\x0c' => ['\\', 'f']
  | '\n' => ['\\', 'n']
  | '\r' => ['\\', 'r']
  | '\t' => ['\\', 't']
  | c => if c.val < 0x20 then '\\' :: 'u' :: hexChars 4 c.toNat else [c]

def quote (s : String) : String :=
  "\"" ++ String.ofList (s.toList.flatMap escapeChar) ++ "\""

def Number.text : Number → String
  | .int n => toString n
  | .float x => ((Decimal.Binary.ofFloat x).numeral? .double).getD "null"
  | .single x => ((Decimal.Binary.ofFloat32 x).numeral? .single).getD "null"

namespace Value

mutual

def text : Value → String
  | .null => "null"
  | .bool true => "true"
  | .bool false => "false"
  | .number n => n.text
  | .string s => quote s
  | .array items => "[" ++ String.intercalate "," (itemTexts items) ++ "]"
  | .object members =>
    "\x7b" ++ String.intercalate "," (memberTexts members) ++ "\x7d"

def itemTexts : List Value → List String
  | [] => []
  | v :: rest => text v :: itemTexts rest

def memberTexts : List (String × Value) → List String
  | [] => []
  | (key, v) :: rest => (quote key ++ ":" ++ text v) :: memberTexts rest

end

/-- A character of a text, escaped by its units of 16 bits if it is not ASCII. -/
def asciiChar (c : Char) : List Char :=
  let n := c.toNat
  let unit (n : Nat) : List Char := '\\' :: 'u' :: hexChars 4 n
  if n < 0x80 then [c]
  else if n < 0x10000 then unit n
  else unit (0xD800 + (n - 0x10000) / 0x400) ++ unit (0xDC00 + (n - 0x10000) % 0x400)

def asciiText (v : Value) : String := String.ofList (v.text.toList.flatMap asciiChar)

end Value

end ResilientChat.Json
