import ResilientChat.Json.Reader
import ResilientChat.Json.Writer

/-!
Request ids: numbers of 128 bits, written as hexadecimal digits in five groups.
-/

namespace ResilientChat

def RequestId.limit : Nat := UInt64.size * UInt64.size

structure RequestId where
  value : Nat
  bounded : value < RequestId.limit := by decide
deriving Repr, DecidableEq

namespace RequestId

def ofNat (n : Nat) : RequestId := ⟨n % limit, Nat.mod_lt _ (by decide)⟩

instance : Inhabited RequestId := ⟨ofNat 0⟩

def groups : List Nat := [8, 4, 4, 4, 12]

def hyphenate : List Nat → List Char → List Char
  | [], _ => []
  | [n], ds => ds.take n
  | n :: rest, ds => ds.take n ++ '-' :: hyphenate rest (ds.drop n)

def text (id : RequestId) : String := String.ofList (hyphenate groups (Text.hexChars 32 id.value))

def ofDigits? (ds : List Char) : Option RequestId :=
  if ds.length = 32 then
    (Text.inBase? 16 ds).map ofNat
  else none

/-- Digits in groups; a text whose hyphens stand elsewhere is refused. -/
def ofGroups? (cs : List Char) : Option RequestId :=
  let ds := cs.filter (· ≠ '-')
  if hyphenate groups ds = cs then ofDigits? ds else none

/-- Reads plain digits, groups, groups in braces and groups after `urn:uuid:`. -/
def ofText? (s : String) : Option RequestId :=
  let cs := s.toList
  if cs.length = 32 then ofDigits? cs
  else if cs.length = 36 then ofGroups? cs
  else if cs.length = 38 && cs.head? = some '\x7b' && cs.getLast? = some '\x7d' then
    ofGroups? (cs.tail.dropLast)
  else if cs.length = 45 && "urn:uuid:".toList.isPrefixOf cs then ofGroups? (cs.drop 9)
  else none

end RequestId

end ResilientChat
