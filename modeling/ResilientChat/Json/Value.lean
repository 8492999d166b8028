/-!
JSON values. An object is a list of members; `canonical` sorts the members of
every object by key and keeps the last one of each key, which is the form of
values that no fixed shape is asked of.
-/

namespace ResilientChat.Json

/-- Whole numbers are kept exactly; others are floats of 64 or, where a shape says so, 32 bits. -/
inductive Number where
  | int (n : Int)
  | float (x : Float)
  | single (x : Float32)
deriving Repr, Inhabited

inductive Value where
  | null
  | bool (b : Bool)
  | number (n : Number)
  | string (s : String)
  | array (items : List Value)
  | object (members : List (String × Value))
deriving Repr, Inhabited

/-- Puts a member in its place in a list sorted by key; an earlier one is replaced. -/
def insertMember (key : String) (v : Value) :
    List (String × Value) → List (String × Value)
  | [] => [(key, v)]
  | (k, w) :: rest =>
    if key < k then (key, v) :: (k, w) :: rest
    else if key = k then (key, v) :: rest
    else (k, w) :: insertMember key v rest

namespace Value

def int (n : Int) : Value := .number (.int n)

def nat (n : Nat) : Value := .number (.int n)

/-- Infinities and NaN have no number in JSON. -/
def float (x : Float) : Value :=
  if x.isFinite then .number (.float x) else .null

def single (x : Float32) : Value :=
  if x.isFinite then .number (.single x) else .null

mutual

/-- Members sorted by key, the last one of each key. -/
def canonical : Value → Value
  | .array items => .array (canonicalItems items)
  | .object members => .object (canonicalMembers members)
  | v => v

def canonicalItems : List Value → List Value
  | [] => []
  | v :: rest => canonical v :: canonicalItems rest

def canonicalMembers : List (String × Value) → List (String × Value)
  | [] => []
  | (key, v) :: rest =>
    let sorted := canonicalMembers rest
    if sorted.any (·.1 = key) then sorted else insertMember key (canonical v) sorted

end

/--
What stands for a part of a text that follows the grammar but has no value: a number out of
range, a string with half of a surrogate pair, an object with such a key, or an array or object
that is nested too deeply. Numbers that are written are never NaN, so nothing else is like it.
-/
def unreadable : Value := .number (.float (0.0 / 0.0))

mutual

/-- No part of the value is unreadable. -/
def isReadable : Value → Bool
  | .number (.float x) => x.isFinite
  | .array items => areReadable items
  | .object members => membersReadable members
  | _ => true

def areReadable : List Value → Bool
  | [] => true
  | v :: rest => isReadable v && areReadable rest

def membersReadable : List (String × Value) → Bool
  | [] => true
  | (_, v) :: rest => isReadable v && membersReadable rest

end

/-- The value where any shape will do; none if a part of it is unreadable. -/
def untyped? (v : Value) : Option Value := if v.isReadable then some v.canonical else none

def member? (key : String) : Value → Option Value
  | .object members => members.reverse.lookup key
  | _ => none

end Value

end ResilientChat.Json
