import ResilientChat.Json.Value

/-!
Values of a fixed shape read from JSON. A record is an object in which no known
key occurs twice; keys that are not known are passed over. It may also be an
array of its fields in order.
-/

namespace ResilientChat.Json

structure Record where
  members : List (String × Value)
  /-- The record was an array, in which a missing field is never taken as null. -/
  positional : Bool

namespace Record

/-- Reads a record with the known field names in their order. -/
def ofValue? (known : List String) : Value → Option Record
  | .object members =>
    if known.all fun name => (members.filter (·.1 = name)).length ≤ 1 then
      some ⟨members, false⟩
    else none
  | .array items =>
    if items.length ≤ known.length then some ⟨known.zip items, true⟩ else none
  | _ => none

variable {α : Type}

def field? (r : Record) (name : String) : Option Value := r.members.lookup name

def required (r : Record) (name : String) (decode : Value → Option α) : Option α :=
  (r.field? name).bind decode

/-- A field whose null means that there is no value; so does leaving it out. -/
def optional (r : Record) (name : String) (decode : Value → Option α) : Option (Option α) :=
  match r.field? name with
  | none => if r.positional then none else some none
  | some .null => some none
  | some v => (decode v).map some

def withDefault (r : Record) (name : String) (default : α) (decode : Value → Option α) :
    Option α :=
  match r.field? name with
  | none => some default
  | some v => decode v

/-- A field that is none when it is left out or null. -/
def optionalWithDefault (r : Record) (name : String) (default : Option α)
    (decode : Value → Option α) : Option (Option α) :=
  match r.field? name with
  | none => some default
  | some .null => some none
  | some v => (decode v).map some

end Record

namespace Value

def bool? : Value → Option Bool
  | .bool b => some b
  | _ => none

def string? : Value → Option String
  | .string s => some s
  | _ => none

def items? : Value → Option (List Value)
  | .array items => some items
  | _ => none

def natBelow? (limit : Nat) : Value → Option Nat
  | .number (.int n) => if 0 ≤ n && n < limit then some n.toNat else none
  | _ => none

def uint32? (v : Value) : Option UInt32 := (v.natBelow? UInt32.size).map Nat.toUInt32

def uint64? (v : Value) : Option UInt64 := (v.natBelow? UInt64.size).map Nat.toUInt64

def float? : Value → Option Float
  | .number (.int n) => some (Float.ofInt n)
  | .number (.float x) => if x.isFinite then some x else none
  | .number (.single x) => some x.toFloat
  | _ => none

def float32? : Value → Option Float32
  | .number (.int n) => some (Float32.ofInt n)
  | .number (.float x) => if x.isFinite then some x.toFloat32 else none
  | .number (.single x) => some x
  | _ => none

end Value

end ResilientChat.Json
