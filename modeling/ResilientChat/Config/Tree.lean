import ResilientChat.Decimal.Reading
import ResilientChat.Json.Value
import ResilientChat.Text.Class
import ResilientChat.Text.LowerCase
import ResilientChat.Text.Scan

/-!
The values of settings documents of every format, and how documents are laid over
one another. Keys of tables are compared in lower case; a table laid over a table
merges key by key, and anything else takes the place of what was there. The keys
at the top of a document may be paths into the tables and arrays below.
-/

namespace ResilientChat

namespace Config

open Text

inductive Tree where
  | null
  | bool (b : Bool)
  | int (n : Int)
  | float (x : Float)
  | string (s : String)
  | array (items : List Tree)
  | table (entries : List (String × Tree))
deriving Repr, Inhabited

/-- Whole numbers of documents have 64 bits with a sign. -/
def isWhole (n : Int) : Bool := Int64.minValue.toInt ≤ n && n ≤ Int64.maxValue.toInt

/-- A whole number, or the nearest float if it is out of range. -/
def wholeOrFloat (n : Int) : Tree := if isWhole n then .int n else .float (Float.ofInt n)

/-- The entries of a table, each key at most once. -/
abbrev Entries := List (String × Tree)

namespace Entries

def put (key : String) (v : Tree) : Entries → Entries
  | [] => [(key, v)]
  | (k, w) :: rest => if k = key then (key, v) :: rest else (k, w) :: put key v rest

end Entries

namespace Tree

def root? : Tree → Option Entries
  | .table entries => some entries
  | _ => none

/-- The entries of a table; anything else has no entries. -/
def entries : Tree → Entries
  | .table entries => entries
  | _ => []

def items : Tree → List Tree
  | .array items => items
  | _ => []

mutual

def assign (key : String) : Tree → Entries → Entries
  | .table incoming, entries =>
    let key := lower key
    Entries.put key (overlay incoming ((entries.lookup key).getD (.table []))) entries
  | v, entries => Entries.put (lower key) v entries

/-- Lays the entries of a table over a value; no entries leave it as it is. -/
def overlay : Entries → Tree → Tree
  | [], target => target
  | (key, v) :: rest, target => overlay rest (.table (assign key v target.entries))

end

mutual

/-- The value as JSON, where a float that is no number is written as null. -/
def toJson : Tree → Json.Value
  | .null => .null
  | .bool b => .bool b
  | .int n => .int n
  | .float x => .float x
  | .string s => .string s
  | .array items => .array (itemsToJson items)
  | .table entries => .object (entriesToJson entries)

def itemsToJson : List Tree → List Json.Value
  | [] => []
  | v :: rest => toJson v :: itemsToJson rest

def entriesToJson : Entries → List (String × Json.Value)
  | [] => []
  | (key, v) :: rest => (key, toJson v) :: entriesToJson rest

end

end Tree

inductive Step where
  | key (name : String)
  | index (n : Int)
deriving Repr, DecidableEq

def isIdentChar (c : Char) : Bool := c.isAlphanum || c = ' ' || c = '_' || c = '-'

def scanIdent : Scan Step := do
  return .key (String.ofList (← Scan.takeWhile1 isIdentChar))

/-- An index with a sign that may be left out, gaps around it, and the closing bracket. -/
def scanIndex : Scan Step := do
  Scan.skipWhile isGap
  let negative ← Scan.accept '-'
  unless negative do discard (Scan.accept '+')
  let size : Int := Decimal.digitsValue (← Scan.takeWhile1 Char.isDigit)
  Scan.skipWhile isGap
  Scan.expect ']'
  let n := if negative then -size else size
  if isWhole n then return .index n else failure

def scanSteps : (bound : Nat) → Scan (List Step)
  | 0 => failure
  | bound + 1 => do
    match ← Scan.peek with
    | some '.' =>
      let _ ← Scan.next
      return (← scanIdent) :: (← scanSteps bound)
    | some '[' =>
      let _ ← Scan.next
      return (← scanIndex) :: (← scanSteps bound)
    | _ => return []

def scanPath : Scan (List Step) := do
  return (← scanIdent) :: (← scanSteps (← Scan.bound))

/-- The path that a key stands for; a key that is no path is a single step. -/
def pathOf (key : String) : List Step := (Scan.all scanPath key).getD [.key key]

/-- The place of an index in an array of that length; a negative one counts from the end. -/
def place (n : Int) (length : Nat) : Nat :=
  if 0 ≤ n then n.toNat else length - n.natAbs

/-- Puts a value at a place; a short array is filled up with nulls. -/
def setItem (i : Nat) (v : Tree) (items : List Tree) : List Tree :=
  (items ++ List.replicate (i + 1 - items.length) Tree.null).set i v

/-- Lays a value over what lies at the end of a path; tables and arrays on the way are made. -/
def assignAt : List Step → Tree → Tree → Tree
  | [], _, current => current
  | [.key name], v, current => .table (Tree.assign name v current.entries)
  | [.index n], v, current =>
    let items := current.items
    .array (setItem (place n items.length) v items)
  | .key name :: rest, v, current =>
    let name := lower name
    let entries := current.entries
    .table (Entries.put name (assignAt rest v ((entries.lookup name).getD .null)) entries)
  | .index n :: rest, v, current =>
    let items := current.items
    let i := place n items.length
    .array (setItem i (assignAt rest v (items.getD i .null)) items)

def layOver (base : Tree) (document : Entries) : Tree :=
  document.foldl (fun tree e => assignAt (pathOf e.1) e.2 tree) base

end Config

end ResilientChat
