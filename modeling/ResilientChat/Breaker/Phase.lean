import ResilientChat.Json.Variant

/-!
The phases of a circuit, their names and their one-byte codes.
-/

namespace ResilientChat

namespace Breaker

inductive Phase where
  /-- Calls pass. -/
  | closed
  /-- Calls are refused until the break is over. -/
  | opened
  /-- One probe decides. -/
  | halfOpen
  /-- Refused by an operator until reset. -/
  | isolated
deriving Repr, DecidableEq, Inhabited

namespace Phase

def all : List Phase := [.closed, .opened, .halfOpen, .isolated]

def name : Phase → String
  | .closed => "closed"
  | .opened => "open"
  | .halfOpen => "half-open"
  | .isolated => "isolated"

def ofName? (s : String) : Option Phase := all.find? (·.name = s)

def ofJson? (v : Json.Value) : Option Phase := v.variant?.bind ofName?

def code : Phase → UInt8
  | .closed => 0
  | .opened => 1
  | .halfOpen => 2
  | .isolated => 3

/-- The phase of a code; codes without a phase read as closed. -/
def ofCode (n : UInt8) : Phase := (all.find? (·.code = n)).getD .closed

end Phase

structure Change where
  before : Phase
  after : Phase
deriving Repr, DecidableEq, Inhabited

end Breaker

end ResilientChat
