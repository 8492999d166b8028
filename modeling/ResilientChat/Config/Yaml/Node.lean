import ResilientChat.Config.Tree

/-!
The nodes of a YAML document. A scalar that does not fit its tag has no value: it
counts as null, but it is no key. A few nodes are read and yet no value of a
settings document, nor is anything around them.
-/

namespace ResilientChat

namespace Config

namespace Yaml

inductive Node where
  | tree (value : Tree)
  /-- A scalar that does not fit its tag. -/
  | misfit
  /-- It has a part that no value of a settings document stands for. -/
  | refused
deriving Repr, Inhabited

/-- A key of a mapping; the number 1 and the text "1" are two keys. -/
inductive Key where
  | number (n : Int)
  | text (s : String)
deriving Repr, DecidableEq

namespace Key

def name : Key → String
  | number n => toString n
  | text s => s

end Key

namespace Node

def null : Node := .tree .null

def tree? : Node → Option Tree
  | tree v => some v
  | misfit => some .null
  | refused => none

def key? : Node → Option Key
  | tree (.int n) => some (.number n)
  | tree (.string s) => some (.text s)
  | _ => none

/-- A node of which all parts have a value, or one that is refused. -/
def ofTree? : Option Tree → Node
  | some v => .tree v
  | none => .refused

def sequence (items : List Node) : Node := ofTree? ((items.mapM tree?).map Tree.array)

/-- Keys and values out of a list in which they take turns; what has no value is no key. -/
def pairs : List Node → List (Node × Node)
  | misfit :: rest => pairs rest
  | key :: v :: rest => (key, v) :: pairs rest
  | _ => []

/-- The entries of a mapping; of two keys with one name the later one counts. -/
def entries? (ps : List (Node × Node)) : Option Entries :=
  ps.foldlM (fun done p => return Entries.put (← p.1.key?).name (← p.2.tree?) done) []

/-- The mapping of keys and values that take turns; none if a key comes twice. -/
def mapping? (nodes : List Node) : Option Node :=
  let ps := pairs nodes
  if (ps.filterMap fun p => p.1.key?).Nodup then some (ofTree? ((entries? ps).map Tree.table))
  else none

end Node

end Yaml

end Config

end ResilientChat
