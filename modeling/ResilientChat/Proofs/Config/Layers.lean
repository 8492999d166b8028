import ResilientChat.Config.Load

/-!
What documents say about one place of the document they are merged to. A layer is a value and the
way to where it is laid, and the layers of a key are read off the layers of its table in the
order of the documents, without a look at the merged table.
-/

namespace ResilientChat

namespace Config

open Text

namespace Tree

end Tree

/-- A value, and the way from a place to where the value is laid. -/
structure Layer where
  way : List Step
  value : Tree

namespace Layer

/-- The place with the layer over what it has, if it has anything. -/
def lay (l : Layer) (current : Option Tree) : Tree :=
  match l.way with
  | [] =>
    match l.value with
    | .table entries => Tree.overlay entries (current.getD (.table []))
    | v => v
  | step :: rest => assignAt (step :: rest) l.value (current.getD .null)

end Layer

/-- A place after layers, each laid over what the ones before it left. -/
def settle (current : Option Tree) (layers : List Layer) : Option Tree :=
  layers.foldl (fun t l => some (l.lay t)) current

def written (documents : List Entries) : List Layer :=
  documents.flatten.map fun e => ⟨pathOf e.1, e.2⟩

end Config

end ResilientChat
