import ResilientChat.Proofs.Config.Layers
import ResilientChat.Proofs.Text.LowerCase

/-!
Which table of the documents governs a dependency, and what it says about each field.
-/

namespace ResilientChat

open Text

namespace Config

section

variable {α : Type} {given : Option Tree} {decode : Tree → Option α} {builtin value : α}

end

end Config

end ResilientChat
