import ResilientChat.Config.Fault
import ResilientChat.Fault
import ResilientChat.Tool

/-!
Everything that can go wrong in the service, by the part that it went wrong in.
-/

namespace ResilientChat

inductive ServiceFault where
  | config (fault : Config.Fault)
  | dependency (fault : Fault)
  | tools (fault : ToolFault)
  | file (fault : FileFault)
  | internal (reason : String)
deriving Repr, DecidableEq

namespace ServiceFault

/-- The text of the fault within the part; none for a fault of the service itself. -/
def cause? : ServiceFault → Option String
  | .config fault => some fault.message
  | .dependency fault => some fault.message
  | .tools fault => some fault.message
  | .file fault => some fault.message
  | .internal _ => none

def message : ServiceFault → String
  | .config fault => "Config error: " ++ fault.message
  | .dependency fault => "Dependency error: " ++ fault.message
  | .tools fault => "Tool registry error: " ++ fault.message
  | .file fault => "IO error: " ++ fault.message
  | .internal reason => reason

end ServiceFault

end ResilientChat
