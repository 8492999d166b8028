import ResilientChat.Settings

/-!
Why settings cannot be loaded, and the texts of these faults.
-/

namespace ResilientChat

inductive FileFault where
  | notFound
  | other (reason : String)
deriving Repr, DecidableEq

def FileFault.message : FileFault → String
  | .notFound => "No such file or directory (os error 2)"
  | .other reason => reason

namespace Config

inductive Fault where
  | file (fault : FileFault)
  /-- A document breaks the rules of its format. -/
  | parse (reason : String)
  | unsupportedFormat (format : String)
  /-- A document holds values that its fields cannot have. -/
  | conversion (reason : String)
  /-- A field breaks its rule. -/
  | invalid (fault : SettingsFault)
deriving Repr, DecidableEq

def Fault.message : Fault → String
  | .file fault => "IO error: " ++ fault.message
  | .parse reason => "Config parsing error: " ++ reason
  | .unsupportedFormat format => "Unsupported format: " ++ format
  | .conversion reason => "Serialization error: " ++ reason
  | .invalid fault => "Invalid value for " ++ fault.field ++ ": " ++ fault.reason

end Config

end ResilientChat
