/-!
The tokens of a YAML document. What starts and ends by indentation has tokens for
its ends as what stands in brackets has, and a key has a token in front of it.
-/

namespace ResilientChat

namespace Config

namespace Yaml

inductive Token where
  /-- A line that states a version. -/
  | version
  /-- A line that lets tags with `handle` stand for those with `meaning` in front. -/
  | tagHandle (handle meaning : String)
  | documentStart
  | documentEnd
  | blockSequence
  | blockMapping
  | blockEnd
  | openSequence
  | closeSequence
  | openMapping
  | closeMapping
  /-- The hyphen in front of an item. -/
  | item
  | comma
  | key
  | value
  | alias (name : String)
  | anchor (name : String)
  | tag (handle suffix : String)
  /-- A scalar; `plain` says that it has no quotes and no lines of its own. -/
  | scalar (plain : Bool) (text : String)
deriving Repr, DecidableEq, Inhabited

end Yaml

end Config

end ResilientChat
