import ResilientChat.Json.Writer
import ResilientChat.Text.LowerCase
import ResilientChat.Tool

/-!
What makes two questions the same question. Questions are compared in a normal
form, within one tenant and module, for one set of tools and one plan.
-/

namespace ResilientChat

namespace Question

open Text

/-- Puts a character in front of the first word, or starts a new word at a blank. -/
def consWord (c : Char) : List (List Char) → List (List Char)
  | [] => if isBlank c then [[]] else [[c]]
  | word :: words => if isBlank c then [] :: word :: words else (c :: word) :: words

/-- The words of a text: its longest parts without a blank. -/
def words (cs : List Char) : List (List Char) :=
  (cs.foldr consWord [[]]).filter fun word => !word.isEmpty

def dropTrailing (p : Char → Bool) (cs : List Char) : List Char :=
  (cs.reverse.dropWhile p).reverse

def isSentenceEnd (c : Char) : Bool := c = '?' || c = '!' || c = '.'

def collapse (cs : List Char) : List Char := [' '].intercalate (words cs)

/--
The normal form: one blank between words, lower case, and no marks and then no
blanks at the end.
-/
def normalize (question : String) : String :=
  let lowered := lower (String.ofList (collapse question.toList))
  String.ofList (dropTrailing isBlank (dropTrailing isSentenceEnd lowered.toList))

end Question

structure AnswerKey where
  tenant : String
  module : String
  /-- In normal form. -/
  question : String
  toolDigest : String
  /-- The text of the plan; empty when there is none. -/
  plan : String
deriving Repr, DecidableEq, Inhabited

namespace AnswerKey

def ofQuestion (tenant module question : String) (tools : List String)
    (plan : Option Json.Value) : AnswerKey where
  tenant := tenant
  module := module
  question := Question.normalize question
  toolDigest := toolSetDigest tools
  plan := (plan.map Json.Value.text).getD ""

/-- The bytes that stand for the key: each part, followed by a zero byte. -/
def bytes (k : AnswerKey) : List UInt8 :=
  Digest.terminated [k.tenant, k.module, k.question, k.toolDigest, k.plan]

def fingerprint (k : AnswerKey) : String := Digest.sha256 k.bytes

def ofJson? (v : Json.Value) : Option AnswerKey := do
  let r ← Json.Record.ofValue? ["tenant", "module", "question", "tool_fingerprint", "plan"] v
  return {
    tenant := ← r.required "tenant" Json.Value.string?
    module := ← r.required "module" Json.Value.string?
    question := ← r.required "question" Json.Value.string?
    toolDigest := ← r.required "tool_fingerprint" Json.Value.string?
    plan := ← r.required "plan" Json.Value.string? }

def toJson (k : AnswerKey) : Json.Value :=
  .object [("tenant", .string k.tenant), ("module", .string k.module),
    ("question", .string k.question), ("tool_fingerprint", .string k.toolDigest),
    ("plan", .string k.plan)]

end AnswerKey

end ResilientChat
