import ResilientChat.Cache.Key
import ResilientChat.Settings

/-!
Answers kept in memory. Entries are filed under the fingerprint of their key and
numbered in the order in which they were written; when there are too many, the
ones with the lowest numbers go. An entry that is too old is found out when it is
asked for, or by a purge.
-/

namespace ResilientChat

structure CachedAnswer where
  content : String
  model : String
deriving Repr, DecidableEq, Inhabited

namespace CachedAnswer

def ofJson? (v : Json.Value) : Option CachedAnswer := do
  let r ← Json.Record.ofValue? ["content", "model"] v
  return {
    content := ← r.required "content" Json.Value.string?
    model := ← r.required "model" Json.Value.string? }

def toJson (a : CachedAnswer) : Json.Value :=
  .object [("content", .string a.content), ("model", .string a.model)]

end CachedAnswer

structure StoredAnswer where
  tenant : String
  answer : CachedAnswer
  storedAt : Instant
  /-- The number of the write that stored it. -/
  serial : UInt64
deriving Repr, DecidableEq, Inhabited

/-- Answers by fingerprint, with a limit to their age and number. -/
structure AnswerStore where
  ttl : Duration
  capacity : Nat
  entries : NameMap StoredAnswer := ∅
  /-- The number of the next write. -/
  serial : UInt64 := 0
  hits : UInt64 := 0
  misses : UInt64 := 0
deriving Inhabited

namespace AnswerStore

/-- An empty store; it holds at least one answer. -/
def new (ttl : Duration) (maxEntries : Nat) : AnswerStore where
  ttl := ttl
  capacity := max maxEntries 1

def ofTuning (t : CacheTuning) : AnswerStore := new t.ttl t.maxEntries.toNat

def size (s : AnswerStore) : Nat := s.entries.size

def isFresh (s : AnswerStore) (e : StoredAnswer) (now : Instant) : Bool := now - e.storedAt < s.ttl

/-- Looks an answer up; one that is too old is thrown away. -/
def get (s : AnswerStore) (key : AnswerKey) (now : Instant) : AnswerStore × Option CachedAnswer :=
  match s.entries.get? key.fingerprint with
  | some e =>
    if s.isFresh e now then ({ s with hits := s.hits + 1 }, some e.answer)
    else
      ({ s with entries := s.entries.erase key.fingerprint, misses := s.misses + 1 }, none)
  | none => ({ s with misses := s.misses + 1 }, none)

/-- The entry with the lowest number. -/
def oldest? : List (String × StoredAnswer) → Option (String × StoredAnswer)
  | [] => none
  | e :: rest =>
    match oldest? rest with
    | some other => if other.2.serial < e.2.serial then some other else some e
    | none => some e

def evict (capacity : Nat) : (bound : Nat) → NameMap StoredAnswer → NameMap StoredAnswer
  | 0, entries => entries
  | bound + 1, entries =>
    if entries.size ≤ capacity then entries
    else
      match oldest? entries.entries with
      | some (fingerprint, _) => evict capacity bound (entries.erase fingerprint)
      | none => entries

/-- Writes an answer, in place of one with the same key. -/
def put (s : AnswerStore) (key : AnswerKey) (answer : CachedAnswer) (now : Instant) :
    AnswerStore :=
  let entries := s.entries.insert key.fingerprint ⟨key.tenant, answer, now, s.serial⟩
  { s with
    entries := evict s.capacity entries.size entries
    serial := s.serial + 1 }

/-- Keeps some entries and says how many went. -/
def retain (s : AnswerStore) (p : StoredAnswer → Bool) : AnswerStore × Nat :=
  let kept := s.entries.filter fun _ e => p e
  ({ s with entries := kept }, s.size - kept.size)

def purge (s : AnswerStore) (now : Instant) : AnswerStore × Nat := s.retain (s.isFresh · now)

def invalidate (s : AnswerStore) (tenant : String) : AnswerStore × Nat :=
  s.retain (·.tenant ≠ tenant)

end AnswerStore

/-- A store that is there or not, read and written as a request's policy allows. -/
structure AnswerGate where
  store : Option AnswerStore := none
deriving Inhabited

namespace AnswerGate

def ofTuning (t : CacheTuning) : AnswerGate :=
  ⟨if t.enabled then some (AnswerStore.ofTuning t) else none⟩

def isEnabled (g : AnswerGate) : Bool := g.store.isSome

/-- A policy that bypasses the cache finds nothing and leaves no trace. -/
def get (g : AnswerGate) (policy : Policy) (key : AnswerKey) (now : Instant) :
    AnswerGate × Option CachedAnswer :=
  if policy.bypassesCache then (g, none)
  else
    match g.store with
    | some s =>
      let (s, found) := s.get key now
      (⟨some s⟩, found)
    | none => (g, none)

def put (g : AnswerGate) (policy : Policy) (key : AnswerKey) (answer : CachedAnswer)
    (now : Instant) : AnswerGate × Bool :=
  if policy.bypassesCache then (g, false)
  else
    match g.store with
    | some s => (⟨some (s.put key answer now)⟩, true)
    | none => (g, false)

def invalidate (g : AnswerGate) (tenant : String) : AnswerGate × Nat :=
  match g.store with
  | some s =>
    let (s, removed) := s.invalidate tenant
    (⟨some s⟩, removed)
  | none => (g, 0)

end AnswerGate

end ResilientChat
