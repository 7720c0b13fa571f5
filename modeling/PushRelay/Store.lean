import PushRelay.Store.Memory
import PushRelay.Store.Remote

/-!
# Offline stores

A `Store` is what channels ask to keep messages: `save`, `get` and `delete` by subscriber key.  Some
of its calls may be out of order for the time being (`Faults`), and what it answers to `get` may be
laid down.
-/

namespace PushRelay

/-- What is wrong with a store's calls. -/
structure Faults where
  save : Option StoreError
  get : Option StoreError
  /-- What `get` answers instead of what is stored. -/
  history : Option (List Message)
  deriving DecidableEq, Repr

/-- All calls work. -/
def Faults.none : Faults := ⟨.none, .none, .none⟩

/-- Where messages really are. -/
inductive Backend where
  | memory (store : MemoryStore)
  /-- In a service, by way of a peer. -/
  | remote (store : RemoteStore) (peer : Http.Peer)

structure Store where
  backend : Backend
  faults : Faults

namespace Store

def ofMemory (memory : MemoryStore) : Store := ⟨.memory memory, .none⟩

def ofRemote (remote : RemoteStore) (peer : Http.Peer) : Store := ⟨.remote remote peer, .none⟩

/-- Saves a message, whatever is wrong with the call. -/
def saveSound (s : Store) (key : String) (m : Message) : Except StoreError Unit × Store :=
  match s.backend with
  | .memory memory =>
    let (r, memory) := memory.save key m
    (r, { s with backend := .memory memory })
  | .remote remote peer => (remote.save peer key m, s)

/-- Looks messages up, whatever is wrong with the call. -/
def getSound (s : Store) (key : String) (since now : Int) :
    Except StoreError (List Message) × Store :=
  match s.backend with
  | .memory memory =>
    let (messages, memory) := memory.get key since now
    (.ok messages, { s with backend := .memory memory })
  | .remote remote peer => (remote.get peer key since, s)

def save (s : Store) (key : String) (m : Message) : Except StoreError Unit × Store :=
  match s.faults.save with
  | some e => (.error e, s)
  | none => s.saveSound key m

/-- Unexpired messages with ids above `since`. -/
def get (s : Store) (key : String) (since now : Int) : Except StoreError (List Message) × Store :=
  match s.faults.get, s.faults.history with
  | some e, _ => (.error e, s)
  | none, some messages => (.ok messages, s)
  | none, none => s.getSound key since now

end Store

end PushRelay
