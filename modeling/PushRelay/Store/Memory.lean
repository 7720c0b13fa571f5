import PushRelay.Log
import PushRelay.Table

/-!
# Stores in memory

A `MemoryStore` keeps a bounded message log for each key.  Looking messages up drops the expired ones
that it comes across.
-/

namespace PushRelay

structure MemoryStore where
  /-- Messages kept per key. -/
  capacity : Nat
  logs : Table String MessageLog

namespace MemoryStore

/-- Messages kept per key unless said otherwise. -/
def defaultCapacity : Nat := 1024

/-- A store that keeps at least one message per key. -/
def withCapacity (n : Nat) : MemoryStore := ⟨max n 1, .empty⟩

def new : MemoryStore := withCapacity defaultCapacity

instance : Inhabited MemoryStore := ⟨new⟩

/-- The messages kept for a key. -/
def log (s : MemoryStore) (key : String) : MessageLog := (s.logs.get? key).getD .empty

/-- How many messages are kept for a key. -/
def count (s : MemoryStore) (key : String) : Nat := (s.log key).size

def save (s : MemoryStore) (key : String) (m : Message) : Except StoreError Unit × MemoryStore :=
  match (s.log key).insertBounded m s.capacity with
  | .ok (_, log) => (.ok (), { s with logs := s.logs.insert key log })
  | .error e => (.error e, s)

/-- The unexpired messages with ids above `since`, ascending. -/
def get (s : MemoryStore) (key : String) (since now : Int) : List Message × MemoryStore :=
  let found := (s.log key).after since
  (found.filter fun m => !m.isExpired now,
    { s with logs := s.logs.modify key fun log =>
        log.remove fun m => decide (since < m.id) && m.isExpired now })

/-- Forgets a key. -/
def delete (s : MemoryStore) (key : String) : MemoryStore := { s with logs := s.logs.erase key }

end MemoryStore

end PushRelay
