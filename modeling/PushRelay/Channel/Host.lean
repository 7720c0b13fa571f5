import PushRelay.Channel.Error
import PushRelay.Store

/-!
# What channels share

A `Host` is what all channels of a node work with: the time of day, the source of ids, the offline
store, the connections' queues and the counters.  A connection is known by a number that no other
connection ever has.
-/

namespace PushRelay

/-- The number of a connection. -/
abbrev ConnId := Nat

/-- How often things have happened. -/
structure Metrics where
  pushes : Nat
  skipped : Nat
  replayed : Nat
  channelsExpired : Nat
  channelsMigrated : Nat
  connections : Int
  tcpAccepted : Nat
  wsAccepted : Nat
  deriving DecidableEq, Repr

namespace Metrics

def zero : Metrics := ⟨0, 0, 0, 0, 0, 0, 0, 0⟩

/-- The values under the names they are reported with. -/
def report (m : Metrics) : List (String × Int) :=
  [("comet_push_total", m.pushes), ("comet_push_skipped_total", m.skipped),
    ("comet_offline_sent_total", m.replayed), ("comet_channels_expired_total", m.channelsExpired),
    ("comet_channels_migrated_total", m.channelsMigrated), ("comet_connections", m.connections),
    ("comet_tcp_accept_total", m.tcpAccepted), ("comet_ws_accept_total", m.wsAccepted)]

end Metrics

structure Host where
  /-- Nanoseconds since the beginning of 1970.  Instants are taken from this clock as well. -/
  now : Int
  ids : IdSource
  store : Store
  conns : Table ConnId (Connection Push)
  /-- The number of the next connection. -/
  nextConn : ConnId
  metrics : Metrics

namespace Host

/-- A host on which nothing has happened. -/
def new (now : Int) (ids : IdSource) (store : Store) : Host := ⟨now, ids, store, .empty, 1, .zero⟩

/-- Makes a connection with room for `depth` payloads. -/
def connect (h : Host) (depth : Nat) : ConnId × Host :=
  (h.nextConn,
    { h with conns := h.conns.insert h.nextConn (.new depth), nextConn := h.nextConn + 1 })

/-- Whether a connection would take a payload. -/
def hasRoom (h : Host) (c : ConnId) : Bool :=
  match h.conns.get? c with
  | some conn => conn.hasRoom
  | none => false

/-- Changes a connection. -/
def updateConn (h : Host) (c : ConnId) (f : Connection Push → Connection Push) : Host :=
  { h with conns := h.conns.modify c f }

/-- Asks a connection to close. -/
def closeConn (h : Host) (c : ConnId) : Host := h.updateConn c Connection.close

/-- Takes all payloads that wait on a connection. -/
def drain (h : Host) (c : ConnId) : List Push × Host :=
  (((h.conns.get? c).map (·.waiting)).getD [], h.updateConn c fun conn => conn.drain.2)

/-- Lets time pass. -/
def sleep (h : Host) (nanos : Nat) : Host := { h with now := h.now + nanos }

/-- An id for a message, waiting for the clock if need be. -/
def drawId (h : Host) : Except IdError Int × Host :=
  let (id, ids, now) := h.ids.drawWaiting h.now
  (id, { h with ids, now })

def save (h : Host) (key : String) (m : Message) : Except StoreError Unit × Host :=
  let (r, store) := h.store.save key m
  (r, { h with store })

def history (h : Host) (key : String) (since : Int) : Except StoreError (List Message) × Host :=
  let (r, store) := h.store.get key since h.now
  (r, { h with store })

def count (h : Host) (f : Metrics → Metrics) : Host := { h with metrics := f h.metrics }

end Host

end PushRelay
