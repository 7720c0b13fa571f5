import PushRelay.Channel.Basic
import PushRelay.Registry
import PushRelay.Ring

/-!
# The hub

A `Hub` is the channels of a node together with the registry of their keys and the host they share.
Whoever has got hold of a channel's number can use the channel, also after its key has been given
another one; so the hub keeps every channel it ever made.

A key gets a channel when it first needs one (`getOrCreate`).  Every access through the registry puts
the channel's deadline off; a channel found behind its deadline is closed by the `lookup` that finds
it.  `migrate` closes the channels of keys that a new ring gives to other nodes.
-/

namespace PushRelay

structure Hub where
  settings : ChannelSettings
  registry : Registry
  channels : Table ChannelId Channel
  /-- The number of the next channel. -/
  nextChannel : ChannelId
  host : Host

namespace Hub

/-! ## Channels -/

/-- A hub without channels.  Channels that persist their messages need a store. -/
def new (hash : String → Nat) (buckets : Nat) (settings : ChannelSettings) (hasStore : Bool)
    (host : Host) : Except SettingsError Hub :=
  match Registry.new hash buckets with
  | .error e => .error e
  | .ok registry =>
    if settings.kind = .outer ∧ hasStore = false then .error .storeMissing
    else .ok ⟨settings, registry, .empty, 0, host⟩

/-- Gives a channel a number. -/
def addChannel (h : Hub) (ch : Channel) : ChannelId × Hub :=
  (h.nextChannel,
    { h with channels := h.channels.insert h.nextChannel ch, nextChannel := h.nextChannel + 1 })

/-- Runs a step of a channel. -/
def onChannel {α : Type} (h : Hub) (id : ChannelId) (f : Channel → Host → Outcome α) :
    Except ChannelError α × Hub :=
  match h.channels.get? id with
  | none => (.error .notExist, h)
  | some ch =>
    let out := f ch h.host
    (out.result, { h with channels := h.channels.insert id out.channel, host := out.host })

/-- Changes a channel. -/
def updateChannel (h : Hub) (id : ChannelId) (f : Channel → Channel) : Hub :=
  { h with channels := h.channels.modify id f }

def push (h : Hub) (id : ChannelId) (key : String) (m : Message) : Except ChannelError Int × Hub :=
  h.onChannel id fun ch host => ch.push host key m

def attach (h : Hub) (id : ChannelId) (key : String) (c : ConnId) (lastId : Int) :
    Except ChannelError Unit × Hub :=
  h.onChannel id fun ch host => ch.attach host key c lastId

def replay (h : Hub) (id : ChannelId) (c : ConnId) (since : Int) : Except ChannelError Nat × Hub :=
  h.onChannel id fun ch host => ch.replay host c since

def detach (h : Hub) (id : ChannelId) (c : ConnId) : Hub := h.updateChannel id fun ch => ch.detach c

def addToken (h : Hub) (id : ChannelId) (ticket : String) : Except ChannelError Unit × Hub :=
  h.onChannel id fun ch host =>
    let (r, ch) := ch.addToken ticket host.now
    ⟨r, ch, host⟩

def authToken (h : Hub) (id : ChannelId) (ticket : String) : Except ChannelError Unit × Hub :=
  h.onChannel id fun ch host =>
    let (r, ch) := ch.authToken ticket host.now
    ⟨r, ch, host⟩

/-- Closes a channel for good. -/
def closeChannel (h : Hub) (id : ChannelId) : Hub :=
  match h.channels.get? id with
  | none => h
  | some ch =>
    let (ch, host) := ch.close h.host
    { h with channels := h.channels.insert id ch, host }

/-- Closes channels one after the other. -/
def closeChannels (h : Hub) (ids : List ChannelId) : Hub := ids.foldl closeChannel h

/-! ## Keys -/

/-- Puts a channel's deadline off by the lifetime of channels. -/
def refresh (h : Hub) (id : ChannelId) : Hub :=
  h.updateChannel id fun ch => ch.setDeadline (deadlineAfter h.host.now h.settings.lifetime)

/-- The channel of a key, which is made if the key has none. -/
def getOrCreate (h : Hub) (key : String) : ChannelId × Hub :=
  match h.registry.find? key with
  | some id => (id, h.refresh id)
  | none =>
    let (id, h) := h.addChannel (.new h.settings (deadlineAfter h.host.now h.settings.lifetime))
    (id, { h with registry := h.registry.insert key id })

/-- The channel of a key, unless it has passed its deadline, in which case it is closed. -/
def lookup (h : Hub) (key : String) : Except ChannelError ChannelId × Hub :=
  match h.registry.find? key with
  | none => (.error .notExist, h)
  | some id =>
    match h.channels.get? id with
    | none => (.error .notExist, h)
    | some ch =>
      if ch.isTimedOut h.host.now then
        let h := { h with registry := h.registry.erase key }.closeChannel id
        (.error .expired, { h with host := h.host.count fun n =>
          { n with channelsExpired := n.channelsExpired + 1 } })
      else (.ok id, h.refresh id)

/-- Whether a key has a channel.  Its deadline stays where it is. -/
def contains (h : Hub) (key : String) : Bool := h.registry.contains key

/-- Takes a key's channel away and closes it. -/
def close (h : Hub) (key : String) : Except ChannelError Unit × Hub :=
  match h.registry.find? key with
  | none => (.error .notExist, h)
  | some id => (.ok (), { h with registry := h.registry.erase key }.closeChannel id)

/-- Closes every channel that has a key.  Returns how many. -/
def closeAll (h : Hub) : Nat × Hub :=
  let ids := h.registry.entries.map (·.2)
  (ids.length, { h with registry := h.registry.clear }.closeChannels ids)

/-- What a migration comes to: the new ring and the keys that lost their channel. -/
structure Migrated where
  ring : Ring
  closed : List String

/-- Closes the channels of all keys that the ring of `nodes` gives to other nodes than `self`.  A list
without `self` is refused. -/
def migrate (h : Hub) (hash : String → UInt32) (self : String) (nodes : List String) (vnodes : Nat) :
    Except ChannelError Migrated × Hub :=
  if nodes.contains self then
    let ring := Ring.ofNodes hash nodes vnodes
    let moved := h.registry.entries.filter fun e => !ring.owns self e.1
    let h := { h with registry := h.registry.filter (ring.owns self) }
    let h := h.closeChannels (moved.map (·.2))
    (.ok ⟨ring, moved.map (·.1)⟩, { h with host := h.host.count fun n =>
      { n with channelsMigrated := n.channelsMigrated + moved.length } })
  else (.error (.migrateRefused self), h)

def size (h : Hub) : Nat := h.registry.size

def isEmpty (h : Hub) : Bool := h.size == 0

/-- How many connections a channel has. -/
def connCount (h : Hub) (id : ChannelId) : Nat :=
  ((h.channels.get? id).map Channel.connCount).getD 0

/-- Connections attached to channels that have a key. -/
def connectionCount (h : Hub) : Nat :=
  h.registry.entries.foldl (fun n e => n + h.connCount e.2) 0

end Hub

end PushRelay
