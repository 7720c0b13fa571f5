import PushRelay.Channel.Host
import PushRelay.Channel.Settings

/-!
# Channels

A `Channel` passes the messages for one key on to the connections attached to it.  It remembers for
each the greatest id it has been sent, and never sends an id at or below that.

* `push` retains or persists a message and writes it to the attached connections (`fanOut`).
* `attach` takes a connection up.  If the channel persists its messages, what the store has for the
  connection is written to it at once; if it retains them, the connection has to `replay` them before
  it takes part in pushes.
* `close` lets go of everything, for good.

Every operation is one step: it answers with its result, the channel and the host.
-/

namespace PushRelay

/-- What a channel knows of a connection. -/
structure Attachment where
  /-- The greatest id written to the connection. -/
  lastId : Int
  /-- Pushes are held back until the backlog has been replayed. -/
  awaitingReplay : Bool
  deriving DecidableEq, Repr

/-- Whether the connection is to be sent a message of this id. -/
def Attachment.isDue (a : Attachment) (id : Int) : Bool :=
  !a.awaitingReplay && decide (a.lastId < id)

/-- Where the messages of a channel are kept for later. -/
inductive Retention where
  /-- In the channel, at most so many. -/
  | log (messages : MessageLog) (max : Nat)
  /-- In the host's offline store. -/
  | store
  deriving DecidableEq, Repr

structure Channel where
  retention : Retention
  attached : Table ConnId Attachment
  tokens : Option TokenRegistry
  closed : Bool
  /-- The instant from which the channel counts as expired. -/
  deadline : Int
  maxConns : Nat

/-- What a step of a channel comes to. -/
structure Outcome (α : Type) where
  result : Except ChannelError α
  channel : Channel
  host : Host

namespace Channel

/-! ## Making channels -/

def new (settings : ChannelSettings) (deadline : Int) : Channel where
  retention := match settings.kind with
    | .inner => .log .empty settings.maxMessages
    | .outer => .store
  attached := .empty
  tokens := settings.tokens.map fun t => .new t.capacity t.ttl
  closed := false
  deadline
  maxConns := settings.maxConns

/-- The messages retained in the channel. -/
def retained (ch : Channel) : List Message :=
  match ch.retention with
  | .log messages _ => messages.entries
  | .store => []

/-- The ids retained in the channel that are above the least there is. -/
def retainedIds (ch : Channel) : List Int :=
  match ch.retention with
  | .log messages _ => (messages.after Numeral.int64Min).map (·.id)
  | .store => []

def connCount (ch : Channel) : Nat := ch.attached.size

def isTimedOut (ch : Channel) (now : Int) : Bool := ch.deadline ≤ now

def setDeadline (ch : Channel) (deadline : Int) : Channel := { ch with deadline }

/-! ## Pushing -/

/-- Whether a push of this id reaches the connection. -/
def reaches (ch : Channel) (h : Host) (id : Int) (c : ConnId) : Bool :=
  match ch.attached.get? c with
  | some a => a.isDue id && h.hasRoom c
  | none => false

/-- Writes a payload to every attached connection that is due and has room for it.  One that has no
room is passed over and counted. -/
def fanOut (ch : Channel) (h : Host) (p : Push) : Channel × Host :=
  let skipped := ch.attached.entries.countP fun e =>
    e.2.isDue p.id && !h.hasRoom e.1
  ({ ch with attached := ch.attached.mapValues fun c a =>
      if ch.reaches h p.id c then { a with lastId := p.id } else a },
    { h with
      conns := h.conns.mapValues fun c conn =>
        if ch.reaches h p.id c then conn.enqueue p else conn
      metrics := { h.metrics with skipped := h.metrics.skipped + skipped } })

/-- The id under which a message is kept for later, once it is kept, or why it is not.  A channel that
retains messages keeps all of them under their own ids.  One that persists them keeps messages for one
subscriber under new ids; a broadcast keeps its id and is not kept. -/
def keep (ch : Channel) (h : Host) (key : String) (m : Message) : Outcome Message :=
  match ch.retention, m.group with
  | .log messages max, _ =>
    match messages.insertBounded m max with
    | .ok (_, messages) => ⟨.ok m, { ch with retention := .log messages max }, h⟩
    | .error (.duplicate id) => ⟨.error (.duplicateMessage id), ch, h⟩
    | .error e => ⟨.error (.store e), ch, h⟩
  | .store, .broadcast => ⟨.ok m, ch, h⟩
  | .store, .personal =>
    match h.drawId with
    | (.error e, h) => ⟨.error (.noId e), ch, h⟩
    | (.ok id, h) =>
      let m := m.withId id
      match h.save key m with
      | (.error e, h) => ⟨.error (.store e), ch, h⟩
      | (.ok (), h) => ⟨.ok m, ch, h⟩

/-- Keeps a message and passes it on.  Returns the id it went out with. -/
def push (ch : Channel) (h : Host) (key : String) (m : Message) : Outcome Int :=
  if m.isExpired h.now then ⟨.error .messageExpired, ch, h⟩
  else if ch.closed then ⟨.error .closed, ch, h⟩
  else
    let kept := ch.keep h key m
    match kept.result with
    | .error e => ⟨.error e, kept.channel, kept.host⟩
    | .ok m =>
      let (ch, h) := kept.channel.fanOut kept.host m.push
      ⟨.ok m.id, ch, h.count fun c => { c with pushes := c.pushes + 1 }⟩

/-! ## Catching up -/

/-- What writing a backlog to a connection came to. -/
structure Backlog where
  conn : Connection Push
  sent : Nat
  /-- The greatest id written, or where the backlog began. -/
  last : Int
  /-- Ids of the messages that were passed over because they have expired. -/
  expired : List Int
  failure : Option WriteError

/-- Writes messages with ids above `last` to a connection, each above the one before.  Expired ones
are passed over; the first one that is not taken ends it. -/
def writeBacklog (now : Int) : List Message → Connection Push → Int → Backlog
  | [], conn, last => ⟨conn, 0, last, [], none⟩
  | m :: messages, conn, last =>
    if m.id ≤ last then writeBacklog now messages conn last
    else if m.isExpired now then
      let b := writeBacklog now messages conn last
      { b with expired := m.id :: b.expired }
    else match conn.write m.push with
      | .error e => ⟨conn, 0, last, [], some e⟩
      | .ok conn =>
        let b := writeBacklog now messages conn m.id
        { b with sent := b.sent + 1 }

/-- Notes the greatest id a connection has been sent. -/
def advance (ch : Channel) (c : ConnId) (id : Int) : Channel :=
  { ch with attached := ch.attached.modify c fun a => { a with lastId := max a.lastId id } }

/-- Lets a connection take part in pushes. -/
def finishReplay (ch : Channel) (c : ConnId) : Channel :=
  { ch with attached := ch.attached.modify c fun a => { a with awaitingReplay := false } }

/-- The id behind which a replay starts. -/
def replayStart (ch : Channel) (c : ConnId) (since : Int) : Int :=
  match ch.attached.get? c with
  | some a => max a.lastId since
  | none => since

/-- Writes the retained messages with ids above `since` to a connection.  Expired messages that it
comes across are dropped.  Returns how many were written.  When one is not taken, what was written
before it still counts as seen, so that another try goes on from there.  A channel that persists its
messages has written its backlog when the connection was attached. -/
def replay (ch : Channel) (h : Host) (c : ConnId) (since : Int) : Outcome Nat :=
  match ch.retention with
  | .store => ⟨.ok 0, ch, h⟩
  | .log messages max =>
    if ch.closed then ⟨.error .closed, ch, h⟩
    else match h.conns.get? c with
      | none => ⟨.error (.write .closed), ch, h⟩
      | some conn =>
        let start := ch.replayStart c since
        let b := writeBacklog h.now (messages.after start) conn start
        let messages := messages.remove fun m => b.expired.contains m.id
        let ch := { ch with retention := .log messages max }.advance c b.last
        let h := h.updateConn c fun _ => b.conn
        match b.failure with
        | some e => ⟨.error (.write e), ch, h⟩
        | none => ⟨.ok b.sent, ch.finishReplay c,
            h.count fun n => { n with replayed := n.replayed + b.sent }⟩

/-! ## Attaching -/

/-- Whether one connection more would be too many. -/
def isFull (ch : Channel) (c : ConnId) : Bool :=
  !ch.attached.contains c && decide (ch.maxConns ≤ ch.attached.size)

/-- Takes a connection up that has seen ids up to `lastId`. -/
def attach (ch : Channel) (h : Host) (key : String) (c : ConnId) (lastId : Int) : Outcome Unit :=
  if ch.closed then ⟨.error .closed, ch, h⟩
  else if ch.isFull c then ⟨.error (.maxConn ch.maxConns), ch, h⟩
  else match ch.retention with
    | .log .. => ⟨.ok (), { ch with attached := ch.attached.insert c ⟨lastId, true⟩ }, h⟩
    | .store =>
      match h.history key lastId with
      | (.error e, h) => ⟨.error (.store e), ch, h⟩
      | (.ok messages, h) =>
        match h.conns.get? c with
        | none => ⟨.error (.write .closed), ch, h⟩
        | some conn =>
          let b := writeBacklog h.now messages conn lastId
          let h := h.updateConn c fun _ => b.conn
          match b.failure with
          | some e => ⟨.error (.write e), { ch with attached := ch.attached.erase c }, h⟩
          | none => ⟨.ok (), { ch with attached := ch.attached.insert c ⟨b.last, false⟩ },
              h.count fun n => { n with replayed := n.replayed + b.sent }⟩

/-- Lets a connection go. -/
def detach (ch : Channel) (c : ConnId) : Channel := { ch with attached := ch.attached.erase c }

/-! ## Tickets -/

/-- Runs a step of the ticket registry, if there is one. -/
def onTokens (ch : Channel) (f : TokenRegistry → Except TokenError Unit × TokenRegistry) :
    Except ChannelError Unit × Channel :=
  match ch.tokens with
  | none => (.ok (), ch)
  | some tokens =>
    let (r, tokens) := f tokens
    (r.mapError .token, { ch with tokens := some tokens })

def addToken (ch : Channel) (ticket : String) (now : Int) : Except ChannelError Unit × Channel :=
  ch.onTokens fun tokens => tokens.add ticket now

def authToken (ch : Channel) (ticket : String) (now : Int) : Except ChannelError Unit × Channel :=
  ch.onTokens fun tokens => tokens.auth ticket now

/-! ## Closing -/

/-- Asks every attached connection to close and forgets everything. -/
def close (ch : Channel) (h : Host) : Channel × Host :=
  ({ ch with
      retention := match ch.retention with
        | .log _ max => .log .empty max
        | .store => .store
      attached := .empty
      tokens := ch.tokens.map TokenRegistry.clear
      closed := true },
    { h with conns := h.conns.mapValues fun c conn =>
        if ch.attached.contains c then conn.close else conn })

end Channel

end PushRelay
