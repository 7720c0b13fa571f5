import PushRelay.Net.MediaType
import PushRelay.Node.Basic

/-!
# Administration

The requests by which routers and operators use a node, in JSON over HTTP:

* `POST /v1/channel/new`, `POST /v1/channel/close`: make and close the channel of a key,
* `POST /v1/push`, `POST /v1/push/batch`: push a message to one key or several,
* `POST /v1/token`: register a ticket,
* `POST /v1/migrate`: go by another list of nodes,
* `GET /v1/stats`.

`AdminRequest` is a request that has been read; `Node.administer` answers it.  `Node.handle` does the
reading, too.  A push goes in two steps: `Node.assignId` gives the message its id, `Node.pushTo` takes
it to its channel.
-/

namespace PushRelay

/-! ## Requests -/

structure PushRequest where
  key : String
  body : String
  expireSecs : Nat
  /-- Zero asks for an id. -/
  id : Int
  group : Group
  deriving DecidableEq, Repr

structure BatchRequest where
  keys : List String
  body : String
  expireSecs : Nat
  group : Group
  deriving DecidableEq, Repr

inductive AdminRequest where
  | newChannel (key : String)
  | closeChannel (key : String)
  | push (r : PushRequest)
  | pushBatch (r : BatchRequest)
  | addToken (key token : String)
  /-- Zero points per node ask for the configured number. -/
  | migrate (nodes : List String) (vnodes : Nat)
  | stats
  deriving DecidableEq, Repr

/-! ## Refusals -/

inductive AdminError where
  /-- The body is not said to be JSON. -/
  | contentType
  /-- The body is not the JSON that the request takes. -/
  | badBody
  | emptyKey
  | emptyKeys
  | emptyToken
  | emptyNodes
  | expireSecs
  | negativeId
  | noId (cause : IdError)
  | channel (cause : ChannelError)
  deriving DecidableEq, Repr

namespace AdminError

/-- The status and the code for a channel's error. -/
def ofChannel : ChannelError → Nat × String
  | .notExist | .expired => (404, "channel_not_found")
  | .messageExpired | .settings _ => (400, "param_error")
  | .token .alreadyRegistered => (409, "param_error")
  | .token .notFound | .token .expired => (404, "param_error")
  | .duplicateMessage _ => (409, "push_failed")
  | .store _ => (502, "push_failed")
  | .closed | .write _ | .noId _ => (503, "push_failed")
  | .maxConn _ => (503, "internal_error")
  | .migrateRefused _ => (409, "migrate_refused")

def status : AdminError → Nat
  | .noId _ => 500
  | .channel cause => (ofChannel cause).1
  | _ => 400

def code : AdminError → String
  | .noId _ => "internal_error"
  | .channel cause => (ofChannel cause).2
  | _ => "param_error"

def message : AdminError → String
  | .contentType => "Expected request with `Content-Type: application/json`"
  | .badBody => "bad json body"
  | .emptyKey => "key must not be empty"
  | .emptyKeys => "keys must not be empty"
  | .emptyToken => "token must not be empty"
  | .emptyNodes => "nodes must not be empty"
  | .expireSecs => "expire_secs must be positive"
  | .negativeId => "id must not be negative"
  | .noId _ => "assign message id"
  | .channel cause => cause.message

end AdminError

/-! ## Answers -/

/-- A key that a batch did not reach, and why. -/
structure PushFailure where
  key : String
  cause : AdminError
  deriving DecidableEq, Repr

inductive AdminAnswer where
  | ok
  | pushed (id : Int)
  | batch (id : Int) (pushed : Nat) (failures : List PushFailure)
  | migrated (closed : Nat)
  | stats (nodeId : String) (channels connections : Nat) (nodes : List String)
  deriving DecidableEq, Repr

def AdminError.toJson (e : AdminError) : Json :=
  .record [("code", .text e.code), ("message", .text e.message)]

def PushFailure.toJson (f : PushFailure) : Json :=
  .record [("key", .text f.key), ("code", .text f.cause.code), ("message", .text f.cause.message)]

def AdminAnswer.toJson : AdminAnswer → Json
  | .ok => .record [("code", .text "ok")]
  | .pushed id => .record [("code", .text "ok"), ("id", .int id)]
  | .batch id count failures =>
    .record [("code", .text "ok"), ("id", .int id), ("pushed", .nat count),
      ("failures", .array (failures.map PushFailure.toJson))]
  | .migrated closed => .record [("code", .text "ok"), ("closed", .nat closed)]
  | .stats nodeId channels connections nodes =>
    .record [("node_id", .text nodeId), ("channels", .nat channels),
      ("connections", .nat connections), ("nodes", .array (nodes.map .text))]

/-! ## Answering -/

namespace Node

/-- The id of a message: the one asked for, or a new one. -/
def assignId (n : Node) (requested : Int) : Except AdminError Int × Node :=
  if requested = 0 then
    match n.drawId with
    | (.ok id, n) => (.ok id, n)
    | (.error e, n) => (.error (.noId e), n)
  else if requested < 0 then (.error .negativeId, n)
  else (.ok requested, n)

/-- A message that expires so many seconds from now, one at least. -/
def buildMessage (n : Node) (id : Int) (body : String) (expireSecs : Nat) (group : Group) :
    Except AdminError Message :=
  if expireSecs = 0 then .error .expireSecs
  else .ok ⟨id, Utf8.ofString body, group,
    deadlineAfter n.hub.host.now (expireSecs * secondNanos)⟩

/-- Takes a message to the channel of a key. -/
def pushTo (n : Node) (key : String) (m : Message) : Except AdminError Int × Node :=
  let (id, n) := n.channelForPush key
  let (r, n) := n.push id key m
  (r.mapError .channel, n)

def adminPush (n : Node) (r : PushRequest) : Except AdminError AdminAnswer × Node :=
  if r.key.isEmpty then (.error .emptyKey, n)
  else match n.assignId r.id with
    | (.error e, n) => (.error e, n)
    | (.ok id, n) =>
      match n.buildMessage id r.body r.expireSecs r.group with
      | .error e => (.error e, n)
      | .ok m =>
        let (r, n) := n.pushTo r.key m
        (r.map .pushed, n)

/-- Takes a message to the channels of several keys, one after the other.  Returns how many it
reached and which keys it did not. -/
def pushEach (n : Node) (m : Message) : List String → (Nat × List PushFailure) × Node
  | [] => ((0, []), n)
  | key :: keys =>
    match n.pushTo key m with
    | (.ok _, n) =>
      let ((pushed, failures), n) := n.pushEach m keys
      ((pushed + 1, failures), n)
    | (.error e, n) =>
      let ((pushed, failures), n) := n.pushEach m keys
      ((pushed, ⟨key, e⟩ :: failures), n)

def adminBatch (n : Node) (r : BatchRequest) : Except AdminError AdminAnswer × Node :=
  if r.keys.isEmpty then (.error .emptyKeys, n)
  else match n.assignId 0 with
    | (.error e, n) => (.error e, n)
    | (.ok id, n) =>
      match n.buildMessage id r.body r.expireSecs r.group with
      | .error e => (.error e, n)
      | .ok m =>
        let ((pushed, failures), n) := n.pushEach m r.keys
        (.ok (.batch id pushed failures), n)

def administer (n : Node) : AdminRequest → Except AdminError AdminAnswer × Node
  | .newChannel key =>
    if key.isEmpty then (.error .emptyKey, n)
    else (.ok .ok, { n with hub := (n.hub.getOrCreate key).2 })
  | .closeChannel key =>
    if key.isEmpty then (.error .emptyKey, n)
    else
      let (r, hub) := n.hub.close key
      ((r.mapError .channel).map fun _ => .ok, { n with hub })
  | .push r => n.adminPush r
  | .pushBatch r => n.adminBatch r
  | .addToken key token =>
    if key.isEmpty then (.error .emptyKey, n)
    else if token.isEmpty then (.error .emptyToken, n)
    else
      let (id, hub) := n.hub.getOrCreate key
      let (r, hub) := hub.addToken id token
      ((r.mapError .channel).map fun _ => .ok, { n with hub })
  | .migrate nodes vnodes =>
    if nodes.isEmpty then (.error .emptyNodes, n)
    else
      let (r, n) := n.migrate nodes (if vnodes = 0 then n.config.vnodes else vnodes)
      ((r.mapError .channel).map fun closed => .migrated closed.length, n)
  | .stats =>
    (.ok (.stats n.config.nodeId n.hub.size n.hub.connectionCount n.ring.nodes), n)

end Node

/-! ## Reading requests -/

namespace AdminRequest

/-- The required text of a field. -/
def text? (value : Option Json) : Option String := value.bind Json.text?

def word? (value : Option Json) : Option Nat := value.bind (Json.nat? Numeral.wordBound)

/-- What a field that may be missing gives. -/
def orDefault {α : Type} (read : Json → Option α) (default : α) : Option Json → Option α
  | none => some default
  | some value => read value

def key? (j : Json) : Option String :=
  match j.record? ["key"] with
  | some [key] => text? key
  | _ => none

def push? (j : Json) : Option PushRequest := do
  match ← j.record? ["key", "body", "expire_secs", "id", "group"] with
  | [key, body, expireSecs, id, group] =>
    pure ⟨← text? key, ← text? body, ← word? expireSecs, ← orDefault Json.int64? 0 id,
      ← orDefault Group.ofJson? .personal group⟩
  | _ => none

def batch? (j : Json) : Option BatchRequest := do
  match ← j.record? ["keys", "body", "expire_secs", "group"] with
  | [keys, body, expireSecs, group] =>
    pure ⟨← keys.bind Json.texts?, ← text? body, ← word? expireSecs,
      ← orDefault Group.ofJson? .personal group⟩
  | _ => none

def token? (j : Json) : Option AdminRequest := do
  match ← j.record? ["key", "token"] with
  | [key, token] => pure (.addToken (← text? key) (← text? token))
  | _ => none

def migrate? (j : Json) : Option AdminRequest := do
  match ← j.record? ["nodes", "vnodes"] with
  | [nodes, vnodes] =>
    pure (.migrate (← nodes.bind Json.texts?)
      (← orDefault (Json.nat? Numeral.wordBound) 0 vnodes))
  | _ => none

/-- How the body of each `POST` request is read. -/
def routes : List (String × (Json → Option AdminRequest)) :=
  [("/v1/channel/new", fun j => (key? j).map .newChannel),
    ("/v1/channel/close", fun j => (key? j).map .closeChannel),
    ("/v1/push", fun j => (push? j).map .push),
    ("/v1/push/batch", fun j => (batch? j).map .pushBatch),
    ("/v1/token", token?),
    ("/v1/migrate", migrate?)]

/-- The path of the only `GET` request. -/
def statsPath : String := "/v1/stats"

end AdminRequest

/-! ## HTTP -/

/-- A request as it comes in. -/
structure IncomingRequest where
  method : String
  /-- The path, possibly with a query and a fragment, which do not count. -/
  target : String
  contentType : Option String
  body : Bytes

/-- What goes back: a document, or nothing but a status. -/
structure OutgoingResponse where
  status : Nat
  json : Option Json

namespace Node

/-- Reads a body and answers the request it makes. -/
def answerBody (n : Node) (read : Json → Option AdminRequest) (r : IncomingRequest) :
    Except AdminError AdminAnswer × Node :=
  if !(r.contentType.map MediaType.isJson).getD false then (.error .contentType, n)
  else match (Json.read r.body).bind fun (j, _) => read j with
    | none => (.error .badBody, n)
    | some request => n.administer request

/-- The response for an answer. -/
def respond : Except AdminError AdminAnswer → OutgoingResponse
  | .ok answer => ⟨200, some answer.toJson⟩
  | .error e => ⟨e.status, some e.toJson⟩

/-- Answers a request to a path.  What follows the first JSON value of a body is ignored. -/
def handle (n : Node) (r : IncomingRequest) : OutgoingResponse × Node :=
  let path := String.ofList (r.target.toList.takeWhile fun c => c != '?' && c != '#')
  match AdminRequest.routes.lookup path with
  | some read =>
    if r.method = "POST" then
      let (answer, n) := n.answerBody read r
      (respond answer, n)
    else (⟨405, none⟩, n)
  | none =>
    if path ≠ AdminRequest.statsPath then (⟨404, none⟩, n)
    else if r.method = "GET" then
      let (answer, n) := n.administer .stats
      (respond answer, n)
    else if r.method = "HEAD" then (⟨200, none⟩, n)
    else (⟨405, none⟩, n)

end Node

end PushRelay
