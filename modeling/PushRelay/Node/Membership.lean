import PushRelay.Net.Http
import PushRelay.Node.Basic

/-!
# Membership

A node finds out from a `Membership` service which nodes there are, and goes by what it hears.
`Node.syncOnce` takes one answer in; `Node.poll` is one round of a node that registers itself first
and again whenever an answer could not be used.

A `Roster` is a list of members kept at hand; `RemoteMembers` asks a service over HTTP:
`PUT base/v1/nodes/ID` registers, `GET base/v1/nodes` lists the members as `items`.
-/

namespace PushRelay

/-! ## Going by an answer -/

namespace Node

/-- Goes by a list of members, unless it is empty or names the nodes of the ring already.  Returns how
many channels were closed, if the node migrated. -/
def syncOnce (n : Node) (members : List String) : Except ChannelError (Option Nat) × Node :=
  let members := Ring.sortNames members
  if members.isEmpty || n.ring.nodes == members then (.ok none, n)
  else
    let (r, n) := n.migrate members n.config.vnodes
    (r.map fun closed => some closed.length, n)

end Node

/-! ## Polling -/

/-- What a node asks of a membership service. -/
inductive MemberCall where
  | register (id : String)
  | members
  deriving DecidableEq, Repr

/-- A service in some state `σ`: a registration may fail, and so may a listing. -/
structure MembershipService (σ : Type) where
  register : String → σ → Bool × σ
  members : σ → Option (List String) × σ

/-- What a round of polling came to. -/
structure Polled (σ : Type) where
  calls : List MemberCall
  registered : Bool
  service : σ
  node : Node

namespace Node

/-- One round: registers the node if need be, then goes by the list of members. -/
def poll {σ : Type} (service : MembershipService σ) (n : Node) (registered : Bool) (s : σ) :
    Polled σ :=
  let id := n.config.nodeId
  let (calls, registered, s) :=
    if registered then ([], true, s)
    else
      let (registered, s) := service.register id s
      ([.register id], registered, s)
  if !registered then ⟨calls, false, s, n⟩
  else match service.members s with
    | (none, s) => ⟨calls ++ [.members], false, s, n⟩
    | (some members, s) =>
      match n.syncOnce members with
      | (.ok _, n) => ⟨calls ++ [.members], true, s, n⟩
      | (.error _, n) => ⟨calls ++ [.members], false, s, n⟩

end Node

/-! ## Rosters -/

/-- A list of members at hand. -/
structure Roster where
  members : List String
  deriving DecidableEq, Repr

namespace Roster

/-- A member is listed once. -/
def register (r : Roster) (id : String) : Roster :=
  if r.members.contains id then r else ⟨r.members ++ [id]⟩

end Roster

/-! ## Services over HTTP -/

/-- What did not work. -/
inductive MembershipError where
  | parseUrl
  | noBase
  | register
  | list
  | decode
  deriving DecidableEq, Repr

def MembershipError.message : MembershipError → String
  | .parseUrl => "parse membership url"
  | .noBase => "membership url cannot be a base"
  | .register => "register node"
  | .list => "list members"
  | .decode => "decode members"

/-- The service at a URL. -/
structure RemoteMembers where
  base : Url
  deriving DecidableEq, Repr

namespace RemoteMembers

def new (url : String) : Except MembershipError RemoteMembers :=
  match Url.parse url with
  | .ok base => .ok ⟨base⟩
  | .error _ => .error .parseUrl

/-- Where the nodes are, or one of them. -/
def nodesUrl (s : RemoteMembers) (id : Option String) : Except MembershipError Url :=
  if s.base.cannotBeBase then .error .noBase
  else .ok (s.base.extend (["v1", "nodes"] ++ id.toList))

def registerRequest (s : RemoteMembers) (id : String) : Except MembershipError Http.Request :=
  (s.nodesUrl id).map fun url => ⟨.put, url, none⟩

def membersRequest (s : RemoteMembers) : Except MembershipError Http.Request :=
  (s.nodesUrl none).map fun url => ⟨.get, url, none⟩

/-- A response whose status is no error. -/
def answer (peer : Http.Peer) (failure : MembershipError) (r : Http.Request) :
    Except MembershipError Http.Response :=
  match Http.send peer r with
  | .error _ => .error failure
  | .ok response => if response.isError then .error failure else .ok response

def items? (body : Bytes) : Option (List String) :=
  match (Json.parse? body).bind (Json.record? ["items"]) with
  | some [some items] => items.texts?
  | _ => none

def register (s : RemoteMembers) (peer : Http.Peer) (id : String) : Except MembershipError Unit :=
  match s.registerRequest id with
  | .error e => .error e
  | .ok r => (answer peer .register r).map fun _ => ()

def members (s : RemoteMembers) (peer : Http.Peer) : Except MembershipError (List String) :=
  match s.membersRequest with
  | .error e => .error e
  | .ok r =>
    match answer peer .list r with
    | .error e => .error e
    | .ok response =>
      match items? response.body with
      | some items => .ok items
      | none => .error .decode

end RemoteMembers

end PushRelay
