import PushRelay.Json.Record
import PushRelay.Net.Url

/-!
# Requests to other services

A `Request` goes to a `Peer`, which gives a `Response` or none when it cannot be reached.
-/

namespace PushRelay.Http

inductive Method where
  | get
  | post
  | put
  | delete
  deriving DecidableEq, Repr

def Method.name : Method → String
  | .get => "GET"
  | .post => "POST"
  | .put => "PUT"
  | .delete => "DELETE"

structure Request where
  method : Method
  url : Url
  json : Option Json

structure Response where
  status : Nat
  body : Bytes
  deriving DecidableEq, Repr

/-- What answers requests. -/
abbrev Peer := Request → Option Response

/-- Only these schemes can be asked over HTTP. -/
def isHttp (u : Url) : Bool := u.scheme == "http".toList || u.scheme == "https".toList

/-- Sends a request, or says why there is no response.  What it says leaves user name and password
out. -/
def send (peer : Peer) (r : Request) : Except String Response :=
  let shown := r.url.withoutUserInfo.print
  if !isHttp r.url then .error s!"builder error for url ({shown})"
  else match peer r with
    | some response => .ok response
    | none => .error s!"error sending request for url ({shown})"

def Response.isSuccess (r : Response) : Bool := 200 ≤ r.status && r.status ≤ 299

def Response.isError (r : Response) : Bool := 400 ≤ r.status && r.status ≤ 599

end PushRelay.Http
