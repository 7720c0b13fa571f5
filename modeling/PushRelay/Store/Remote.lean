import PushRelay.Message
import PushRelay.Net.Http
import PushRelay.Store.Error

/-!
# Stores behind HTTP

A `RemoteStore` keeps messages in a service that is asked over HTTP:

* `POST base/v1/messages` with a key and a message,
* `GET base/v1/messages/KEY?since=ID`, which answers with the messages as `items`,
* `DELETE base/v1/messages/KEY`.
-/

namespace PushRelay

/-- Why a text is no address of such a service. -/
inductive RemoteError where
  | url (cause : UrlError)
  | noBase (text : String)
  deriving DecidableEq, Repr

def RemoteError.message : RemoteError → String
  | .url cause => cause.message
  | .noBase text => s!"message store url {text} cannot be a base"

/-- The service at a URL. -/
structure RemoteStore where
  base : Url
  deriving DecidableEq, Repr

namespace RemoteStore

def new (url : String) : Except RemoteError RemoteStore :=
  match Url.parse url with
  | .error e => .error (.url e)
  | .ok base => if base.cannotBeBase then .error (.noBase url) else .ok ⟨base⟩

/-- Where all messages are, or those of a key. -/
def messagesUrl (s : RemoteStore) (key : Option String) : Url :=
  s.base.extend (["v1", "messages"] ++ key.toList)

/-! ## Requests -/

def saveRequest (s : RemoteStore) (key : String) (m : Message) : Http.Request :=
  ⟨.post, s.messagesUrl none, some (.record [("key", .text key), ("message", m.toJson)])⟩

/-- Without a host there is nobody to tell since when. -/
def getRequest (s : RemoteStore) (key : String) (since : Int) : Http.Request :=
  let url := s.messagesUrl key
  ⟨.get, if url.hasHost then url.addQuery "since" (toString since) else url, none⟩

def deleteRequest (s : RemoteStore) (key : String) : Http.Request :=
  ⟨.delete, s.messagesUrl key, none⟩

/-! ## Answers -/

/-- A response whose status is a success. -/
def answer (peer : Http.Peer) (r : Http.Request) : Except StoreError Http.Response :=
  match Http.send peer r with
  | .error detail => .error (.unavailable detail)
  | .ok response =>
    if response.isSuccess then .ok response
    else .error (.rejected response.status (Utf8.toStringLossy response.body))

/-- The messages of a response. -/
def items? (body : Bytes) : Option (List Message) :=
  match (Json.parse? body).bind (Json.record? ["items"]) with
  | some [some (.array items)] => items.mapM Message.ofJson?
  | _ => none

def save (s : RemoteStore) (peer : Http.Peer) (key : String) (m : Message) :
    Except StoreError Unit :=
  (answer peer (s.saveRequest key m)).map fun _ => ()

def get (s : RemoteStore) (peer : Http.Peer) (key : String) (since : Int) :
    Except StoreError (List Message) :=
  match answer peer (s.getRequest key since) with
  | .error e => .error e
  | .ok response =>
    match items? response.body with
    | some messages => .ok messages
    | none => .error (.decode "error decoding response body")

def delete (s : RemoteStore) (peer : Http.Peer) (key : String) : Except StoreError Unit :=
  (answer peer (s.deleteRequest key)).map fun _ => ()

end RemoteStore

end PushRelay
