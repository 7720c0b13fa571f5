/-!
# What can go wrong with stored messages

`StoreError` lists the causes; `StoreError.message` words them.
-/

namespace PushRelay

inductive StoreError where
  /-- The id is taken. -/
  | duplicate (id : Int)
  /-- The store did not answer. -/
  | unavailable (detail : String)
  /-- The store answered with a status that is no success. -/
  | rejected (status : Nat) (detail : String)
  /-- The answer could not be read. -/
  | decode (detail : String)
  deriving DecidableEq, Repr

def StoreError.message : StoreError → String
  | .duplicate id => s!"message id {id} already stored"
  | .unavailable detail => s!"message store unavailable: {detail}"
  | .rejected status detail => s!"message store rejected request ({status}): {detail}"
  | .decode detail => s!"invalid message store response: {detail}"

end PushRelay
