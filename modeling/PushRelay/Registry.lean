import PushRelay.Channel.Error
import PushRelay.Table

/-!
# The registry of keys

A `Registry` says which channel a key has.  Keys are spread over a power-of-two number of buckets by a
hash; `entries` lists them all, and `find?` is the view that does not depend on buckets or hash.
-/

namespace PushRelay

/-- The number of a channel. -/
abbrev ChannelId := Nat

structure Registry where
  hash : String → Nat
  buckets : List (Table String ChannelId)

namespace Registry

/-- Whether a number is a power of two. -/
def isPowerOfTwo (n : Nat) : Bool := n == 1 <<< n.log2

/-- The most buckets that there can be a list of: its octets, 72 for each bucket, are counted by a signed
word. -/
def maxBuckets : Nat := 0x7fffffffffffffff / 72

/-- A registry without keys. -/
def new (hash : String → Nat) (count : Nat) : Except SettingsError Registry :=
  if isPowerOfTwo count then .ok ⟨hash, List.replicate count .empty⟩
  else .error (.bucketCount count)

/-- A hash that spreads keys well enough. -/
def spread (key : String) : Nat :=
  key.toList.foldl (fun h c => (h * 33 + c.toNat) % 0x100000000) 5381

/-- The number of a key's bucket. -/
def bucketOf (r : Registry) (key : String) : Nat := r.hash key % r.buckets.length

/-- The channel of a key. -/
def find? (r : Registry) (key : String) : Option ChannelId :=
  match r.buckets[r.bucketOf key]? with
  | some bucket => bucket.get? key
  | none => none

def contains (r : Registry) (key : String) : Bool := (r.find? key).isSome

def insert (r : Registry) (key : String) (id : ChannelId) : Registry :=
  { r with buckets := r.buckets.modify (r.bucketOf key) fun bucket => bucket.insert key id }

def erase (r : Registry) (key : String) : Registry :=
  { r with buckets := r.buckets.modify (r.bucketOf key) fun bucket => bucket.erase key }

/-- All keys with their channels, bucket by bucket. -/
def entries (r : Registry) : List (String × ChannelId) := r.buckets.flatMap (·.entries)

/-- The keys that satisfy `p`. -/
def filter (r : Registry) (p : String → Bool) : Registry :=
  { r with buckets := r.buckets.map fun bucket => bucket.filter fun key _ => p key }

/-- The keys that satisfy `p`, in one bucket; the others stay as they are. -/
def filterBucket (r : Registry) (i : Nat) (p : String → Bool) : Registry :=
  { r with buckets := r.buckets.modify i fun bucket => bucket.filter fun key _ => p key }

/-- No keys in as many buckets. -/
def clear (r : Registry) : Registry := { r with buckets := r.buckets.map fun _ => .empty }

def size (r : Registry) : Nat := r.buckets.foldl (fun n bucket => n + bucket.size) 0

end Registry

end PushRelay
