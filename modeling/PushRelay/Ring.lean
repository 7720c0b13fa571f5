import PushRelay.Sha256

/-!
# The ring

Nodes share out keys by consistent hashing.  Every node stands at `vnodes` points of a circle of
2^32 positions; a key belongs to the node at the first point at or behind the position of the key,
going up and around.  Where two nodes stand at one point, the one with the lesser name has it.

The hash that gives positions belongs to the ring; `position` is the one nodes agree on.  A ring is made
out of all its points, also those that stand at the place of another, and these have to fit in memory:
`fits` says whether there may be a list of so many.

    r.owner? key = none ↔ r.nodes = []
    r.owner? key depends on the set of nodes only
-/

namespace PushRelay

/-- Points of the circle with the node standing there, in the order of positions, one node to a
point. -/
structure Ring where
  /-- The position of a key, and of a replica's name. -/
  hash : String → UInt32
  nodes : List String
  vnodes : Nat
  points : List (UInt32 × String)

namespace Ring

/-- The first 32 bits of the SHA-256 digest. -/
def position (s : String) : UInt32 := (Sha256.digest (Utf8.ofString s)).a

/-- Drops elements that stand for the same as the element before them. -/
def dedupOn {α β : Type} [DecidableEq β] (f : α → β) : List α → List α
  | a :: b :: rest => if f a = f b then dedupOn f (a :: rest) else a :: dedupOn f (b :: rest)
  | l => l
  termination_by l => l.length

/-- Names in ascending order, each once. -/
def sortNames (names : List String) : List String :=
  dedupOn id (names.mergeSort fun a b => decide (a ≤ b))

/-- By position, then by name. -/
def pointLE (p q : UInt32 × String) : Bool :=
  decide (p.1 < q.1) || (p.1 == q.1 && decide (p.2 ≤ q.2))

/-- The name under which the replica of a node is hashed. -/
def replicaName (node : String) (replica : Nat) : String := node ++ "#" ++ toString replica

/-- All the points at which nodes would stand. -/
def allPoints (hash : String → UInt32) (nodes : List String) (vnodes : Nat) :
    List (UInt32 × String) :=
  nodes.flatMap fun node => (List.range vnodes).map fun i => (hash (replicaName node i), node)

/-- The most points that there can be a list of: its octets, 16 for each point, are counted by a signed
word. -/
def maxPoints : Nat := 0x7fffffffffffffff / 16

/-- Whether there can be a list of all the points at which nodes would stand. -/
def fits (nodes : List String) (vnodes : Nat) : Bool :=
  decide ((sortNames nodes).length * max vnodes 1 ≤ maxPoints)

/-- The ring of a list of nodes in any order.  A node stands at one point at least. -/
def ofNodes (hash : String → UInt32) (nodes : List String) (vnodes : Nat) : Ring :=
  let nodes := sortNames nodes
  let vnodes := max vnodes 1
  { hash, nodes, vnodes
    points := dedupOn (·.1) ((allPoints hash nodes vnodes).mergeSort pointLE) }

/-- The first point at or behind a position, past the last point the first of all. -/
def pointFrom? (points : List (UInt32 × String)) (pos : UInt32) : Option (UInt32 × String) :=
  match points.find? fun p => decide (pos ≤ p.1) with
  | some p => some p
  | none => points.head?

/-- The node a key belongs to. -/
def owner? (r : Ring) (key : String) : Option String :=
  (pointFrom? r.points (r.hash key)).map (·.2)

/-- Whether a key belongs to the node. -/
def owns (r : Ring) (node key : String) : Bool := r.owner? key == some node

def contains (r : Ring) (node : String) : Bool := r.nodes.contains node

def size (r : Ring) : Nat := r.nodes.length

def isEmpty (r : Ring) : Bool := r.nodes.isEmpty

/-- Points a node has unless the configuration says otherwise. -/
def defaultVnodes : Nat := 255

end Ring

end PushRelay
