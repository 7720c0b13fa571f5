import PushRelay.Text.Quoted

/-!
# Socket addresses

A `SocketAddress` is an IP address with a port: `1.2.3.4:80`, or `[2001:db8::1]:80`, the address of
version 6 possibly with the number of a scope, `[fe80::1%3]:80`.  `SocketAddress.parse?` reads one and
`SocketAddress.print` writes it, the longest run of zero groups as `::` and letters in lower case.
-/

namespace PushRelay

inductive SocketAddress where
  | v4 (octets : List Nat) (port : Nat)
  | v6 (groups : List Nat) (scope port : Nat)
  deriving DecidableEq, Repr

namespace SocketAddress

/-! ## Reading -/

/-- The value of a digit, of either case, below `radix`. -/
def digit? (radix : Nat) (c : Char) : Option Nat :=
  let n := c.toNat
  let d : Option Nat :=
    if 48 ≤ n ∧ n ≤ 57 then some (n - 48)
    else if 97 ≤ n ∧ n ≤ 102 then some (n - 87)
    else if 65 ≤ n ∧ n ≤ 70 then some (n - 55)
    else none
  d.filter (· < radix)

/-- A number below `bound`: as many digits as there are, which must not be more than `most`. -/
def number? (radix : Nat) (most : Option Nat) (leadingZeros : Bool) (bound : Nat) (s : List Char) :
    Option (Nat × List Char) :=
  let digits := (s.takeWhile fun c => (digit? radix c).isSome).filterMap (digit? radix)
  let n := digits.foldl (fun n d => n * radix + d) 0
  if digits.isEmpty then none
  else if (most.map fun most => decide (most < digits.length)).getD false then none
  else if !leadingZeros && digits.head? == some 0 && decide (1 < digits.length) then none
  else if n < bound then some (n, s.drop digits.length)
  else none

/-- A given character. -/
def char? (c : Char) : List Char → Option (List Char)
  | a :: s => if a = c then some s else none
  | [] => none

/-- An octet of a version 4 address. -/
def octet? (s : List Char) : Option (Nat × List Char) := number? 10 (some 3) false 256 s

def octets? (s : List Char) : Option (List Nat × List Char) := do
  let (a, s) ← octet? s
  let s ← char? '.' s
  let (b, s) ← octet? s
  let s ← char? '.' s
  let (c, s) ← octet? s
  let s ← char? '.' s
  let (d, s) ← octet? s
  some ([a, b, c, d], s)

/-- Passes a colon if this is not the first part. -/
def separator? (first : Bool) (s : List Char) : Option (List Char) :=
  if first then some s else char? ':' s

/-- Up to `room` groups of a version 6 address, of which the last two may be written as a version 4
address.  Also says whether they were. -/
def groups (first : Bool) : Nat → List Char → List Nat × Bool × List Char
  | 0, s => ([], false, s)
  | room + 1, s =>
    let tail : Option (List Nat × List Char) :=
      if 0 < room then (separator? first s).bind octets? else none
    match tail with
    | some ([a, b, c, d], s) => ([a * 256 + b, c * 256 + d], true, s)
    | _ =>
      match (separator? first s).bind (number? 16 (some 4) true 65536) with
      | some (g, s) =>
        let (gs, embedded, s) := groups false room s
        (g :: gs, embedded, s)
      | none => ([], false, s)

/-- Eight groups.  A double colon stands for one or more groups of zero; groups in front of it are
written in full. -/
def address6? (s : List Char) : Option (List Nat × List Char) :=
  let (head, embedded, s) := groups true 8 s
  if head.length = 8 then some (head, s)
  else if embedded then none
  else do
    let s ← char? ':' s
    let s ← char? ':' s
    let (tail, _, s) := groups true (7 - head.length) s
    some (head ++ List.replicate (8 - head.length - tail.length) 0 ++ tail, s)

def port? (s : List Char) : Option (Nat × List Char) := (char? ':' s).bind (number? 10 none true 65536)

/-- The number of a scope, zero if there is none. -/
def scope? (s : List Char) : Option (Nat × List Char) :=
  match s with
  | '%' :: s => number? 10 none true 0x100000000 s
  | s => some (0, s)

def parse4? (s : List Char) : Option (SocketAddress × List Char) := do
  let (octets, s) ← octets? s
  let (port, s) ← port? s
  some (.v4 octets port, s)

def parse6? (s : List Char) : Option (SocketAddress × List Char) := do
  let s ← char? '[' s
  let (groups, s) ← address6? s
  let (scope, s) ← scope? s
  let s ← char? ']' s
  let (port, s) ← port? s
  some (.v6 groups scope port, s)

def parse? (s : String) : Option SocketAddress :=
  match (parse4? s.toList).or (parse6? s.toList) with
  | some (a, []) => some a
  | _ => none

/-! ## Writing -/

/-- How many zeros a list starts with. -/
def zeros (groups : List Nat) : Nat := (groups.takeWhile (· == 0)).length

/-- The start and the length of the first longest run of zeros that starts at or behind `i`. -/
def longestZeros (i : Nat) : List Nat → Nat × Nat
  | [] => (i, 0)
  | g :: gs =>
    let here := (i, zeros (g :: gs))
    let later := longestZeros (i + 1) gs
    if here.2 < later.2 then later else here

def printGroups (groups : List Nat) : String :=
  ":".intercalate (groups.map fun g => String.ofList (Text.hexDigits g))

def printOctets (octets : List Nat) : String := ".".intercalate (octets.map toString)

/-- Groups with the longest run of zeros as `::`, unless it is a single one. -/
def printCompressed (groups : List Nat) : String :=
  let (start, n) := longestZeros 0 groups
  if n ≤ 1 then printGroups groups
  else printGroups (groups.take start) ++ "::" ++ printGroups (groups.drop (start + n))

/-- An address of version 4 inside version 6 keeps its own form. -/
def print6 (groups : List Nat) : String :=
  match groups with
  | [0, 0, 0, 0, 0, 0xFFFF, g, h] => "::ffff:" ++ printOctets [g / 256, g % 256, h / 256, h % 256]
  | _ => printCompressed groups

def print : SocketAddress → String
  | .v4 octets port => s!"{printOctets octets}:{port}"
  | .v6 groups 0 port => s!"[{print6 groups}]:{port}"
  | .v6 groups scope port => s!"[{print6 groups}%{scope}]:{port}"

end SocketAddress

end PushRelay
