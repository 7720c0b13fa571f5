import PushRelay.Net.Domain
import PushRelay.Net.Percent
import PushRelay.Net.SocketAddress

/-!
# Hosts

The host of a URL is a domain, an address of version 4 or one of version 6 in brackets.
`Host.parse` reads it and gives the text that stands for it: a domain in the form in which it is
looked up, an address in its shortest form.  URLs whose scheme knows nothing of domains take any
text for a host, `Host.parseOpaque`.
-/

namespace PushRelay

/-- Why a text is no host. -/
inductive HostError where
  | empty
  | domain
  | character
  | ipv4
  | ipv6
  deriving DecidableEq, Repr

def HostError.message : HostError → String
  | .empty => "empty host"
  | .domain => "invalid international domain name"
  | .character => "invalid domain character"
  | .ipv4 => "invalid IPv4 address"
  | .ipv6 => "invalid IPv6 address"

namespace Host

/-! ## Addresses of version 4 -/

/-- The number that digits stand for. -/
def digits? (radix : Nat) (s : List Char) : Option Nat :=
  s.foldl (fun n c => n.bind fun n => (SocketAddress.digit? radix c).map (n * radix + ·)) (some 0)

/-- A number of an address: hexadecimal behind `0x`, octal behind a zero, else decimal. -/
def number? : List Char → Option Nat
  | [] => none
  | '0' :: 'x' :: s => digits? 16 s
  | '0' :: 'X' :: s => digits? 16 s
  | '0' :: c :: s => digits? 8 (c :: s)
  | s => digits? 10 s

/-- The parts of a domain without the empty one behind a final point. -/
def parts (domain : List Char) : List (List Char) :=
  let parts := domain.splitOn '.'
  if 1 < parts.length && parts.getLast? == some [] then parts.dropLast else parts

/-- Whether the last part is a number, so that the domain has to be an address. -/
def endsInNumber (domain : List Char) : Bool :=
  match (parts domain).getLast? with
  | none => false
  | some part => (!part.isEmpty && part.all Char.isDigit) || (number? part).isSome

/-- The address that numbers stand for, of which the last fills the octets that are left. -/
def ipv4? (domain : List Char) : Option Nat :=
  match (parts domain).mapM number? with
  | none => none
  | some numbers =>
    match numbers.getLast? with
    | none => none
    | some last =>
      let front := numbers.dropLast
      if 4 < numbers.length || front.any (255 < ·) || decide (1 <<< (8 * (5 - numbers.length)) ≤ last) then
        none
      else some (front.foldl (fun n d => n * 256 + d) 0 <<< (8 * (4 - front.length)) + last)

def printIpv4 (n : Nat) : List Char :=
  (SocketAddress.printOctets [n / 16777216, n / 65536 % 256, n / 256 % 256, n % 256]).toList

/-! ## Hosts -/

/-- An address of version 6, behind the opening bracket. -/
def bracketed (s : List Char) : Except HostError (List Char) :=
  if s.getLast? ≠ some ']' then .error .ipv6
  else match SocketAddress.address6? s.dropLast with
    | some (groups, []) => .ok ('[' :: (SocketAddress.printCompressed groups).toList ++ [']'])
    | _ => .error .ipv6

/-- A domain or an address of version 4, of which some octets may be percent-encoded. -/
def named (s : List Char) : Except HostError (List Char) :=
  match (Utf8.decode? (Percent.decode s)).bind Domain.toAscii? with
  | none => .error .domain
  | some domain =>
    if domain.isEmpty then .error .empty
    else if endsInNumber domain then
      match ipv4? domain with
      | some n => .ok (printIpv4 n)
      | none => .error .ipv4
    else .ok domain

def parse : List Char → Except HostError (List Char)
  | '[' :: s => bracketed s
  | s => named s

/-- Whether an opaque host cannot hold a character. -/
def isRefused (c : Char) : Bool :=
  c.toNat == 0 || "\t\n\r #/:<>?@[\\]^|".toList.contains c

def parseOpaque : List Char → Except HostError (List Char)
  | '[' :: s => bracketed s
  | s => if s.any isRefused then .error .character else .ok (Percent.encode [] s)

end Host

end PushRelay
