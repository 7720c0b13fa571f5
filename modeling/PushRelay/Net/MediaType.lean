/-!
# Media types

A media type is `type/subtype`, possibly followed by parameters: `application/json; charset=utf-8`.  A
subtype may end in a suffix that says how its documents are written: `application/problem+json`.
`MediaType.isJson` tells the types whose documents are JSON.  Case does not matter.
-/

namespace PushRelay.MediaType

/-- The characters of names and of values without quotes. -/
def isTokenChar (c : Char) : Bool := c.isAlphanum || "!#$%&'*+-.^_\x60|~".toList.contains c

/-- The characters of values in quotes. -/
def isQuotedChar (c : Char) : Bool := 0x20 ≤ c.toNat && c.toNat ≤ 0x7E

/-- Whether a text is a list of parameters, each but the last with a semicolon behind it.  A value in
quotes has one character at least; one without quotes may be empty at the end. -/
def areParameters (fuel : Nat) (s : List Char) : Bool :=
  match fuel with
  | 0 => false
  | fuel + 1 =>
    let s := s.dropWhile (· == ' ')
    let name := s.takeWhile isTokenChar
    if s.isEmpty then true
    else if name.isEmpty then false
    else match s.drop name.length with
      | '=' :: '"' :: c :: s =>
        let content := s.takeWhile (· != '"')
        isQuotedChar c && content.all isQuotedChar && match s.drop content.length with
          | [] => false
          | _ :: s => match s.dropWhile (· == ' ') with
            | [] => true
            | ';' :: s => areParameters fuel s
            | _ => false
      | '=' :: s =>
        let value := s.takeWhile isTokenChar
        match s.drop value.length with
        | [] => true
        | ';' :: s => !value.isEmpty && areParameters fuel s
        | _ => false
      | _ => false

/-- A subtype without its suffix, and the suffix behind the last plus sign.  A plus sign in front of
everything starts no suffix. -/
def splitSuffix (subtype : List Char) : List Char × Option (List Char) :=
  let suffix := (subtype.reverse.takeWhile (· != '+')).reverse
  let front := subtype.take (subtype.length - suffix.length)
  if front.length < 2 then (subtype, none) else (front.dropLast, some suffix)

/-- Whether documents of a media type are JSON. -/
def isJson (s : String) : Bool :=
  let s := s.toList.map Char.toLower
  let type := s.takeWhile (· != '/')
  let rest := (s.drop type.length).drop 1
  let subtype := rest.takeWhile (· != ';')
  let parameters := (rest.drop subtype.length).drop 1
  let (name, suffix) := splitSuffix subtype
  type == "application".toList && subtype.all isTokenChar &&
    (name == "json".toList || suffix == some "json".toList) &&
    areParameters (parameters.length + 1) parameters

end PushRelay.MediaType
