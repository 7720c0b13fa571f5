import PushRelay.Yaml.Scalar
import PushRelay.Yaml.Tag

/-!
# From text to tokens

`tokens?` cuts a text in YAML into its tokens.  A `Lexer` keeps the columns of the block collections
that are open, so that a line with less indentation closes those it does not belong to; inside
brackets indentation means nothing.

A key without question mark is known by the colon behind it.  Where one may start, the lexer keeps a
`Candidate`; once the colon comes, the tokens for the key, and for the mapping if it is the first one
of it, go in front of what has been read since.  A key has to stand on one line and may not be long.
-/

namespace PushRelay.Yaml

/-- A place where a key may have started. -/
structure Candidate where
  index : Nat
  line : Nat
  col : Nat
  /-- The number of tokens in front of it. -/
  tokens : Nat
  /-- A key has to start there, as it stands at the column of the innermost block collection. -/
  required : Bool
  deriving DecidableEq, Repr

/-- The longest text of a key in octets. -/
def maxKey : Nat := 1024

structure Lexer where
  cursor : Cursor
  /-- The tokens so far, the last one first. -/
  tokens : List Token
  /-- The columns of the open block collections, the innermost first. -/
  blocks : List Nat
  candidate : Option Candidate
  /-- The candidates outside the open brackets, the innermost first. -/
  outer : List (Option Candidate)
  /-- A key may start here. -/
  keyAllowed : Bool
  deriving Repr

namespace Lexer

def ofText (s : List Char) : Lexer := ⟨.ofText s, [], [], none, [], true⟩

/-- Whether brackets are open. -/
def inFlow (l : Lexer) : Bool := !l.outer.isEmpty

/-- The least column of what belongs to the innermost block collection. -/
def margin (l : Lexer) : Nat :=
  match l.blocks with
  | [] => 0
  | col :: _ => col + 1

/-! ## Tokens -/

def emit (l : Lexer) (t : Token) : Lexer := { l with tokens := t :: l.tokens }

/-- Puts a token behind the first `n`. -/
def insert (l : Lexer) (n : Nat) (t : Token) : Lexer :=
  let later := l.tokens.length - n
  { l with tokens := l.tokens.take later ++ t :: l.tokens.drop later }

/-- Puts in a token for the next `n` characters. -/
def take (l : Lexer) (n : Nat) (t : Token) : Lexer :=
  { l.emit t with cursor := l.cursor.pass n }

/-! ## Block collections -/

/-- As `closeBlocks`, for the columns of the open ones. -/
def closeColumns (least : Nat) : List Nat → List Token → List Nat × List Token
  | [], tokens => ([], tokens)
  | col :: blocks, tokens =>
    if least ≤ col then closeColumns least blocks (.blockEnd :: tokens) else (col :: blocks, tokens)

/-- Closes the block collections from the column `least` on. -/
def closeBlocks (l : Lexer) (least : Nat) : Lexer :=
  if l.inFlow then l
  else
    let (blocks, tokens) := closeColumns least l.blocks l.tokens
    { l with blocks, tokens }

/-- Opens a block collection at a column, unless one is open there: its token goes behind the first
`n`. -/
def openBlock (l : Lexer) (col n : Nat) (t : Token) : Lexer :=
  if l.inFlow || col < l.margin then l
  else { l.insert n t with blocks := col :: l.blocks }

/-! ## Keys -/

/-- Gives up a candidate, which must not be required. -/
def abandon? (candidate : Option Candidate) : Option (Option Candidate) :=
  if candidate.any Candidate.required then none else some none

/-- Gives up the candidate. -/
def dropCandidate? (l : Lexer) : Option Lexer :=
  (abandon? l.candidate).map fun candidate => { l with candidate }

/-- A candidate as far as a key from there may still end at the cursor. -/
def keep? (c : Cursor) (candidate : Option Candidate) : Option (Option Candidate) :=
  let isStale := candidate.any fun k => k.line < c.line || k.index + maxKey < c.index
  if isStale then abandon? candidate else some candidate

/-- Gives up all candidates that are on another line or too far away. -/
def dropStale? (l : Lexer) : Option Lexer :=
  match keep? l.cursor l.candidate, l.outer.mapM (keep? l.cursor) with
  | some candidate, some outer => some { l with candidate, outer }
  | _, _ => none

/-- Makes this place the candidate, if a key may start here. -/
def mayBeKey? (l : Lexer) : Option Lexer :=
  if !l.keyAllowed then some l
  else l.dropCandidate?.map fun l =>
    let c := l.cursor
    let required := !l.inFlow && l.blocks.head? == some c.col
    { l with candidate := some ⟨c.index, c.line, c.col, l.tokens.length, required⟩ }

/-! ## Reading a token -/

/-- A mark of a document or a directive, which closes everything. -/
def onOwnLine? (l : Lexer) (read : Cursor → Option (Token × Cursor)) : Option Lexer :=
  match (l.closeBlocks 0).dropCandidate? with
  | none => none
  | some l =>
    (read l.cursor).map fun (t, cursor) => { l.emit t with cursor, keyAllowed := false }

def openFlow? (l : Lexer) (t : Token) : Option Lexer :=
  l.mayBeKey?.map fun l =>
    { l.take 1 t with candidate := none, outer := l.candidate :: l.outer, keyAllowed := true }

def closeFlow? (l : Lexer) (t : Token) : Option Lexer :=
  l.dropCandidate?.map fun l =>
    match l.outer with
    | [] => { l.take 1 t with keyAllowed := false }
    | candidate :: outer => { l.take 1 t with candidate, outer, keyAllowed := false }

def flowEntry? (l : Lexer) : Option Lexer :=
  l.dropCandidate?.map fun l => { l.take 1 .flowEntry with keyAllowed := true }

/-- The sign of an item or a key.  Outside brackets it opens a block collection, if need be, and has to
stand where a key may start. -/
def blockSign? (l : Lexer) (collection sign : Token) (keyAllowed : Bool) : Option Lexer :=
  if !l.inFlow && !l.keyAllowed then none
  else (l.openBlock l.cursor.col l.tokens.length collection).dropCandidate?.map fun l =>
    { l.take 1 sign with keyAllowed }

/-- The colon in front of a value. -/
def value? (l : Lexer) : Option Lexer :=
  match l.candidate with
  | some k =>
    let l := (l.insert k.tokens .key).openBlock k.col k.tokens .blockMappingStart
    some { l.take 1 .value with candidate := none, keyAllowed := false }
  | none =>
    if l.inFlow then some { l.take 1 .value with keyAllowed := false }
    else if l.keyAllowed then
      let l := l.openBlock l.cursor.col l.tokens.length .blockMappingStart
      some { l.take 1 .value with keyAllowed := true }
    else none

/-- Something that may be a key or the start of one. -/
def node? (l : Lexer) (read : Cursor → Option (Token × Cursor)) : Option Lexer :=
  match l.mayBeKey? with
  | none => none
  | some l =>
    (read l.cursor).map fun (t, cursor) => { l.emit t with cursor, keyAllowed := false }

def plainScalar? (l : Lexer) : Option Lexer :=
  match l.mayBeKey? with
  | none => none
  | some l =>
    (plain? l.inFlow l.margin l.cursor).map fun p =>
      { l.emit (.scalar .plain p.text) with cursor := p.cursor, keyAllowed := p.onNewLine }

def blockScalar? (l : Lexer) (folded : Bool) : Option Lexer :=
  match l.dropCandidate? with
  | none => none
  | some l =>
    (block? folded l.margin l.cursor).map fun (text, cursor) =>
      { l.emit (.scalar (if folded then .folded else .literal) text) with cursor, keyAllowed := true }

/-- The token that starts with the character `x`, in front of `s`. -/
def token? (l : Lexer) (x : Char) (s : List Char) : Option Lexer :=
  let c := l.cursor
  let flow := l.inFlow
  let mark (t : Token) := l.onOwnLine? fun c => some (t, c.pass 3)
  let quoted (double : Bool) :=
    l.node? fun c => (quoted? double c).map fun (text, c) => (.scalar .quoted text, c)
  let isSign := flow || isBlankOrEnd s
  if c.col == 0 && x == '%' then l.onOwnLine? directive?
  else if c.isMark '-' then mark .documentStart
  else if c.isMark '.' then mark .documentEnd
  else if x == '[' then l.openFlow? .flowSeqStart
  else if x == '\x7b' then l.openFlow? .flowMappingStart
  else if x == ']' then l.closeFlow? .flowSeqEnd
  else if x == '\x7d' then l.closeFlow? .flowMappingEnd
  else if x == ',' then l.flowEntry?
  else if x == '-' && isBlankOrEnd s then l.blockSign? .blockSeqStart .blockEntry true
  else if x == '?' && isSign then l.blockSign? .blockMappingStart .key (!flow)
  else if x == ':' && isSign then l.value?
  else if x == '*' then l.node? fun c => (anchorName? c).map fun (name, c) => (.ref name, c)
  else if x == '&' then l.node? fun c => (anchorName? c).map fun (name, c) => (.anchor name, c)
  else if x == '!' then l.node? (tag? flow)
  else if x == '|' && !flow then l.blockScalar? false
  else if x == '>' && !flow then l.blockScalar? true
  else if x == '\'' then quoted false
  else if x == '"' then quoted true
  else if startsPlain flow (x :: s) then l.plainScalar?
  else none

/-! ## Reading all of them -/

/-- The lexer in front of the next token. -/
def approach? (l : Lexer) : Option Lexer :=
  let (cursor, keyAllowed) := l.cursor.skip l.inFlow l.keyAllowed
  let l : Lexer := { l with cursor, keyAllowed }
  l.dropStale?.map fun l => l.closeBlocks (cursor.col + 1)

/-- The tokens up to the end of the text. -/
def run? (fuel : Nat) (l : Lexer) : Option (List Token) :=
  match fuel with
  | 0 => none
  | fuel + 1 =>
    match l.approach? with
    | none => none
    | some l =>
      match l.cursor.rest with
      | [] => (l.closeBlocks 0).dropCandidate?.map fun l => l.tokens.reverse
      | x :: s => (l.token? x s).bind (run? fuel)

end Lexer

/-- The tokens of a text, `none` if it is not one of them after the other. -/
def tokens? (s : List Char) : Option (List Token) :=
  if s.all isAllowed then Lexer.run? (s.length + 1) (.ofText s) else none

end PushRelay.Yaml
