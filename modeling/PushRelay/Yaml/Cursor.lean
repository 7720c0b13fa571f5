/-!
# Places in a YAML text

A `Cursor` is the text that is left, with the line and the column it starts at and the number of octets
in front of it.  A line ends with a carriage return, a line feed, both, or one of three other
characters; `Cursor.nextLine` passes any of them, and `Cursor.breakText` is the text it stands for.
-/

namespace PushRelay.Yaml

/-! ## Characters -/

/-- Whether a character may stand in a text: no control characters but tabs and line breaks. -/
def isAllowed (c : Char) : Bool :=
  let n := c.toNat
  n == 9 || n == 10 || n == 13 || n == 0x85 || (0x20 ≤ n && n ≤ 0x7E) || (0xA0 ≤ n && n ≤ 0xFFFD) ||
    0x10000 ≤ n

/-- The two separators that stay what they are where other line breaks become line feeds. -/
def isSeparator (c : Char) : Bool := c == '\u2028' || c == '\u2029'

def isBreak (c : Char) : Bool := c == '\n' || c == '\r' || c == '\u0085' || isSeparator c

def isSpaceOrTab (c : Char) : Bool := c == ' ' || c == '\t'

def isBlankOrBreak (c : Char) : Bool := isSpaceOrTab c || isBreak c

/-- Whether a blank, a line break or the end stands here. -/
def isBlankOrEnd (s : List Char) : Bool := s.head?.all isBlankOrBreak

/-- A character of names: a letter or digit of ASCII, an underscore or a hyphen. -/
def isWordChar (c : Char) : Bool := c.isAlphanum || c == '_' || c == '-'

/-- The octets that characters take. -/
def octets (s : List Char) : Nat := s.foldl (fun n c => n + c.utf8Size) 0

/-! ## Cursors -/

structure Cursor where
  rest : List Char
  /-- The octets in front of it. -/
  index : Nat
  line : Nat
  col : Nat
  deriving Repr

namespace Cursor

/-- The start of a text. -/
def ofText (s : List Char) : Cursor := ⟨s, 0, 0, 0⟩

def startsWith (c : Cursor) (x : Char) : Bool := c.rest.head? == some x

/-- The place behind the next `n` characters of the line. -/
def pass (c : Cursor) (n : Nat) : Cursor :=
  let passed := c.rest.take n
  ⟨c.rest.drop n, c.index + octets passed, c.line, c.col + passed.length⟩

/-- The first place on the line whose character does not satisfy `p`, which no line break does. -/
def passWhile (c : Cursor) (p : Char → Bool) : Cursor := c.pass (c.rest.takeWhile p).length

/-- The start of the next line, if a line break stands here. -/
def nextLine (c : Cursor) : Cursor :=
  match c.rest with
  | '\r' :: '\n' :: s => ⟨s, c.index + 2, c.line + 1, 0⟩
  | x :: s => ⟨s, c.index + x.utf8Size, c.line + 1, 0⟩
  | [] => c

/-- What the line break here stands for: a line feed or a separator.  Nothing at the end. -/
def breakText (c : Cursor) : List Char :=
  match c.rest with
  | [] => []
  | x :: _ => if isSeparator x then [x] else ['\n']

def atBreak (c : Cursor) : Bool := c.rest.head?.any isBreak

/-- Whether the mark that starts (`-`) or ends (`.`) a document stands here: three equal characters at
the start of a line. -/
def isMark (c : Cursor) (x : Char) : Bool :=
  c.col == 0 && c.rest.take 3 == [x, x, x] && isBlankOrEnd (c.rest.drop 3)

def isAnyMark (c : Cursor) : Bool := c.isMark '-' || c.isMark '.'

/-- Passes blanks and a comment. -/
def passLineEnd (c : Cursor) : Cursor :=
  let c := c.passWhile isSpaceOrTab
  if c.startsWith '#' then c.passWhile fun x => !isBreak x else c

/-- As `skip`, with fuel. -/
def skipWithin (fuel : Nat) (flow keyAllowed : Bool) (c : Cursor) : Cursor × Bool :=
  match fuel with
  | 0 => (c, keyAllowed)
  | fuel + 1 =>
    let c := if c.col == 0 && c.startsWith '\ufeff' then c.pass 1 else c
    let c := c.passWhile fun x => x == ' ' || ((flow || !keyAllowed) && x == '\t')
    let c := if c.startsWith '#' then c.passWhile fun x => !isBreak x else c
    if c.atBreak then skipWithin fuel flow (keyAllowed || !flow) c.nextLine else (c, keyAllowed)

/-- Passes blanks, comments and line breaks, and says whether a key may start behind them: outside
brackets, a new line may start with one.  Where a key may start a tab is no blank, and a line may start
with a byte order mark. -/
def skip (c : Cursor) (flow keyAllowed : Bool) : Cursor × Bool :=
  skipWithin (c.rest.length + 1) flow keyAllowed c

end Cursor

end PushRelay.Yaml
