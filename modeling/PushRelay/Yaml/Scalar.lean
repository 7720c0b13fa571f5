import PushRelay.Yaml.Basic
import PushRelay.Yaml.Cursor

/-!
# Scalars in YAML

Quoted, plain and block scalars.  A quoted or plain scalar may go on over several lines.  The `Gap`
between two parts of it holds the blanks or the line breaks that separate them, and `Gap.text` says what
they stand for: a single line feed is a space, and of several all but the first stay.
-/

namespace PushRelay.Yaml

/-! ## Between the parts of a scalar -/

structure Gap where
  /-- The blanks in front of the first line break. -/
  blanks : List Char
  /-- What each line break stands for. -/
  breaks : List Char
  deriving DecidableEq, Repr

namespace Gap

def empty : Gap := ⟨[], []⟩

def text (g : Gap) : List Char :=
  match g.breaks with
  | [] => g.blanks
  | ['\n'] => [' ']
  | '\n' :: more => more
  | breaks => breaks

/-- As `read?`, with fuel. -/
def readWithin (fuel margin : Nat) (g : Gap) (c : Cursor) : Option (Gap × Cursor) :=
  match fuel, c.rest with
  | fuel + 1, x :: _ =>
    if isBreak x then readWithin fuel margin { g with breaks := g.breaks ++ c.breakText } c.nextLine
    else if isSpaceOrTab x then
      if g.breaks.isEmpty then readWithin fuel margin { g with blanks := g.blanks ++ [x] } (c.pass 1)
      else if x == '\t' && c.col < margin then none
      else readWithin fuel margin g (c.pass 1)
    else some (g, c)
  | _, _ => some (g, c)

/-- The gap that starts here, and the place behind it.  No tab may indent a line that has to be indented
to `margin`. -/
def read? (margin : Nat) (c : Cursor) : Option (Gap × Cursor) :=
  readWithin (c.rest.length + 1) margin .empty c

end Gap

/-! ## Plain scalars -/

/-- The characters that mark the structure inside brackets. -/
def isFlowMark (c : Char) : Bool := ",[]\x7b\x7d".toList.contains c

/-- Whether a plain scalar may start here. -/
def startsPlain (flow : Bool) : List Char → Bool
  | [] => false
  | '-' :: s => !(s.head?.any isSpaceOrTab)
  | '?' :: s => !flow && !isBlankOrEnd s
  | ':' :: s => !flow && !isBlankOrEnd s
  | c :: _ => !(isBlankOrBreak c || isFlowMark c || "#&*!|>'\"%@\x60".toList.contains c)

/-- A part of a plain scalar, up to a blank or a character that ends it.  Inside brackets a colon in
front of one of the characters that mark structure is refused. -/
def plainPart? (flow : Bool) : List Char → Option (List Char)
  | [] => some []
  | c :: s =>
    if isBlankOrBreak c then some []
    else if flow && c == ':' && s.head?.any (fun d => isFlowMark d || d == '?') then none
    else if (c == ':' && isBlankOrEnd s) || (flow && isFlowMark c) then some []
    else (plainPart? flow s).map (c :: ·)

/-- A plain scalar that has been read: its text, the place behind it, and whether that is on a new
line. -/
structure PlainScalar where
  text : List Char
  cursor : Cursor
  onNewLine : Bool

/-- As `plain?`, behind the gap `g`, with fuel. -/
def plainWithin (fuel : Nat) (flow : Bool) (margin : Nat) (text : List Char) (g : Gap) (c : Cursor) :
    Option PlainScalar :=
  match fuel with
  | 0 => none
  | fuel + 1 =>
    let ended : PlainScalar := ⟨text, c, !g.breaks.isEmpty⟩
    if c.isAnyMark || c.startsWith '#' then some ended
    else match plainPart? flow c.rest with
      | none => none
      | some [] => some ended
      | some part =>
        let text := text ++ g.text ++ part
        let c := c.pass part.length
        if !c.rest.head?.any isBlankOrBreak then some ⟨text, c, false⟩
        else match Gap.read? margin c with
          | none => none
          | some (g, c) =>
            if !flow && c.col < margin then some ⟨text, c, !g.breaks.isEmpty⟩
            else plainWithin fuel flow margin text g c

/-- The plain scalar that starts here.  Outside brackets its lines have to be indented to `margin`.  A
comment and a mark end it. -/
def plain? (flow : Bool) (margin : Nat) (c : Cursor) : Option PlainScalar :=
  plainWithin (c.rest.length + 1) flow margin [] .empty c

/-! ## Quoted scalars -/

/-- The character of an escape of one letter. -/
def escaped? : Char → Option Char
  | '0' => some (Char.ofNat 0)
  | 'a' => some (Char.ofNat 7)
  | 'b' => some (Char.ofNat 8)
  | 't' => some '\t'
  | '\t' => some '\t'
  | 'n' => some '\n'
  | 'v' => some (Char.ofNat 11)
  | 'f' => some (Char.ofNat 12)
  | 'r' => some '\r'
  | 'e' => some (Char.ofNat 27)
  | ' ' => some ' '
  | '"' => some '"'
  | '/' => some '/'
  | '\\' => some '\\'
  | 'N' => some (Char.ofNat 0x85)
  | '_' => some (Char.ofNat 0xA0)
  | 'L' => some (Char.ofNat 0x2028)
  | 'P' => some (Char.ofNat 0x2029)
  | _ => none

/-- The number of hexadecimal digits behind the letter of an escape. -/
def escapeWidth? : Char → Option Nat
  | 'x' => some 2
  | 'u' => some 4
  | 'U' => some 8
  | _ => none

/-- The character of a number of hexadecimal digits. -/
def coded? (n : Nat) (s : List Char) : Option Char :=
  if s.length < n then none
  else (digits? 16 (s.take n)).bind fun code =>
    if code < 0xD800 ∨ (0xDFFF < code ∧ code ≤ 0x10FFFF) then some (Char.ofNat code) else none

/-- The character that is meant behind a backslash, and how many characters say so. -/
def escape? : List Char → Option (Char × Nat)
  | [] => none
  | c :: s =>
    match escapeWidth? c with
    | some width => (coded? width s).map fun x => (x, width + 1)
    | none => (escaped? c).map fun x => (x, 1)

/-- A part of a quoted scalar that has been read. -/
structure QuotedPart where
  text : List Char
  cursor : Cursor
  /-- A line break with a backslash in front of it, which stands for nothing, has been passed. -/
  continued : Bool

/-- A part of a quoted scalar, up to a blank or the quote at its end. -/
def quotedPart? (fuel : Nat) (double : Bool) (text : List Char) (c : Cursor) : Option QuotedPart :=
  match fuel, c.rest with
  | 0, _ => none
  | _, [] => some ⟨text, c, false⟩
  | fuel + 1, x :: s =>
    if isBlankOrBreak x then some ⟨text, c, false⟩
    else if double && x == '\\' then
      if s.head?.any isBreak then some ⟨text, (c.pass 1).nextLine, true⟩
      else match escape? s with
        | none => none
        | some (y, n) => quotedPart? fuel double (text ++ [y]) (c.pass (n + 1))
    else if !double && x == '\'' && s.head? == some '\'' then
      quotedPart? fuel double (text ++ ['\'']) (c.pass 2)
    else if x == (if double then '"' else '\'') then some ⟨text, c, false⟩
    else quotedPart? fuel double (text ++ [x]) (c.pass 1)

/-- As `quoted?`, behind some of the text, with fuel. -/
def quotedWithin (fuel : Nat) (double : Bool) (text : List Char) (c : Cursor) :
    Option (List Char × Cursor) :=
  match fuel with
  | 0 => none
  | fuel + 1 =>
    if c.isAnyMark then none
    else match quotedPart? (c.rest.length + 1) double text c with
      | none => none
      | some part =>
        if part.cursor.startsWith (if double then '"' else '\'') then
          some (part.text, part.cursor.pass 1)
        else if part.cursor.rest.isEmpty then none
        else match Gap.read? 0 part.cursor with
          | none => none
          | some (g, c) =>
            quotedWithin fuel double (part.text ++ if part.continued then g.breaks else g.text) c

/-- The text of the quoted scalar whose opening quote stands here, and the place behind it.  Only single
quotes keep backslashes; a quote between them is written twice.  No mark may stand in a quoted scalar. -/
def quoted? (double : Bool) (c : Cursor) : Option (List Char × Cursor) :=
  quotedWithin (c.rest.length + 1) double [] (c.pass 1)

/-! ## Block scalars -/

/-- How the line breaks at the end of a block scalar are treated. -/
inductive Chomping where
  | strip
  | clip
  | keep
  deriving DecidableEq, Repr

def chomping? : Char → Option Chomping
  | '-' => some .strip
  | '+' => some .keep
  | _ => none

/-- The chomping and the indentation that a header tells, and how many characters do so. -/
def blockHeader? : List Char → Option (Chomping × Option Nat × Nat)
  | [] => some (.clip, none, 0)
  | a :: s =>
    let b := s.head?
    match chomping? a, digit? 10 a with
    | some k, _ =>
      match b.bind (digit? 10) with
      | some 0 => none
      | some n => some (k, some n, 2)
      | none => some (k, none, 1)
    | none, some 0 => none
    | none, some n =>
      match b.bind chomping? with
      | some k => some (k, some n, 2)
      | none => some (.clip, some n, 1)
    | none, none => some (.clip, none, 0)

/-- The empty lines in front of a line of a block scalar that have been read. -/
structure BlockBreaks where
  breaks : List Char
  cursor : Cursor
  /-- The widest of the indentations passed. -/
  widest : Nat

/-- Passes indentation and empty lines.  As long as no `indent` is laid down any number of spaces is
indentation.  A tab in its place is refused. -/
def blockBreaks? (fuel : Nat) (indent : Option Nat) (b : BlockBreaks) : Option BlockBreaks :=
  match fuel with
  | 0 => none
  | fuel + 1 =>
    let spaces := (b.cursor.rest.takeWhile (· == ' ')).length
    let c := b.cursor.pass (match indent with
      | some n => min spaces (n - b.cursor.col)
      | none => spaces)
    let widest := max b.widest c.col
    if indent.all (c.col < ·) && c.startsWith '\t' then none
    else if c.atBreak then blockBreaks? fuel indent ⟨b.breaks ++ c.breakText, c.nextLine, widest⟩
    else some ⟨b.breaks, c, widest⟩

/-- What has been read of a block scalar. -/
structure BlockText where
  text : List Char
  /-- The last line break, and those of the empty lines behind it. -/
  lineBreak : List Char
  breaks : List Char
  /-- The last line starts with a blank. -/
  blank : Bool

/-- The lines of a block scalar with the given indentation. -/
def blockLines (fuel : Nat) (folded : Bool) (indent : Nat) (t : BlockText) (c : Cursor) :
    Option (BlockText × Cursor) :=
  match fuel with
  | 0 => none
  | fuel + 1 =>
    if c.col ≠ indent || c.rest.isEmpty then some (t, c)
    else
      let blank := c.rest.head?.any isSpaceOrTab
      -- A single line feed between two lines that do not start with a blank becomes a space.
      let joint :=
        if folded && t.lineBreak == ['\n'] && !t.blank && !blank then
          if t.breaks.isEmpty then [' '] else []
        else t.lineBreak
      let line := c.rest.takeWhile fun x => !isBreak x
      let c := c.pass line.length
      match blockBreaks? (c.rest.length + 1) (some indent) ⟨[], c.nextLine, 0⟩ with
      | none => none
      | some b =>
        blockLines fuel folded indent
          ⟨t.text ++ joint ++ t.breaks ++ line, c.breakText, b.breaks, blank⟩ b.cursor

/-- The text of the block scalar whose sign stands here, and the place behind it.  Its lines are
indented to `margin` at least. -/
def block? (folded : Bool) (margin : Nat) (c : Cursor) : Option (List Char × Cursor) :=
  match blockHeader? (c.rest.drop 1) with
  | none => none
  | some (chomping, increment, width) =>
    let c := (c.pass (width + 1)).passLineEnd
    if !(c.rest.isEmpty || c.atBreak) then none
    else
      let indent? := increment.map fun n => margin - 1 + n
      match blockBreaks? (c.rest.length + 1) indent? ⟨[], c.nextLine, 0⟩ with
      | none => none
      | some b =>
        let indent := indent?.getD (max 1 (max margin b.widest))
        match blockLines (b.cursor.rest.length + 1) folded indent ⟨[], [], b.breaks, false⟩ b.cursor with
        | none => none
        | some (t, c) =>
          let tail := match chomping with
            | .strip => []
            | .clip => t.lineBreak
            | .keep => t.lineBreak ++ t.breaks
          some (t.text ++ tail, c)

end PushRelay.Yaml
