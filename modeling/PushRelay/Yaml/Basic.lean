import PushRelay.Text.Numeral

/-!
# YAML documents

`Yaml` is a node of a YAML document.  Scalars keep their text, the way they were written and the kind
that a tag lays down for them; what a scalar stands for is for its reader to say: `Yaml.text?` takes
any scalar as text, `Yaml.nat?`, `Yaml.int?` and `Yaml.bool?` take plain ones, and literal ones whose
tag names the kind.

An anchored node may be referred to from other places of its document, also from within.  A
`YamlDocument` therefore lists the nodes that have anchors, and `YamlDocument.deref` looks one up.
-/

namespace PushRelay

/-- How a scalar is written. -/
inductive ScalarStyle where
  | plain
  | quoted
  | literal
  | folded
  deriving DecidableEq, Repr

/-- The kind of value that a tag lays down. -/
inductive YamlTag where
  | null
  | bool
  | int
  | other
  deriving DecidableEq, Repr

inductive Yaml where
  | scalar (style : ScalarStyle) (tag : Option YamlTag) (text : List Char)
  | seq (items : List Yaml)
  | mapping (entries : List (Yaml × Yaml))
  /-- The anchored node of a number. -/
  | ref (anchor : Nat)
  deriving Repr

namespace Yaml

/-- A value that is not written. -/
def empty : Yaml := .scalar .plain none []

/-! ## Reading scalars -/

def isNullWord (text : List Char) : Bool :=
  ["null", "Null", "NULL", "~"].contains (String.ofList text)

/-- Whether the node leaves open what it might say; `none` if its tag is against its text. -/
def isUnset? : Yaml → Option Bool
  | .scalar .plain none text => some (text.isEmpty || isNullWord text)
  | .scalar .plain (some .null) text => if isNullWord text then some true else none
  | _ => some false

/-- A plain scalar without text, which may stand for an empty collection. -/
def isEmptyPlain : Yaml → Bool
  | .scalar .plain _ text => text.isEmpty
  | _ => false

def text? : Yaml → Option String
  | .scalar _ _ text => some (String.ofList text)
  | _ => none

/-- The text of a scalar that may stand for a value of the kind that a tag names. -/
def textOf? (kind : YamlTag) : Yaml → Option (List Char)
  | .scalar .plain _ text => some text
  | .scalar .literal (some tag) text => if tag = kind then some text else none
  | _ => none

def boolWord? (text : List Char) : Option Bool :=
  let text := String.ofList text
  if ["true", "True", "TRUE"].contains text then some true
  else if ["false", "False", "FALSE"].contains text then some false
  else none

def bool? (y : Yaml) : Option Bool := (y.textOf? .bool).bind boolWord?

/-! ## Integers -/

/-- The value of a digit of either case. -/
def digit? (radix : Nat) (c : Char) : Option Nat :=
  let n := c.toNat
  let d : Option Nat :=
    if 48 ≤ n ∧ n ≤ 57 then some (n - 48)
    else if 97 ≤ n ∧ n ≤ 122 then some (n - 87)
    else if 65 ≤ n ∧ n ≤ 90 then some (n - 55)
    else none
  d.filter (· < radix)

def digits? (radix : Nat) : List Char → Option Nat
  | [] => none
  | s => s.foldl (fun n c => n.bind fun n => (digit? radix c).map (n * radix + ·)) (some 0)

/-- A number whose radix is told by the letter behind a zero. -/
def radixed? : List Char → Option Nat
  | '0' :: 'x' :: s => digits? 16 s
  | '0' :: 'o' :: s => digits? 8 s
  | '0' :: 'b' :: s => digits? 2 s
  | _ => none

/-- Whether several digits start with a zero, which makes no number. -/
def hasLeadingZero : List Char → Bool
  | '0' :: c :: s => (c :: s).all fun c => 48 ≤ c.toNat && c.toNat ≤ 57
  | _ => false

/-- A number without sign. -/
def magnitude? (s : List Char) : Option Nat :=
  match radixed? s with
  | some n => some n
  | none => if hasLeadingZero s then none else digits? 10 s

/-- An integer with an optional sign. -/
def integer? : List Char → Option Int
  | '-' :: s => (magnitude? s).map fun n => -(n : Int)
  | '+' :: s => (magnitude? s).map fun n => (n : Int)
  | s => (magnitude? s).map fun n => (n : Int)

def int? (lo hi : Int) (y : Yaml) : Option Int :=
  ((y.textOf? .int).bind integer?).filter fun n => decide (lo ≤ n ∧ n ≤ hi)

/-- A natural number below `bound`, not written with a minus sign. -/
def nat? (bound : Nat) (y : Yaml) : Option Nat :=
  match y.textOf? .int with
  | some ('-' :: _) => none
  | _ => (y.int? 0 (bound - 1)).map Int.toNat

end Yaml

/-! ## Documents -/

structure YamlDocument where
  root : Yaml
  /-- Numbered nodes.  Of those of one number the first one counts. -/
  anchored : List (Nat × Yaml)
  deriving Repr

namespace YamlDocument

/-- A document without a node. -/
def empty : YamlDocument := ⟨.empty, []⟩

/-- The node that is meant. -/
def deref (d : YamlDocument) : Yaml → Yaml
  | .ref anchor => (d.anchored.lookup anchor).getD .empty
  | y => y

end YamlDocument

end PushRelay
