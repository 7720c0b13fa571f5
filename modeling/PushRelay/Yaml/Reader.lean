import PushRelay.Yaml.Lexer

/-!
# From tokens to a document

`Yaml.parse?` reads a text that holds one document or none.  Anchors are numbered by how many names
there are in front of them, so an anchor that comes behind one whose name is taken again may get a
number that is in use; the last node of a number is the one that is meant.

A value that is not written is the empty plain scalar.
-/

namespace PushRelay.Yaml

/-! ## Tags -/

/-- What handles stand for. -/
abbrev Handles := List (List Char × Bytes)

/-- The handles that need no directive. -/
def commonHandles : Handles :=
  [(['!'], [33]), (['!', '!'], Utf8.ofString "tag:yaml.org,2002:")]

/-- The kind of value that a tag lays down. -/
def kindOf (tag : Bytes) : YamlTag :=
  if tag == Utf8.ofString "tag:yaml.org,2002:null" then .null
  else if tag == Utf8.ofString "tag:yaml.org,2002:bool" then .bool
  else if tag == Utf8.ofString "tag:yaml.org,2002:int" then .int
  else .other

/-- The kind that a handle and the rest of a tag lay down, if the handle stands for something. -/
def kind? (handles : Handles) (handle : List Char) (rest : Bytes) : Option YamlTag :=
  if handle.isEmpty then some (kindOf rest)
  else (handles.lookup handle).map fun front => kindOf (front ++ rest)

/-! ## Nodes -/

/-- How far a document has been read. -/
structure Reading where
  tokens : List Token
  /-- The anchors, numbered. -/
  names : List (List Char × Nat)
  /-- The nodes that have anchors, the last one first. -/
  anchored : List (Nat × Yaml)

/-- What stands in front of a node. -/
structure Properties where
  anchor : Option (List Char)
  tag : Option YamlTag
  tokens : List Token

/-- An anchor, a tag or both in either order. -/
def properties? (handles : Handles) : List Token → Option Properties
  | .anchor a :: .tag h r :: ts => (kind? handles h r).map fun k => ⟨some a, some k, ts⟩
  | .tag h r :: .anchor a :: ts => (kind? handles h r).map fun k => ⟨some a, some k, ts⟩
  | .anchor a :: ts => some ⟨some a, none, ts⟩
  | .tag h r :: ts => (kind? handles h r).map fun k => ⟨none, some k, ts⟩
  | ts => some ⟨none, none, ts⟩

/-- Gives a name the number of names, in place of the one it had. -/
def addName (names : List (List Char × Nat)) (name : List Char) : List (List Char × Nat) :=
  (name, names.length) :: names.filter (·.1 ≠ name)

/-- Which nodes may stand at a place. -/
inductive Place where
  /-- Inside brackets: no block collections. -/
  | flow
  | block
  /-- Where items may follow without a collection of their own. -/
  | mappingValue
  deriving DecidableEq, Repr

/-- Whether a token ends an item or an entry, so that there is no value in front of it. -/
def endsItem : List Token → Bool
  | .blockEntry :: _ | .blockEnd :: _ => true
  | _ => false

def endsEntry : List Token → Bool
  | .key :: _ | .value :: _ | .blockEnd :: _ => true
  | _ => false

def endsFlowItem : List Token → Bool
  | .flowEntry :: _ | .flowSeqEnd :: _ => true
  | _ => false

def endsFlowEntry : List Token → Bool
  | .flowEntry :: _ | .flowMappingEnd :: _ => true
  | _ => false

/-- The tokens behind the comma that separates the items of a flow collection, if one is needed. -/
def behindComma? (isFirst : Bool) : List Token → Option (List Token)
  | .flowEntry :: ts => if isFirst then none else some ts
  | ts => if isFirst then some ts else none

mutual

/-- The node that starts here. -/
def node? (fuel : Nat) (handles : Handles) (place : Place) (r : Reading) : Option (Yaml × Reading) :=
  match fuel, r.tokens with
  | 0, _ => none
  | _, .ref name :: ts => (r.names.lookup name).map fun k => (.ref k, { r with tokens := ts })
  | fuel + 1, ts =>
    match properties? handles ts with
    | none => none
    | some p =>
      match p.anchor with
      | none => content? fuel handles place p { r with tokens := p.tokens }
      | some name =>
        let names := addName r.names name
        (content? fuel handles place p ⟨p.tokens, names, []⟩).map fun (y, inner) =>
          (y, { inner with anchored := inner.anchored ++ (r.names.length, y) :: r.anchored })

/-- The node behind its properties. -/
def content? (fuel : Nat) (handles : Handles) (place : Place) (p : Properties) (r : Reading) :
    Option (Yaml × Reading) :=
  match fuel with
  | 0 => none
  | fuel + 1 =>
    match r.tokens with
    | .scalar style text :: ts => some (.scalar style p.tag text, { r with tokens := ts })
    | .flowSeqStart :: ts =>
      (flowItems? fuel handles true { r with tokens := ts }).map fun (items, r) => (.seq items, r)
    | .flowMappingStart :: ts =>
      (flowEntries? fuel handles true { r with tokens := ts }).map fun (es, r) => (.mapping es, r)
    | ts =>
      match place, ts with
      | .mappingValue, .blockEntry :: _ =>
        (looseItems? fuel handles r).map fun (items, r) => (.seq items, r)
      | .mappingValue, .blockSeqStart :: ts | .block, .blockSeqStart :: ts =>
        (items? fuel handles { r with tokens := ts }).map fun (items, r) => (.seq items, r)
      | .mappingValue, .blockMappingStart :: ts | .block, .blockMappingStart :: ts =>
        (entries? fuel handles { r with tokens := ts }).map fun (es, r) => (.mapping es, r)
      | _, _ =>
        if p.anchor.isSome || p.tag.isSome then some (.scalar .plain p.tag [], r) else none

/-- The items of a block sequence and its end. -/
def items? (fuel : Nat) (handles : Handles) (r : Reading) : Option (List Yaml × Reading) :=
  match fuel, r.tokens with
  | 0, _ => none
  | fuel + 1, .blockEntry :: ts =>
    let r := { r with tokens := ts }
    match if endsItem ts then some (.empty, r) else node? fuel handles .block r with
    | none => none
    | some (item, r) => (items? fuel handles r).map fun (items, r) => (item :: items, r)
  | _, .blockEnd :: ts => some ([], { r with tokens := ts })
  | _, _ => none

/-- Items that stand at the column of the key they belong to. -/
def looseItems? (fuel : Nat) (handles : Handles) (r : Reading) : Option (List Yaml × Reading) :=
  match fuel, r.tokens with
  | 0, _ => none
  | fuel + 1, .blockEntry :: ts =>
    let r := { r with tokens := ts }
    match if endsItem ts || endsEntry ts then some (.empty, r) else node? fuel handles .block r with
    | none => none
    | some (item, r) => (looseItems? fuel handles r).map fun (items, r) => (item :: items, r)
  | _, _ => some ([], r)

/-- The entries of a block mapping and its end. -/
def entries? (fuel : Nat) (handles : Handles) (r : Reading) :
    Option (List (Yaml × Yaml) × Reading) :=
  match fuel, r.tokens with
  | 0, _ => none
  | fuel + 1, .key :: ts =>
    let r := { r with tokens := ts }
    match if endsEntry ts then some (.empty, r) else node? fuel handles .mappingValue r with
    | none => none
    | some (key, r) =>
      match entryValue? fuel handles r with
      | none => none
      | some (value, r) => (entries? fuel handles r).map fun (es, r) => ((key, value) :: es, r)
  | _, .blockEnd :: ts => some ([], { r with tokens := ts })
  | _, _ => none

/-- The value of an entry of a block mapping, if there is one. -/
def entryValue? (fuel : Nat) (handles : Handles) (r : Reading) : Option (Yaml × Reading) :=
  match fuel, r.tokens with
  | 0, _ => none
  | fuel + 1, .value :: ts =>
    let r := { r with tokens := ts }
    if endsEntry ts then some (.empty, r) else node? fuel handles .mappingValue r
  | _, _ => some (.empty, r)

/-- The items of a flow sequence and its end.  An item that is an entry is a mapping of its own. -/
def flowItems? (fuel : Nat) (handles : Handles) (isFirst : Bool) (r : Reading) :
    Option (List Yaml × Reading) :=
  match fuel, r.tokens with
  | 0, _ => none
  | _, .flowSeqEnd :: ts => some ([], { r with tokens := ts })
  | fuel + 1, ts =>
    match behindComma? isFirst ts with
    | none => none
    | some (.flowSeqEnd :: ts) => some ([], { r with tokens := ts })
    | some ts =>
      let item : Option (Yaml × Reading) := match ts with
        | .key :: ts =>
          (flowPair? fuel handles { r with tokens := ts }).map fun (e, r) => (.mapping [e], r)
        | ts => node? fuel handles .flow { r with tokens := ts }
      match item with
      | none => none
      | some (item, r) =>
        (flowItems? fuel handles false r).map fun (items, r) => (item :: items, r)

/-- The key and the value of an entry in a flow sequence.  A missing key takes what follows with it. -/
def flowPair? (fuel : Nat) (handles : Handles) (r : Reading) : Option ((Yaml × Yaml) × Reading) :=
  match fuel with
  | 0 => none
  | fuel + 1 =>
    let key : Option (Yaml × Reading) := match r.tokens with
      | .value :: ts | .flowEntry :: ts | .flowSeqEnd :: ts => some (.empty, { r with tokens := ts })
      | _ => node? fuel handles .flow r
    match key with
    | none => none
    | some (key, r) =>
      let value : Option (Yaml × Reading) := match r.tokens with
        | .value :: ts =>
          let r := { r with tokens := ts }
          if endsFlowItem ts then some (.empty, r) else node? fuel handles .flow r
        | _ => some (.empty, r)
      value.map fun (value, r) => ((key, value), r)

/-- The entries of a flow mapping and its end.  An entry that is no pair is a key without a value. -/
def flowEntries? (fuel : Nat) (handles : Handles) (isFirst : Bool) (r : Reading) :
    Option (List (Yaml × Yaml) × Reading) :=
  match fuel, r.tokens with
  | 0, _ => none
  | _, .flowMappingEnd :: ts => some ([], { r with tokens := ts })
  | fuel + 1, ts =>
    match behindComma? isFirst ts with
    | none => none
    | some (.flowMappingEnd :: ts) => some ([], { r with tokens := ts })
    | some ts =>
      let entry : Option ((Yaml × Yaml) × Reading) := match ts with
        | .key :: ts => flowEntry? fuel handles { r with tokens := ts }
        | ts => (node? fuel handles .flow { r with tokens := ts }).map fun (key, r) =>
          ((key, .empty), r)
      match entry with
      | none => none
      | some (entry, r) =>
        (flowEntries? fuel handles false r).map fun (es, r) => (entry :: es, r)

/-- The key and the value of an entry in a flow mapping. -/
def flowEntry? (fuel : Nat) (handles : Handles) (r : Reading) : Option ((Yaml × Yaml) × Reading) :=
  match fuel with
  | 0 => none
  | fuel + 1 =>
    let isMissing := endsFlowEntry r.tokens || r.tokens.head? == some .value
    match if isMissing then some (.empty, r) else node? fuel handles .flow r with
    | none => none
    | some (key, r) =>
      let value : Option (Yaml × Reading) := match r.tokens with
        | .value :: ts =>
          let r := { r with tokens := ts }
          if endsFlowEntry ts then some (.empty, r) else node? fuel handles .flow r
        | _ => some (.empty, r)
      value.map fun (value, r) => ((key, value), r)

end

/-! ## Documents -/

/-- What directives lay down, and the tokens behind them.  One of them may name the version, and no
handle may be laid down twice. -/
def directives? (hasVersion : Bool) (handles : Handles) :
    List Token → Option (Handles × List Token)
  | .version major minor :: ts =>
    if !hasVersion && major == 1 && (minor == 1 || minor == 2) then directives? true handles ts
    else none
  | .handle name front :: ts =>
    if (handles.lookup name).isSome then none
    else directives? hasVersion ((name, front) :: handles) ts
  | ts => some (handles, ts)

/-- Whether a document has no node of its own. -/
def endsDocument : List Token → Bool
  | [] | .version .. :: _ | .handle .. :: _ | .documentStart :: _ | .documentEnd :: _ => true
  | _ => false

/-- The node of a document. -/
def root? (handles : Handles) (ts : List Token) : Option (Yaml × Reading) :=
  node? (3 * ts.length + 3) (handles ++ commonHandles) .block ⟨ts, [], []⟩

/-- Whether nothing but marks that end a document follow. -/
def isOver (ts : List Token) : Bool := ts.all (· == .documentEnd)

/-- The document that starts with a mark or a directive. -/
def explicit? (ts : List Token) : Option (Yaml × Reading) :=
  match directives? false [] ts with
  | some (handles, .documentStart :: ts) =>
    if endsDocument ts then some (.empty, ⟨ts, [], []⟩) else root? handles ts
  | _ => none

/-- The only document of a list of tokens. -/
def document? (ts : List Token) : Option YamlDocument :=
  let root : Option (Yaml × Reading) := match ts with
    | .version .. :: _ | .handle .. :: _ | .documentStart :: _ => explicit? ts
    | [] => some (.empty, ⟨[], [], []⟩)
    | ts => root? [] ts
  match root with
  | some (root, r) => if isOver r.tokens then some ⟨root, r.anchored⟩ else none
  | none => none

/-- The document of a text, empty if it holds none; `none` if it cannot be read or there are several. -/
def parse? (s : List Char) : Option YamlDocument := (tokens? s).bind document?

end PushRelay.Yaml
