import PushRelay.Text.Utf8
import PushRelay.Yaml.Basic

/-!
# Tokens of YAML

A text in YAML is a sequence of tokens.  Some of them are characters of the text; `key` stands in
front of every key, whether it is written with a question mark or not, and the tokens that open and
close block collections tell how lines are indented.
-/

namespace PushRelay.Yaml

inductive Token where
  /-- A directive that names the version. -/
  | version (major minor : Nat)
  /-- A directive that lets a handle stand for the front of tags. -/
  | handle (name : List Char) (front : Bytes)
  | documentStart
  | documentEnd
  | blockSeqStart
  | blockMappingStart
  | blockEnd
  | flowSeqStart
  | flowSeqEnd
  | flowMappingStart
  | flowMappingEnd
  | blockEntry
  | flowEntry
  | key
  | value
  | anchor (name : List Char)
  | ref (name : List Char)
  /-- A tag: what its handle stands for, then the rest.  The empty handle stands for nothing. -/
  | tag (handle : List Char) (rest : Bytes)
  | scalar (style : ScalarStyle) (text : List Char)
  deriving DecidableEq, Repr

end PushRelay.Yaml
