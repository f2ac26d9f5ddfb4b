import SourceOutline.Fault
import SourceOutline.Node

/-!
# Source texts

Nodes cover bytes. The text of a node is what its bytes encode; it fails when a node's ends lie
inside characters. A source is given as a text or as the bytes of one.
-/

namespace SourceOutline

/-- What was parsed. -/
inductive Source where
  /-- A text. -/
  | text (text : String)
  /-- Bytes, which need not encode a text. -/
  | bytes (bytes : ByteArray)

namespace Source

/-- The bytes that the offsets of nodes refer to. -/
def toBytes : Source → ByteArray
  | .text s => s.toUTF8
  | .bytes b => b

/-- The text between two byte offsets, as far as there are bytes. -/
def between (source : Source) (start stop : Nat) : Except Fault String :=
  let bytes := source.toBytes
  (Text.Utf8.decode (bytes.extract (min start bytes.size) (min stop bytes.size))).mapError
    .undecodable

/-- The text of a node. -/
def nodeText (source : Source) (node : Node) : Except Fault String :=
  source.between node.start node.stop

/-- The texts of some nodes, in their order. -/
def nodeTexts (source : Source) (nodes : List Node) : Except Fault (List String) :=
  nodes.mapM source.nodeText

/-- The text of a node that may be missing. -/
def optionalText (source : Source) : Option Node → Except Fault (Option String)
  | some node => (source.nodeText node).map some
  | none => .ok none

/-- The text of a node, or `default` when there is no node. -/
def textOr (source : Source) (default : String) : Option Node → Except Fault String
  | some node => source.nodeText node
  | none => .ok default

end Source

end SourceOutline
