import KitchenFlow.Flow.Basic
import KitchenFlow.Json.Decoder

/-!
# Flows on the wire

How flows are written as JSON and read back. Records list their fields in the order given here.
Reading is lenient: apart from ids, names, kinds and the ends of edges, what is absent has a
default, and unknown fields are passed over.

The coordinates of a node are in single precision. In a value they are binary64 numbers like all
others; in a text they are written with the digits that single precision needs (`Flow.written`).
-/

namespace KitchenFlow

namespace TriggerEvent

def toJson (e : TriggerEvent) : Json := .string e.name

def decoder : Decoder TriggerEvent := Decoder.variant (all.map name) ofName?

end TriggerEvent

namespace RunMode

def toJson (m : RunMode) : Json := .string m.name

def decoder : Decoder RunMode := Decoder.variant (all.map name) ofName?

end RunMode

namespace Capability

def toJson (c : Capability) : Json := .string c.name

def decoder : Decoder Capability := Decoder.variant (all.map name) ofName?

end Capability

namespace NodeKind

def toJson (k : NodeKind) : Json := .string k.name

def decoder : Decoder NodeKind := Decoder.variant (all.map name) ofName?

end NodeKind

namespace Instant

def toJson (t : Instant) : Json := .string (Timestamp.render t)

end Instant

namespace CanvasPoint

def toJsonWith (coordinate : Binary64 → Json) (p : CanvasPoint) : Json :=
  .object [("x", coordinate p.x), ("y", coordinate p.y)]

def toJson (p : CanvasPoint) : Json := p.toJsonWith .ofBinary64

def record : Record CanvasPoint :=
  CanvasPoint.mk <$> .required "x" Decoder.single <*> .required "y" Decoder.single

def decoder : Decoder CanvasPoint := record.decode "Position"

end CanvasPoint

namespace NodeSpec

def toJsonWith (coordinate : Binary64 → Json) (n : NodeSpec) : Json :=
  .object
    [("id", .string n.id), ("type", .string n.kindName),
      ("position", n.position.toJsonWith coordinate), ("config", .object n.config)]

def toJson (n : NodeSpec) : Json := n.toJsonWith .ofBinary64

def record : Record NodeSpec :=
  NodeSpec.mk <$> .required "id" Decoder.string <*> .required "type" Decoder.string
    <*> .withDefault "position" .origin CanvasPoint.decoder
    <*> .withDefault "config" [] Decoder.fields

def decoder : Decoder NodeSpec := record.decode "NodeSpec"

end NodeSpec

namespace Edge

def toJson (e : Edge) : Json :=
  .object <|
    [("id", .string e.id), ("source", .string e.source), ("target", .string e.target),
      ("sourceHandle", .ofOption .string e.sourceHandle),
      ("targetHandle", .ofOption .string e.targetHandle)] ++
      match e.edgeType with
      | none => []
      | some t => [("type", .string t)]

def record : Record Edge :=
  Edge.mk <$> .required "id" Decoder.string <*> .required "source" Decoder.string
    <*> .required "target" Decoder.string <*> .optional "sourceHandle" Decoder.string
    <*> .optional "targetHandle" Decoder.string <*> .optional "type" Decoder.string

def decoder : Decoder Edge := record.decode "Edge"

end Edge

namespace Flow

def toJsonWith (coordinate : Binary64 → Json) (f : Flow) : Json :=
  .object
    [("id", .string f.id), ("name", .string f.name),
      ("nodes", .array (f.nodes.map (·.toJsonWith coordinate))),
      ("edges", .array (f.edges.map (·.toJson))), ("isActive", .bool f.isActive),
      ("lastPublished", .ofOption Instant.toJson f.lastPublished)]

def toJson (f : Flow) : Json := f.toJsonWith .ofBinary64

/-- A flow as it is written in a text. -/
def written (f : Flow) : Json := f.toJsonWith .ofSingle

def record : Record Flow :=
  Flow.mk <$> .required "id" Decoder.string <*> .required "name" Decoder.string
    <*> .withDefault "nodes" [] (Decoder.list NodeSpec.decoder)
    <*> .withDefault "edges" [] (Decoder.list Edge.decoder)
    <*> .withDefault "isActive" false Decoder.bool
    <*> .optional "lastPublished" Decoder.timestamp

def decoder : Decoder Flow := record.decode "Flow"

end Flow
end KitchenFlow
