import KitchenFlow.Config.Schema
import KitchenFlow.Flow.Wire

/-!
# The palette

What an editor is told about the kinds of nodes: what each may do, what it is for, and which fields
its configuration has.
-/

namespace KitchenFlow

namespace FieldSpec

def toJson (f : FieldSpec) : Json :=
  .object
    [("key", .string f.key), ("type", .string f.type.name), ("required", .bool f.required),
      ("options", .array (f.options.map .string))]

end FieldSpec

/-- The fields of a configuration, for an editor. -/
def fieldsJson (fields : List FieldSpec) : Json := .array (fields.map (·.toJson))

/-- The fields that are built in for a kind, for an editor. -/
def NodeKind.schemaJson (k : NodeKind) : Json := fieldsJson k.schema

/-- What is registered for a kind, for an editor. -/
def NodeMetadata.toJson (m : NodeMetadata) : Json :=
  .object
    [("kind", m.kind.toJson), ("description", .string m.description),
      ("capability", m.capability.toJson), ("fields", fieldsJson m.fields)]

namespace Registry

/-- What is registered, in the order of all kinds. -/
def listing (r : Registry) : List NodeMetadata := r.list.filterMap r.metadata?

/-- The kinds in use, for an editor. -/
def palette (r : Registry) : Json := .array (r.listing.map (·.toJson))

end Registry
end KitchenFlow
