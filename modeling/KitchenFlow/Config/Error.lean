import KitchenFlow.Json.Decoder
import KitchenFlow.Url.Basic

/-!
# Errors of configurations and flows

What can be wrong with a field of a configuration, and what can be wrong with a flow. Messages name
the node, the field or the edge at fault.
-/

namespace KitchenFlow

/-- What is wrong with a field of a configuration. -/
inductive FieldFault where
  | missing
  | negative
  | notNumber (value : Json)
  | notBoolean (value : Json)
  | notText (value : Json)
  | blank
  | notOption (options : List String) (text : String)
  | urlTooShort
  | badUrl (e : UrlError)
  | untyped (e : DecodeError)

/-- The wording of a fault. -/
def FieldFault.message : FieldFault → String
  | .missing => "is required"
  | .negative => "must not be negative"
  | .notNumber v => "must be a number, got " ++ v.compact
  | .notBoolean v => "must be a boolean, got " ++ v.compact
  | .notText v => "must be a string, got " ++ v.compact
  | .blank => "must not be empty"
  | .notOption options text =>
    "must be one of " ++ Text.quotedList options ++ ", got '" ++ text ++ "'"
  | .urlTooShort => "must be a URL of at least 5 characters"
  | .badUrl e => "must be a scheme-qualified URL: " ++ e.message
  | .untyped e => e.message

/-- A fault in the configuration of a node. -/
structure ConfigError where
  nodeId : String
  field : String
  fault : FieldFault

def ConfigError.message (e : ConfigError) : String :=
  "node " ++ e.nodeId ++ ": field '" ++ e.field ++ "' " ++ e.fault.message

/-- What is wrong with the branches of a node. -/
inductive BranchFault where
  | badHandle (edge handle : String)
  | noHandle (edge : String)
  | strayHandle (edge handle : String)
  | wrongCount (handle : String) (found : Nat)
deriving DecidableEq, Repr

/-- The wording of a fault. -/
def BranchFault.message : BranchFault → String
  | .badHandle edge handle =>
    "edge " ++ edge ++ " has handle '" ++ handle ++ "', expected true or false"
  | .noHandle edge => "edge " ++ edge ++ " has no branch handle"
  | .strayHandle edge handle =>
    "edge " ++ edge ++ " carries handle '" ++ handle ++ "' but source is not a condition"
  | .wrongCount handle found =>
    "expected exactly one '" ++ handle ++ "' edge, found " ++ toString found

/-- What is wrong with the shape of a flow. -/
inductive GraphError where
  | duplicateNode (id : String)
  | danglingEdge (edge node : String)
  | cycle (node : String)
  | branch (node : String) (fault : BranchFault)
  | triggerHasIncoming (node : String)
  | sharedByTriggers (node first second : String)
  | tooManyOutgoing (node : String) (limit found : Nat)
deriving DecidableEq, Repr

/-- The wording of an error. -/
def GraphError.message : GraphError → String
  | .duplicateNode id => "Duplicate node id: " ++ id
  | .danglingEdge edge node => "Edge " ++ edge ++ " references missing node " ++ node
  | .cycle node => "Cycle detected at node " ++ node
  | .branch node fault => "Branch arity violation on node " ++ node ++ ": " ++ fault.message
  | .triggerHasIncoming node => "Trigger node " ++ node ++ " has incoming edges"
  | .sharedByTriggers node first second =>
    "Node " ++ node ++ " is reachable from more than one trigger (" ++ first ++ ", " ++ second
      ++ ")"
  | .tooManyOutgoing node limit found =>
    "Node " ++ node ++ " allows at most " ++ toString limit ++ " outgoing edge(s), found "
      ++ toString found

/-- Why a flow is not accepted. -/
inductive FlowError where
  | graph (e : GraphError)
  | config (e : ConfigError)
  | unknownKind (node kind : String)

/-- The wording of an error. -/
def FlowError.message : FlowError → String
  | .graph e => "Graph error: " ++ e.message
  | .config e => "Validation error: " ++ e.message
  | .unknownKind node kind => "Unknown node kind '" ++ kind ++ "' on node " ++ node

end KitchenFlow
