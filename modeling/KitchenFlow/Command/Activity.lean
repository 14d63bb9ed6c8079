import KitchenFlow.Command.Example
import KitchenFlow.Command.Help
import KitchenFlow.Command.Transcript
import KitchenFlow.Run.Setup
import KitchenFlow.Schedule.Tick
import KitchenFlow.Store.Files
import KitchenFlow.Web.Collaborator

/-!
# What commands do

A command is carried out in a setting: the environment, the file tree, the network, the present
instant and a fresh nonce. It prints lines, may change files, and ends well or with a complaint.
Only a scheduler that is not told to stop after one tick has no end; such a command comes back with
the scheduler that is to go on.
-/

namespace KitchenFlow

/-- What a command is carried out in. -/
structure Setting where
  env : Settings.Variables
  tree : FileTree
  network : Network
  now : Instant
  nonce : List UInt8

/-- Why a command failed, and what that came from. -/
structure Complaint where
  message : String
  cause : Option String
deriving DecidableEq, Repr

/-- The wording of a complaint. The lines of a cause are indented. -/
def Complaint.text (c : Complaint) : String :=
  "Error: " ++ c.message ++
    match c.cause with
    | none => "\n"
    | some cause =>
      "\n\nCaused by:\n    " ++ Text.join "\n    " (Text.splitAt '\n' cause) ++ "\n"

/-- A complaint without a cause. -/
def Complaint.plain (message : String) : Complaint := ⟨message, none⟩

/-- How a command ends. -/
inductive Conclusion where
  | success
  | failure (c : Complaint)
  /-- The settings cannot be used at all. -/
  | breakdown (message : String)
  /-- The command line was not understood. -/
  | misuse
  /-- Ticks are made from now on. -/
  | standing (store : FileStore) (scheduler : Scheduler) (seconds : Nat)

/-- What a command leads to: the lines printed, the tree after it, and how it ended. -/
structure Outcome where
  lines : List String
  tree : FileTree
  conclusion : Conclusion

/-- The exit code of a command. -/
def Conclusion.code : Conclusion → Nat
  | .success | .standing .. => 0
  | .failure _ => 1
  | .misuse => 2
  | .breakdown _ => 101

/-- What is printed beside the lines. -/
def Conclusion.text : Conclusion → String
  | .success | .standing .. => ""
  | .failure c => c.text
  | .misuse => "error: the arguments make no command\n\nFor more information, try '--help'.\n"
  | .breakdown message => message ++ "\n"

namespace Command

/-! ### Reading -/

/-- Reads the flow of a file. -/
def loadFlow (t : FileTree) (path : String) : Except Complaint Flow := do
  let text ← (t.read path).mapError fun e => ⟨"reading " ++ path, some e.message⟩
  (Decoder.ofText Flow.decoder text).mapError fun e => ⟨"parsing " ++ path, some e.message⟩

/-- Whether an item is given as it is, and not by a file. -/
def isInline (item : String) : Bool := (Text.trimStart item.toList).head? == some '\x7b'

/-- Reads an item that is given as it is or by a file. -/
def loadItem (t : FileTree) (item : String) : Except Complaint InventoryItem := do
  let text ←
    if isInline item then .ok item
    else (t.read item).mapError fun e => ⟨"reading item file " ++ item, some e.message⟩
  (Decoder.ofText InventoryItem.decoder text).mapError fun e =>
    ⟨"item must be an inventory item JSON object", some e.message⟩

/-- What a store complains of. -/
def storeComplaint (e : StoreError) : Complaint := .plain e.message

/-- What a flow is rejected for, and what that came from. -/
def flowComplaint (e : FlowError) : Complaint :=
  ⟨e.message,
    match e with
    | .graph e => some e.message
    | .config e => some e.message
    | .unknownKind .. => none⟩

/-- The credentials of a store, the tree being as it is. -/
def credentialsOf (s : FileStore) (t : FileTree) : CredentialSource := fun id =>
  match s.credential? t id with
  | .ok c => .found c
  | .error e => .fails e

/-- An engine with all collaborators; `what` needs it. -/
def liveEngine (x : Setting) (s : Settings) (what : String)
    (credentials : Option CredentialSource) : Except Complaint Engine :=
  (Engine.ofSettings s .builtin (.usual s x.network) credentials).mapError fun e =>
    ⟨what ++ " PANTRY_VAULT_KEY", some e.message⟩

/-- The paths that a command may look at or change. -/
def paths : Command → List String
  | .run file item _ live folder =>
    file :: (if isInline item then [] else [item]) ++ if live then folder.toList else []
  | .validate file => [file]
  | .nodes => []
  | .init output => [output]
  | .encrypt .. => []
  | .schedule folder .. => [folder]

/-! ### Activities -/

/-- The engine of a live run, and the tree once the folders of its store are there. -/
def runEngine (x : Setting) (s : Settings) (folder : Option String) :
    Except Complaint Engine × FileTree :=
  match folder with
  | none => (liveEngine x s "live runs need" none, x.tree)
  | some folder =>
    let store : FileStore := { base := folder }
    let made := store.create x.tree
    match made.result with
    | .error e => (.error (storeComplaint e), made.tree)
    | .ok () =>
      (liveEngine x s "live runs need" (some (credentialsOf store made.tree)), made.tree)

/-- Runs a flow on an item. -/
def performRun (x : Setting) (verbose : Bool) (file item event : String) (live : Bool)
    (folder : Option String) : Outcome :=
  let loaded : Except Complaint (Flow × TriggerEvent × InventoryItem) := do
    let flow ← loadFlow x.tree file
    let event ← (TriggerEvent.parse event).mapError .plain
    .ok (flow, event, ← loadItem x.tree item)
  match loaded with
  | .error c => ⟨[], x.tree, .failure c⟩
  | .ok (flow, event, item) =>
    let head := "Flow: " ++ flow.name ++ " (" ++ toString flow.nodes.length ++ " nodes, "
      ++ toString flow.edges.length ++ " edges)"
    match Settings.ofVariables x.env with
    | .error e => ⟨[head], x.tree, .breakdown e.message⟩
    | .ok s =>
      let (engine, tree) := if live then runEngine x s folder else (.ok .bare, x.tree)
      match engine with
      | .error c => ⟨[head], tree, .failure c⟩
      | .ok engine =>
        let mode := if live then .live else .test
        match flow.run engine mode none (.ofItem event item x.now) .initial with
        | .error e => ⟨[head], tree, .failure (flowComplaint e)⟩
        | .ok o =>
          let told := if verbose then o.events.map (·.line) else []
          match o.result with
          | .error message => ⟨head :: told, tree, .breakdown message⟩
          | .ok result => ⟨head :: told ++ result.lines, tree, .success⟩

/-- Validates the flow of a file. -/
def performValidate (x : Setting) (file : String) : Outcome :=
  match loadFlow x.tree file with
  | .error c => ⟨[], x.tree, .failure c⟩
  | .ok flow =>
    match flow.validate .builtin with
    | .error e =>
      ⟨[], x.tree, .failure (.plain ("flow " ++ flow.id ++ " is invalid: " ++ e.message))⟩
    | .ok g =>
      ⟨["Flow is valid: " ++ flow.name, "  Nodes: " ++ toString flow.nodes.length,
        "  Edges: " ++ toString flow.edges.length,
        "  Triggers: " ++ Text.join ", " (g.roots.map GraphNode.id)], x.tree, .success⟩

/-- Writes the example to a file. -/
def performInit (x : Setting) (output : String) : Outcome :=
  match x.tree.write output (Example.flow x.now).written.pretty with
  | .error e => ⟨[], x.tree, .failure (.plain e.message)⟩
  | .ok tree =>
    ⟨["Created example flow: " ++ output, "", "Run it with:",
      "  " ++ programName ++ " run --file " ++ output ++ " --item '" ++ Example.item ++ "'"],
      tree, .success⟩

/-- Seals a secret. -/
def performEncrypt (x : Setting) (plaintext key : String) : Outcome :=
  match Vault.ofHex key with
  | .error e => ⟨[], x.tree, .failure (.plain e.message)⟩
  | .ok vault => ⟨[vault.encrypt x.nonce plaintext], x.tree, .success⟩

/-- The settings of a scheduler, as changed on the command line. -/
def scheduleSettings (s : Settings) (interval : Option Nat) (organizations : Option String) :
    Except Complaint Settings := do
  let s ←
    match interval with
    | none => .ok s
    | some 0 => .error (.plain "--interval-secs must be positive")
    | some n => .ok { s with tickInterval := n }
  match organizations with
  | none => .ok s
  | some text => .ok { s with organizations := Settings.names text }

/-- The scheduler for settings. -/
def schedulerOf (s : Settings) (engine : Engine) : Scheduler :=
  { engine, organizations := s.organizations, window := s.dedupWindow
    maxConcurrency := s.maxConcurrency }

/-- Makes a tick, or prepares ticks. -/
def performSchedule (x : Setting) (folder : String) (once : Bool) (interval : Option Nat)
    (organizations : Option String) : Outcome :=
  match Settings.ofVariables x.env with
  | .error e => ⟨[], x.tree, .breakdown e.message⟩
  | .ok s =>
    match scheduleSettings s interval organizations with
    | .error c => ⟨[], x.tree, .failure c⟩
    | .ok s =>
      let store : FileStore := { base := folder }
      let made := store.create x.tree
      match made.result with
      | .error e => ⟨[], made.tree, .failure (storeComplaint e)⟩
      | .ok () =>
        match liveEngine x s "the scheduler needs" (some (credentialsOf store made.tree)) with
        | .error c => ⟨[], made.tree, .failure c⟩
        | .ok engine =>
          let scheduler := schedulerOf s engine
          if once then
            let tick := scheduler.tick (store.source made.tree) x.now .initial
            ⟨Text.splitAt '\n' tick.report.toJson.pretty, made.tree, .success⟩
          else ⟨[], made.tree, .standing store scheduler s.tickInterval⟩

/-- Carries a command out. -/
def perform (x : Setting) (verbose : Bool) : Command → Outcome
  | .run file item event live folder => performRun x verbose file item event live folder
  | .validate file => performValidate x file
  | .nodes => ⟨Registry.builtin.lines, x.tree, .success⟩
  | .init output => performInit x output
  | .encrypt plaintext key => performEncrypt x plaintext key
  | .schedule folder once interval organizations =>
    performSchedule x folder once interval organizations

end Command

/-- The paths that an order may look at or change. -/
def Order.paths : Order → List String
  | .perform _ c => c.paths
  | .help _ | .misuse => []

/-- Does what a command line asks for. -/
def Order.carryOut (x : Setting) : Order → Outcome
  | .perform verbose c => c.perform x verbose
  | .help topic => ⟨Help.lines x.env topic, x.tree, .success⟩
  | .misuse => ⟨[], x.tree, .misuse⟩

end KitchenFlow
