import KitchenFlow.Command.Grammar

/-!
# The commands

What can be done from the command line, and how it is asked for. Every command may be told to say
more, before its name or behind it.
-/

namespace KitchenFlow

/-- The commands by name. -/
inductive CommandName where
  | run
  | validate
  | nodes
  | init
  | encrypt
  | schedule
deriving DecidableEq, Repr

namespace CommandName

def all : List CommandName := [.run, .validate, .nodes, .init, .encrypt, .schedule]

def name : CommandName → String
  | .run => "run"
  | .validate => "validate"
  | .nodes => "nodes"
  | .init => "init"
  | .encrypt => "encrypt"
  | .schedule => "schedule"

def ofName? (s : String) : Option CommandName := all.find? (·.name == s)

@[simp] theorem ofName?_name (n : CommandName) : ofName? n.name = some n := by
  cases n <;> rfl

/-- What a command is for. -/
def about : CommandName → String
  | .run => "Run a flow file against one inventory item"
  | .validate => "Validate a flow file"
  | .nodes => "List available node kinds"
  | .init => "Create an example flow"
  | .encrypt => "Encrypt a secret for storage in credentials.json"
  | .schedule => "Run the trigger scheduler over a data directory"

end CommandName

namespace Parameter

/-- Whether to say more. -/
def verbose : Parameter :=
  { name := "verbose", short := some 'v', about := "Show debug logs and live run events" }

/-- The flow file of a run. -/
def file : Parameter :=
  { name := "file", short := some 'f', value := some ("FILE", .path), isRequired := true
    about := "Path to flow JSON file" }

/-- The flow file to be validated. -/
def flowFile : Parameter := { file with short := none, isPosition := true }

def item : Parameter :=
  { name := "item", short := some 'i', value := some ("ITEM", .text), isRequired := true
    about := "Inventory item as inline JSON or a path to a JSON file" }

def event : Parameter :=
  { name := "event", short := some 'e', value := some ("EVENT", .text)
    default := some "expiration", about := "Trigger event to simulate" }

def live : Parameter :=
  { name := "live", about := "Call real adapters instead of the demo path" }

/-- The variable for the folder of a store. -/
def dataVariable : String := "PANTRY_DATA_DIR"

/-- The folder of the credentials of a live run. -/
def dataFolder : Parameter :=
  { name := "data-dir", value := some ("DATA_DIR", .path), variableName := some dataVariable
    about := "Data directory holding credentials.json (live runs)" }

/-- The folder of the store of a scheduler. -/
def storeFolder : Parameter := { dataFolder with isRequired := true, about := "" }

def output : Parameter :=
  { name := "output", short := some 'o', value := some ("OUTPUT", .path)
    default := some "flow.json", about := "Output file path" }

def plaintext : Parameter :=
  { name := "plaintext", value := some ("PLAINTEXT", .text), isPosition := true
    isRequired := true }

def key : Parameter :=
  { name := "key", value := some ("KEY", .text), isRequired := true
    variableName := some "PANTRY_VAULT_KEY", hidesVariable := true, about := "64 hex characters" }

def once : Parameter := { name := "once", about := "Run a single tick and exit" }

def interval : Parameter :=
  { name := "interval-secs", value := some ("INTERVAL_SECS", .natural)
    about := "Override the tick interval" }

def organizations : Parameter :=
  { name := "orgs", value := some ("ORGS", .text), about := "Comma-separated organization ids" }

end Parameter

/-- The parameters of a command, besides the one for saying more. -/
def CommandName.parameters : CommandName → List Parameter
  | .run => [.file, .item, .event, .live, .dataFolder]
  | .validate => [.flowFile]
  | .nodes => []
  | .init => [.output]
  | .encrypt => [.plaintext, .key]
  | .schedule => [.storeFolder, .once, .interval, .organizations]

/-- A command with what it needs to know. -/
inductive Command where
  | run (file item event : String) (live : Bool) (dataFolder : Option String)
  | validate (file : String)
  | nodes
  | init (output : String)
  | encrypt (plaintext key : String)
  | schedule (folder : String) (once : Bool) (interval : Option Nat) (organizations : Option String)
deriving DecidableEq, Repr

/-- The command with a name and the values of its parameters. -/
def Command.ofGiven (given : Given) : CommandName → Command :=
  let value (p : Parameter) : Option String := given.lookup p.name
  let text (p : Parameter) : String := (value p).getD ""
  let flag (p : Parameter) : Bool := (value p).isSome
  fun
  | .run => .run (text .file) (text .item) (text .event) (flag .live) (value .dataFolder)
  | .validate => .validate (text .flowFile)
  | .nodes => .nodes
  | .init => .init (text .output)
  | .encrypt => .encrypt (text .plaintext) (text .key)
  | .schedule =>
    .schedule (text .storeFolder) (flag .once)
      ((value .interval).bind (Numeral.nat? (Nat.pow 2 64))) (value .organizations)

/-- What help is asked for. -/
inductive HelpTopic where
  | commands
  | command (name : CommandName)
  | help
deriving DecidableEq, Repr

/-- What a command line asks for. -/
inductive Order where
  | perform (verbose : Bool) (c : Command)
  | help (topic : HelpTopic)
  | misuse
deriving DecidableEq, Repr

namespace Order

/-- The word that asks for help. -/
def helpWord : String := "help"

/-- What the words behind `help` ask for. -/
def ofHelp : List String → Order
  | [] => .help .commands
  | [s] =>
    match CommandName.ofName? s with
    | some n => .help (.command n)
    | none => if s = helpWord then .help .help else .misuse
  | _ => .misuse

/-- The order for a command with the words behind its name. -/
def ofCommand (env : Settings.Variables) (verbose : Bool) (n : CommandName) (words : List String) :
    Order :=
  match Given.ofWords (n.parameters ++ [.verbose]) env words with
  | .ok given =>
    .perform (verbose || (given.lookup Parameter.verbose.name).isSome) (Command.ofGiven given n)
  | .error .help => .help (.command n)
  | .error .misuse => .misuse

/-- What the words of a command line ask for, some options being read before. -/
def ofWordsAfter (env : Settings.Variables) (given : Given) : List String → Order
  | [] => .misuse
  | s :: rest =>
    let next : Except Halt (Given × Option Parameter) → Order
      | .ok (given, none) => ofWordsAfter env given rest
      | .error .help => .help .commands
      | _ => .misuse
    match Word.of s with
    | .dashes => .misuse
    | .letters cs => next (given.letters [.verbose] cs)
    | .long name value => next (given.long [.verbose] name value)
    | .plain s =>
      if s = helpWord then ofHelp rest
      else
        match CommandName.ofName? s with
        | some n => ofCommand env (given.lookup Parameter.verbose.name).isSome n rest
        | none => .misuse

/-- What the words of a command line ask for. -/
def ofWords (env : Settings.Variables) (words : List String) : Order := ofWordsAfter env [] words

end Order
end KitchenFlow
