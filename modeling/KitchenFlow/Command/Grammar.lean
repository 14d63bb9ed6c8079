import KitchenFlow.Config.Settings

/-!
# Command lines

What the words of a command line mean is decided by a list of parameters. Words that begin with a
dash name options; a word `--` ends them, and a single dash is an ordinary word. An option that
takes a value finds it behind an equals sign or in the next word, which must not look like an
option; one letter may also have its value attached, and letters without values can be written
together. All other words fill the positions in order.

A parameter that is not given takes its value from a variable of the environment or has a default.
Nothing may be given twice. A request for help wins over everything to the right of it.
-/

namespace KitchenFlow

/-- What a value has to be. -/
inductive ValueKind where
  | path
  | text
  | natural
deriving DecidableEq, Repr

/-- Whether a text is a value: a path is not empty, and a number has 64 bits. -/
def ValueKind.accepts : ValueKind → String → Bool
  | .path, s => s != ""
  | .text, _ => true
  | .natural, s => (Numeral.nat? (Nat.pow 2 64) s).isSome

/-- A parameter of a command. -/
structure Parameter where
  /-- Its name, by which an option is also called in full. -/
  name : String
  short : Option Char := none
  /-- What the value is called and has to be, if the parameter has one. -/
  value : Option (String × ValueKind) := none
  isPosition : Bool := false
  isRequired : Bool := false
  default : Option String := none
  /-- The variable that stands in for it. -/
  variableName : Option String := none
  /-- Whether help keeps the value of the variable to itself. -/
  hidesVariable : Bool := false
  about : String := ""
deriving DecidableEq, Repr

/-- Why a command line is not carried out. -/
inductive Halt where
  | help
  | misuse
deriving DecidableEq, Repr

/-- The values of parameters by name; a parameter without a value has an empty one. -/
abbrev Given := List (String × String)

/-- A word of a command line. -/
inductive Word where
  | dashes
  | long (name : String) (value : Option String)
  | letters (cs : List Char)
  | plain (s : String)
deriving DecidableEq, Repr

/-- What a word looks like. -/
def Word.of (s : String) : Word :=
  match s.toList with
  | ['-', '-'] => .dashes
  | '-' :: '-' :: rest =>
    let name := String.ofList rest
    match Text.cutFirst? '=' name with
    | some (name, value) => .long name (some value)
    | none => .long name none
  | ['-'] => .plain s
  | '-' :: rest => .letters rest
  | _ => .plain s

namespace Given

/-- Notes a parameter with its value. -/
def note (given : Given) (p : Parameter) (value : String) : Except Halt Given :=
  if (given.lookup p.name).isSome then .error .misuse
  else
    match p.value with
    | none => .ok ((p.name, "") :: given)
    | some (_, kind) =>
      if kind.accepts value then .ok ((p.name, value) :: given) else .error .misuse

/-- Puts a word into the next free position. -/
def place (ps : List Parameter) (given : Given) (word : String) : Except Halt Given :=
  match ps.find? fun p => p.isPosition && (given.lookup p.name).isNone with
  | some p => given.note p word
  | none => .error .misuse

/-- Reads the letters behind a dash. An option may be left waiting for its value. -/
def letters (ps : List Parameter) (given : Given) :
    List Char → Except Halt (Given × Option Parameter)
  | [] => .ok (given, none)
  | c :: rest =>
    if c = 'h' then .error .help
    else
      match ps.find? fun p => p.short == some c with
      | none => .error .misuse
      | some p =>
        match p.value, rest with
        | none, _ =>
          match given.note p "" with
          | .ok given => letters ps given rest
          | .error e => .error e
        | some _, [] => .ok (given, some p)
        | some _, '=' :: value => (given.note p (String.ofList value)).map fun g => (g, none)
        | some _, value => (given.note p (String.ofList value)).map fun g => (g, none)

/-- Reads an option by its name. It may be left waiting for its value. -/
def long (ps : List Parameter) (given : Given) (name : String) (value : Option String) :
    Except Halt (Given × Option Parameter) :=
  if name = "help" then .error (if value.isSome then .misuse else .help)
  else
    match ps.find? fun p => !p.isPosition && p.name == name with
    | none => .error .misuse
    | some p =>
      match p.value, value with
      | none, none => (given.note p "").map fun g => (g, none)
      | none, some _ => .error .misuse
      | some _, none => .ok (given, some p)
      | some _, some value => (given.note p value).map fun g => (g, none)

/-- Reads the words of a command line. `waiting` is the option whose value comes next. -/
def read (ps : List Parameter) : Option Parameter → Given → List String → Except Halt Given
  | none, given, [] => .ok given
  | some _, _, [] => .error .misuse
  | some p, given, s :: rest =>
    match Word.of s with
    | .plain s => do read ps none (← given.note p s) rest
    | _ => .error .misuse
  | none, given, s :: rest =>
    match Word.of s with
    | .dashes => rest.foldlM (place ps) given
    | .plain s => do read ps none (← given.place ps s) rest
    | .letters cs => do
      let (given, waiting) ← given.letters ps cs
      read ps waiting given rest
    | .long name value => do
      let (given, waiting) ← given.long ps name value
      read ps waiting given rest

/-- Gives a parameter that is not given the value of its variable or its default. -/
def supply (env : Settings.Variables) (given : Given) (p : Parameter) : Except Halt Given :=
  if (given.lookup p.name).isSome then .ok given
  else
    match (p.variableName.bind env).or p.default with
    | some value => given.note p value
    | none => if p.isRequired then .error .misuse else .ok given

/-- Reads the words of a command line and supplies what is not given. -/
def ofWords (ps : List Parameter) (env : Settings.Variables) (words : List String) :
    Except Halt Given := do
  let given ← read ps none [] words
  ps.foldlM (supply env) given

end Given
end KitchenFlow
