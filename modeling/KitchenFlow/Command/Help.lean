import KitchenFlow.Command.Basic

/-!
# Help

Help says what a command is for, how it is called and what its parameters are. Options come in the
order in which they are declared, where the option to say more, being declared for all commands,
counts among the first; of options in the same place, those with a letter come in the order of their
letters.
-/

namespace KitchenFlow

/-- The name of the program. -/
def programName : String := "pantry"

namespace Parameter

/-- The option that asks for help. -/
def help : Parameter := { name := "help", short := some 'h', about := "Print help" }

/-- How a parameter is written in full. -/
def usage (p : Parameter) : String :=
  match p.value with
  | none => "--" ++ p.name
  | some (name, _) =>
    if p.isPosition then "<" ++ name ++ ">" else "--" ++ p.name ++ " <" ++ name ++ ">"

/-- A parameter on the left of its line. -/
def heading (p : Parameter) : String :=
  if p.isPosition then p.usage
  else
    match p.short with
    | some c => "-" ++ String.singleton c ++ ", " ++ p.usage
    | none => "    " ++ p.usage

/-- Where the value of a parameter comes from that is not given. -/
def origin (env : Settings.Variables) (p : Parameter) : List String :=
  (match p.variableName with
    | none => []
    | some v =>
      let value := if p.hidesVariable then "" else "=" ++ (env v).getD ""
      ["[env: " ++ v ++ value ++ "]"])
    ++ match p.default with
    | none => []
    | some d => ["[default: " ++ d ++ "]"]

/-- What is said about a parameter on the right of its line. -/
def explanation (env : Settings.Variables) (p : Parameter) : String :=
  Text.join " " ((if p.about = "" then [] else [p.about]) ++ p.origin env)

/-- What options in the same place are ordered by. -/
def sortKey (p : Parameter) : String :=
  match p.short with
  | some c => String.singleton c
  | none => p.name

end Parameter

namespace Help

/-- Lines of two columns. -/
def columns (rows : List (String × String)) : List String :=
  let width := rows.foldl (fun w r => max w r.1.length) 0
  rows.map fun r =>
    "  " ++ r.1 ++ String.ofList (List.replicate (width - r.1.length + 2) ' ') ++ r.2

/-- A part with a title and a blank line before it, unless there is nothing in it. -/
def part (title : String) (rows : List (String × String)) : List String :=
  if rows.isEmpty then [] else "" :: title :: columns rows

/-- The options of a command in the order of help. -/
def options (n : CommandName) : List Parameter :=
  match n.parameters.filter fun p => !p.isPosition with
  | [] => [.verbose]
  | p :: rest =>
    if p.sortKey ≤ Parameter.verbose.sortKey then p :: .verbose :: rest else .verbose :: p :: rest

/-- The rows for parameters. -/
def rows (env : Settings.Variables) (ps : List Parameter) : List (String × String) :=
  ps.map fun p => (p.heading, p.explanation env)

/-- How a command is called. -/
def call (n : CommandName) : String :=
  let required := n.parameters.filter (·.isRequired)
  let parts := [programName, n.name, "[OPTIONS]"]
    ++ (required.filter fun p => !p.isPosition).map (·.usage)
    ++ (required.filter (·.isPosition)).map (·.usage)
  Text.join " " parts

/-- What the command for help is for. -/
def aboutHelp : String := "Print this message or the help of the given subcommand(s)"

/-- The lines of help on a topic. -/
def lines (env : Settings.Variables) : HelpTopic → List String
  | .commands =>
    ["Pantry flow automation CLI", "", "Usage: " ++ programName ++ " [OPTIONS] <COMMAND>"]
      ++ part "Commands:"
        (CommandName.all.map (fun n => (n.name, n.about)) ++ [(Order.helpWord, aboutHelp)])
      ++ part "Options:" (rows env [.verbose, .help])
  | .command n =>
    [n.about, "", "Usage: " ++ call n]
      ++ part "Arguments:" (rows env (n.parameters.filter (·.isPosition)))
      ++ part "Options:" (rows env (options n ++ [.help]))
  | .help =>
    [aboutHelp, "", "Usage: " ++ programName ++ " " ++ Order.helpWord ++ " [COMMAND]..."]
      ++ part "Arguments:" [("[COMMAND]...", "Print help for the subcommand(s)")]

end Help
end KitchenFlow
