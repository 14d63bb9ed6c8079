import KitchenFlow.Command.Activity
import Std.Time.DateTime.Timestamp

/-!
# The program

Reads what a command may look at into a file tree, has the command carried out, prints its lines and
writes its changes back. There is no network: requests on the web do not get through.
-/

namespace KitchenFlow.Main

/-- The present instant. -/
def now : IO Instant := do
  let t := (← Std.Time.Timestamp.now).toNanosecondsSinceUnixEpoch.val
  return ⟨t / Instant.nanosPerSecond, (t % Instant.nanosPerSecond).toNat⟩

/-- The environment. -/
def environment : IO Settings.Variables := do
  let names := Parameter.dataVariable :: Settings.variableNames
  let values ← names.mapM fun name => do return (name, ← IO.getEnv name)
  return fun name => (values.lookup name).join

/-- The path of a place. -/
def pathOf (p : FilePlace) : String := "/" ++ Text.join "/" p

/-- Reads what stands at a place, and below it if `deep` says so. -/
partial def load (deep : Bool) (t : FileTree) (p : FilePlace) : IO FileTree := do
  let path := (← IO.currentDir) / pathOf p
  if ← path.isDir then
    let t := if p = [] then t else t.put p .folder
    if !deep then return t
    (← path.readDir).toList.foldlM (fun t e => load deep t (p ++ [e.fileName])) t
  else if ← path.pathExists then
    return t.put p (.file (← IO.FS.readBinFile path).toList)
  else return t

/-- The place that steps lead to, as far as their names tell. -/
def placeOf (p : FilePlace) (steps : List String) : FilePlace :=
  steps.foldl (fun p s => if s = "." then p else if s = ".." then p.dropLast else p ++ [s]) p

/-- The stretches of steps from the first on. -/
def stretches (steps : List String) : List (List String) :=
  (List.range (steps.length + 1)).map steps.take

/-- Reads what stands at a path and on the way to it. -/
def loadPath (t : FileTree) (path : String) : IO FileTree := do
  let steps := FilePath.steps path
  let t ← ((stretches steps).map (placeOf (t.start path))).foldlM (load false) t
  load true t (placeOf (t.start path) steps)

/-- Reads what stands at some paths and on the way to the folder in use. -/
def loadTree (paths : List String) : IO FileTree := do
  let home := FilePath.steps (← IO.currentDir).toString
  let t : FileTree := { FileTree.empty with home }
  let t ← (stretches home).foldlM (load false) t
  paths.foldlM loadPath t

/-- Writes the changes of a tree. -/
def save (before after : FileTree) : IO Unit := do
  let changes := after.changesSince before
  for (p, e) in changes do
    if e = .folder then IO.FS.createDirAll (pathOf p)
  for (p, e) in changes do
    if let .file bytes := e then IO.FS.writeBinFile (pathOf p) bytes.toByteArray

/-- Makes ticks for ever, each on what the store holds by then. -/
partial def ticks (store : FileStore) (s : Scheduler) (seconds : Nat) (w : World) : IO Unit := do
  let t ← loadTree [store.base]
  let credentials := some (Command.credentialsOf store t)
  let s := { s with engine := { s.engine with credentials } }
  let tick := s.tick (store.source t) (← now) w
  IO.sleep (UInt32.ofNat (1000 * seconds))
  ticks store s seconds tick.world

/-- Does what a command line asks for; the result is the exit code. -/
def run (args : List String) : IO UInt32 := do
  let env ← environment
  let order := Order.ofWords env args
  let tree ← loadTree order.paths
  let nonce := (← IO.getRandomBytes (USize.ofNat nonceSize)).toList
  let outcome := order.carryOut ⟨env, tree, .unreachable, ← now, nonce⟩
  save tree outcome.tree
  outcome.lines.forM IO.println
  IO.eprint outcome.conclusion.text
  if let .standing store s seconds := outcome.conclusion then ticks store s seconds .initial
  return UInt32.ofNat outcome.conclusion.code

end KitchenFlow.Main

def main (args : List String) : IO UInt32 := KitchenFlow.Main.run args
