import KitchenFlow.Number.Numeral
import KitchenFlow.Text.Blank
import KitchenFlow.Text.Split
import KitchenFlow.Time.Instant

/-!
# Settings

The settings of the engine come from named variables, all of which are optional. A number that
cannot be used leaves the default in place, and so do a blank key and a list of organizations with
no name in it. A number of days is taken as a signed number of 64 bits; a window longer than can be
told in milliseconds is refused.
-/

namespace KitchenFlow

/-- The settings of the engine. -/
structure Settings where
  vaultKey : Option String
  /-- The milliseconds a call to a collaborator may take. -/
  adapterTimeout : Nat
  /-- The key for completions when a node names no credential. -/
  defaultAiKey : Option String
  organizations : List String
  /-- The seconds between two ticks. -/
  tickInterval : Nat
  /-- For how long an action counts as done. -/
  dedupWindow : Span
  /-- How many evaluations are made at a time. -/
  maxConcurrency : Nat
  aiBaseUrl : String
  aiModel : String
  /-- How many events are kept for a slow observer. -/
  eventBufferSize : Nat
deriving DecidableEq, Repr, Inhabited

/-- Why settings cannot be used. -/
inductive SettingsError where
  | windowTooLong
deriving DecidableEq, Repr

/-- The wording of an error. -/
def SettingsError.message : SettingsError → String
  | .windowTooLong => "TimeDelta::days out of bounds"

namespace Settings

/-- The window in which an action counts as done, unless said otherwise. -/
def defaultWindow : Span := .ofDays 30

/-- The settings when no variable is set. -/
def default : Settings where
  vaultKey := none
  adapterTimeout := 10000
  defaultAiKey := none
  organizations := ["default"]
  tickInterval := 300
  dedupWindow := defaultWindow
  maxConcurrency := 8
  aiBaseUrl := "https://api.openai.com/v1"
  aiModel := "gpt-4o-mini"
  eventBufferSize := 1000

/-- The names of the variables. -/
def variableNames : List String :=
  ["PANTRY_VAULT_KEY", "PANTRY_ADAPTER_TIMEOUT_MS", "PANTRY_AI_API_KEY", "PANTRY_ORGS",
    "PANTRY_TICK_INTERVAL_SECS", "PANTRY_DEDUP_WINDOW_DAYS", "PANTRY_MAX_CONCURRENCY",
    "PANTRY_AI_BASE_URL", "PANTRY_AI_MODEL"]

/-- Looks a variable up. -/
abbrev Variables := String → Option String

/-- A variable as a number of 64 bits. -/
def number? (env : Variables) (name : String) : Option Nat :=
  (env name).bind fun v => Numeral.nat? (Nat.pow 2 64) (Text.trim v)

/-- A variable as a number of 64 bits that is not zero. -/
def positive? (env : Variables) (name : String) : Option Nat :=
  (number? env name).filter (0 < ·)

/-- A variable that says something. -/
def text? (env : Variables) (name : String) : Option String :=
  (env name).filter fun v => !Text.isBlank v

/-- A number of 64 bits taken as signed. -/
def signed (n : Nat) : Int := if n < Nat.pow 2 63 then n else (n : Int) - Int.pow 2 64

/-- The window for a number of days. -/
def window (days : Nat) : Except SettingsError Span :=
  match (Span.ofDays (signed days)).checked? with
  | some s => .ok s
  | none => .error .windowTooLong

/-- The names in a list with commas. -/
def names (s : String) : List String :=
  ((Text.splitAt ',' s).map Text.trim).filter (· ≠ "")

/-- The organizations of a variable, if it names any. -/
def organizations? (env : Variables) (name : String) : Option (List String) :=
  ((env name).map names).filter (· ≠ [])

/-- Reads the settings from variables. -/
def ofVariables (env : Variables) : Except SettingsError Settings := do
  let dedupWindow ←
    match number? env "PANTRY_DEDUP_WINDOW_DAYS" with
    | none => .ok defaultWindow
    | some days => window days
  .ok {
    vaultKey := text? env "PANTRY_VAULT_KEY"
    adapterTimeout := (positive? env "PANTRY_ADAPTER_TIMEOUT_MS").getD default.adapterTimeout
    defaultAiKey := text? env "PANTRY_AI_API_KEY"
    organizations := (organizations? env "PANTRY_ORGS").getD default.organizations
    tickInterval := (positive? env "PANTRY_TICK_INTERVAL_SECS").getD default.tickInterval
    dedupWindow
    maxConcurrency := (positive? env "PANTRY_MAX_CONCURRENCY").getD default.maxConcurrency
    aiBaseUrl := (env "PANTRY_AI_BASE_URL").getD default.aiBaseUrl
    aiModel := (env "PANTRY_AI_MODEL").getD default.aiModel
    eventBufferSize := default.eventBufferSize }

end Settings
end KitchenFlow
