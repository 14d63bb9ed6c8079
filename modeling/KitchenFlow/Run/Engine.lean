import KitchenFlow.Run.World
import KitchenFlow.Vault.Credential
import KitchenFlow.Vault.Envelope

/-!
# Engines

An engine is what runs are made with: the kinds of nodes in use, the collaborators, the credentials
and the vault that opens them, and the time a call may take. Secrets are looked up only when a node
needs one, and whatever goes wrong is said without telling anything of the secret.
-/

namespace KitchenFlow

/-- What looking up a credential once comes to. -/
inductive LookupOutcome where
  | found (c : Option Credential)
  | fails (e : StoreError)
  | silence

/-- What looking up a credential comes to, which may depend on how many lookups went before. -/
structure CredentialLookup where
  outcome : Nat → LookupOutcome

namespace CredentialLookup

/-- A lookup that comes to the same at all times. -/
def always (o : LookupOutcome) : CredentialLookup := ⟨fun _ => o⟩

/-- The store always answers. -/
def found (c : Option Credential) : CredentialLookup := always (.found c)

/-- The store always fails. -/
def fails (e : StoreError) : CredentialLookup := always (.fails e)

/-- The store never answers. -/
def silence : CredentialLookup := always .silence

end CredentialLookup

/-- Where credentials are looked up. -/
abbrev CredentialSource := String → CredentialLookup

/-- What runs are made with. -/
structure Engine where
  registry : Registry
  vault : Option Vault
  credentials : Option CredentialSource
  services : Services
  /-- The milliseconds a call may take. -/
  timeout : Nat
  /-- The key for completions when a node names no credential. -/
  defaultAiKey : Option String

namespace Engine

/-- The milliseconds a call may take unless said otherwise. -/
def defaultTimeout : Nat := 10000

/-- An engine without collaborators. -/
def bare : Engine := ⟨.builtin, none, none, .none, defaultTimeout, none⟩

/-- A secret that is not to be had. -/
def unavailable (why : String) : Except AdapterError String := .error (.missingCredential why)

/-- Opens the secret of a credential. -/
def reveal (v : Vault) (id : String) (c : Credential) : Except AdapterError String :=
  match v.decrypt c.secret with
  | .ok secret => .ok secret
  | .error _ => unavailable ("credential " ++ id ++ " could not be decrypted")

/-- Looks up the secret of a credential. -/
def resolveSecret (e : Engine) (id : String) (w : World) : Except AdapterError String × World :=
  match e.credentials, e.vault with
  | none, _ => (unavailable "no credential store configured", w)
  | some _, none => (unavailable "vault key is not configured", w)
  | some source, some vault =>
    let o := (source id).outcome w.lookups.length
    let w := w.noteLookup id
    match o with
    | .silence => (.error (.timeout e.timeout), w.wait e.timeout)
    | .fails err => (unavailable ("credential " ++ id ++ ": " ++ err.message), w)
    | .found none => (unavailable ("credential " ++ id ++ " not found"), w)
    | .found (some c) => (reveal vault id c, w)

@[simp] theorem resolveSecret_ledger (e : Engine) (id : String) (w : World) :
    (e.resolveSecret id w).2.ledger = w.ledger := by
  unfold resolveSecret
  split <;> try rfl
  dsimp only
  split <;> rfl

@[simp] theorem resolveSecret_calls (e : Engine) (id : String) (w : World) :
    (e.resolveSecret id w).2.calls = w.calls := by
  unfold resolveSecret
  split <;> try rfl
  dsimp only
  split <;> rfl

end Engine
end KitchenFlow
