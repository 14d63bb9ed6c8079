import KitchenFlow.Config.Settings
import KitchenFlow.Run.Engine

/-!
# Engines from settings

An engine that is set up from settings always has a vault, so it needs a key.
-/

namespace KitchenFlow

/-- The engine for settings, with some collaborators and credentials. -/
def Engine.ofSettings (s : Settings) (registry : Registry) (services : Services)
    (credentials : Option CredentialSource) : Except VaultError Engine :=
  (Vault.ofConfig s.vaultKey).map fun vault =>
    { registry, vault := some vault, credentials, services, timeout := s.adapterTimeout
      defaultAiKey := s.defaultAiKey }

end KitchenFlow
