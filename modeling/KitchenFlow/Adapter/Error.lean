/-!
# Failures of collaborators

What a call to the outside world can come to instead of success.
-/

namespace KitchenFlow

/-- A failure of an adapter. -/
inductive AdapterError where
  | failed (message : String)
  | timeout (millis : Nat)
  | missingCredential (message : String)
deriving DecidableEq, Repr, Inhabited

/-- The wording of a failure. -/
def AdapterError.message : AdapterError → String
  | .failed m => "Adapter call failed: " ++ m
  | .timeout ms => "Timeout after " ++ toString ms ++ "ms"
  | .missingCredential m => "Credential unavailable: " ++ m

/-- A failure of a store. -/
structure StoreError where
  cause : String
deriving DecidableEq, Repr, Inhabited

/-- The wording of a failure. -/
def StoreError.message (e : StoreError) : String := "Store error: " ++ e.cause

end KitchenFlow
