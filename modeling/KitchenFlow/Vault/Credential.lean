import KitchenFlow.Json.Decoder

/-!
# Credentials

A credential is a stored secret for an integration. The secret is kept in sealed form only, and the
form for diagnostics leaves it out altogether.
-/

namespace KitchenFlow

/-- The kind of a credential. -/
inductive CredentialKind where
  | apiKey
  | oauth
deriving DecidableEq, Repr, Inhabited

namespace CredentialKind

def all : List CredentialKind := [.apiKey, .oauth]

def name : CredentialKind → String
  | .apiKey => "API_KEY"
  | .oauth => "OAUTH"

def ofName? (s : String) : Option CredentialKind := all.find? (·.name == s)

@[simp] theorem ofName?_name (k : CredentialKind) : ofName? k.name = some k := by
  cases k <;> rfl

/-- The word for a kind in diagnostics. -/
def label : CredentialKind → String
  | .apiKey => "ApiKey"
  | .oauth => "Oauth"

def toJson (k : CredentialKind) : Json := .string k.name

def decoder : Decoder CredentialKind := Decoder.variant (all.map name) ofName?

end CredentialKind

/-- A stored secret. -/
structure Credential where
  id : String
  kind : CredentialKind
  /-- The secret, sealed. -/
  secret : String
  metadata : Fields
deriving Repr, Inhabited

namespace Credential

def toJson (c : Credential) : Json :=
  .object
    [("id", .string c.id), ("type", c.kind.toJson), ("secret", .string c.secret),
      ("metadata", .object c.metadata)]

def record : Record Credential :=
  Credential.mk <$> .required "id" Decoder.string <*> .required "type" CredentialKind.decoder
    <*> .required "secret" Decoder.string <*> .withDefault "metadata" [] Decoder.fields

def decoder : Decoder Credential := record.decode "Credential"

end Credential

/-! ### The form for diagnostics -/

namespace Json

mutual

/-- A value for diagnostics: every part says of which kind it is. -/
def describe : Json → String
  | .null => "Null"
  | .bool b => "Bool(" ++ (if b then "true" else "false") ++ ")"
  | .number n => "Number(" ++ n.render ++ ")"
  | .string s => "String(" ++ Text.quoted s ++ ")"
  | .array items => "Array [" ++ Text.join ", " (describeItems items) ++ "]"
  | .object fields => "Object \x7b" ++ Text.join ", " (describeFields fields) ++ "\x7d"

/-- Each of several values for diagnostics. -/
def describeItems : List Json → List String
  | [] => []
  | v :: rest => describe v :: describeItems rest

/-- Each of several fields for diagnostics. -/
def describeFields : List (String × Json) → List String
  | [] => []
  | (k, v) :: rest => (Text.quoted k ++ ": " ++ describe v) :: describeFields rest

end

end Json

/-- What stands in the place of a secret. -/
def redacted : String := "<redacted>"

/-- A credential for diagnostics, without its secret. -/
def Credential.describe (c : Credential) : String :=
  "Credential \x7b id: " ++ Text.quoted c.id ++ ", kind: " ++ c.kind.label ++ ", secret: "
    ++ Text.quoted redacted ++ ", metadata: \x7b"
    ++ Text.join ", " (Json.describeFields c.metadata) ++ "\x7d \x7d"

/-- The diagnostics of a credential do not depend on its secret. -/
theorem Credential.describe_secret (c : Credential) (secret : String) :
    ({ c with secret := secret } : Credential).describe = c.describe := rfl

end KitchenFlow
