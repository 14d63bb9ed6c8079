import KitchenFlow.Config.Palette
import KitchenFlow.Run.Interpreter
import KitchenFlow.Web.MediaType

/-!
# The service for editors

An editor asks over the web for the palette, has a flow validated or tried out on a sample payload,
and has secrets sealed. A flow that is no good is answered by what is wrong with it; nothing an
editor asks for reaches a collaborator.
-/

namespace KitchenFlow

/-- What an editor asks. -/
structure ServiceRequest where
  method : String
  /-- The path, and behind a question mark the query. -/
  target : String
  contentType : Option String
  body : String
deriving Repr

/-- What is sent back. -/
inductive ServiceContent where
  | json (v : Json)
  | text (s : String)
deriving Repr

/-- The answer to a request. -/
structure ServiceReply where
  status : Nat
  content : ServiceContent
deriving Repr

namespace ServiceReply

def ok (v : Json) : ServiceReply := ⟨200, .json v⟩

/-- An answer that says in JSON what is wrong. -/
def failure (status : Nat) (message : String) : ServiceReply :=
  ⟨status, .json (.object [("error", .string message)])⟩

/-- The answer where nothing is to be found. -/
def notFound : ServiceReply := ⟨404, .text ""⟩

/-- The answer to a body that cannot be used. -/
def badBody (message : String) : ServiceReply := ⟨400, .text message⟩

end ServiceReply

/-! ### Routes -/

/-- What an editor can ask for. -/
inductive Route where
  | health
  | palette
  | validate
  | tryOut
  | seal
  | events
deriving DecidableEq, Repr

namespace Route

def all : List Route := [.health, .palette, .validate, .tryOut, .seal, .events]

def method : Route → String
  | .health | .palette | .events => "GET"
  | .validate | .tryOut | .seal => "POST"

def path : Route → String
  | .health => "/health"
  | .palette => "/api/nodes"
  | .validate => "/api/flows/validate"
  | .tryOut => "/api/flows/test"
  | .seal => "/api/credentials/encrypt"
  | .events => "/api/events"

/-- The bytes that stay escaped in a path. -/
def keptEscapes : List UInt8 := [0x25, 0x2B, 0x2F]

/-- The bytes of a path, its escapes resolved. -/
def resolve : List UInt8 → List UInt8
  | 0x25 :: a :: b :: rest =>
    match Url.unescape [0x25, a, b] with
    | [c] => if keptEscapes.contains c then 0x25 :: a :: b :: resolve rest else c :: resolve rest
    | _ => 0x25 :: resolve (a :: b :: rest)
  | c :: rest => c :: resolve rest
  | [] => []
termination_by bytes => bytes.length

/-- What a request is for. -/
def of? (r : ServiceRequest) : Option Route :=
  let path := ((Text.cutFirst? '?' r.target).map (·.1)).getD r.target
  let bytes := resolve path.toUTF8.toList
  all.find? fun route => route.method == r.method && route.path.toUTF8.toList == bytes

end Route

/-! ### Bodies -/

/-- The most bytes a body may have. -/
def bodyLimit : Nat := Nat.pow 2 21

/-- Reads the body of a request, or says how to answer it instead. -/
def ServiceRequest.read (r : ServiceRequest) (d : Decoder α) : Except ServiceReply α :=
  if (r.contentType.bind MediaType.parse?).any MediaType.isJson then
    if bodyLimit < r.body.utf8ByteSize then
      .error ⟨413, .text ("JSON payload has exceeded limit (" ++ toString bodyLimit ++ " bytes).")⟩
    else
      (Decoder.ofText d r.body).mapError fun e => .badBody ("Json deserialize error: " ++ e.message)
  else .error (.badBody "Content type error")

/-- A flow and the payload to try it out on. -/
def tryOutRecord : Record (Flow × Payload) :=
  Prod.mk <$> .required "flow" Flow.decoder <*> .required "payload" Payload.decoder

/-- A secret to be sealed. -/
def sealRecord : Record String := .required "plaintext" Decoder.string

/-! ### Answers -/

/-- The version of the service. -/
def serviceVersion : String := "0.1.0"

/-- The name of the service. -/
def serviceName : String := "pantry-flow-engine"

namespace Engine

/-- The answer to a flow that is no good. -/
def refuse (e : FlowError) : ServiceReply := .failure 422 e.message

/-- Validates a flow. -/
def answerValidate (e : Engine) (f : Flow) : ServiceReply :=
  match f.validate e.registry with
  | .ok g =>
    .ok (.object [("valid", .bool true), ("roots", .array (g.roots.map fun n => .string n.id))])
  | .error err => refuse err

/-- Tries a flow out on a payload. -/
def answerTryOut (e : Engine) (f : Flow) (p : Payload) : ServiceReply :=
  match f.run e .test none p .initial with
  | .error err => refuse err
  | .ok o =>
    match o.result with
    | .ok result => .ok result.toJson
    | .error message => .failure 500 message

/-- Seals a secret under a nonce. -/
def answerSeal (e : Engine) (nonce : List UInt8) (plain : String) : ServiceReply :=
  match e.vault with
  | some v => .ok (.object [("ciphertext", .string (v.encrypt nonce plain))])
  | none => .failure 503 "vault key is not configured"

/-- Answers a request; the nonce has to be fresh. The events of runs are told as a stream, which a
plain request cannot take. -/
def answer (e : Engine) (nonce : List UInt8) (r : ServiceRequest) : ServiceReply :=
  let reply : Except ServiceReply ServiceReply :=
    match Route.of? r with
    | none => .ok .notFound
    | some .health =>
      .ok <| .ok <| .object
        [("status", .string "healthy"), ("version", .string serviceVersion),
          ("service", .string serviceName)]
    | some .palette => .ok (.ok e.registry.palette)
    | some .validate => (r.read Flow.decoder).map e.answerValidate
    | some .tryOut =>
      (r.read (tryOutRecord.decode "TestRunRequest")).map fun (f, p) => e.answerTryOut f p
    | some .seal => (r.read (sealRecord.decode "EncryptRequest")).map (e.answerSeal nonce)
    | some .events => .ok ⟨400, .text ""⟩
  match reply with
  | .ok a => a
  | .error a => a

end Engine
end KitchenFlow
