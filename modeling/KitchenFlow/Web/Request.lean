import KitchenFlow.Json.Printer
import KitchenFlow.Text.Case
import KitchenFlow.Text.Token
import KitchenFlow.Url.Parser

/-!
# Web requests

What is sent to a server and what comes back. A request is built first, which fails for an address
that is none of the web or for a header that cannot be written; then it is sent over a network,
which may not get it through.
-/

namespace KitchenFlow

/-- A request to a server. -/
structure WebRequest where
  method : String
  url : Url
  authorization : Option String
  contentType : Option String
  userAgent : Option String
  body : Option String
deriving Repr

/-- What a server answers. -/
structure WebResponse where
  status : Nat
  body : String
deriving DecidableEq, Repr

/-- What can go wrong with a request. -/
inductive WebFault where
  | unbuildable
  | unsent
  | unreadable
deriving DecidableEq, Repr

/-- The wording of a fault. -/
def WebFault.message : WebFault → String
  | .unbuildable => "builder error"
  | .unsent => "error sending request"
  | .unreadable => "error decoding response body"

/-- Whether a status means success. -/
def WebResponse.isSuccess (r : WebResponse) : Bool := 200 ≤ r.status && r.status < 300

namespace Url

/-- What a server is asked for. -/
def target (u : Url) : String :=
  u.path ++
    match u.query with
    | some q => "?" ++ q
    | none => ""

/-- The characters that a host may hold by the rules of addresses, but not by those of requests. -/
def unsendable : List Char := ['"', '\x60', '\x7b', '\x7d']

/-- Whether a request can be sent to an address. -/
def isSendable (u : Url) : Bool :=
  (u.scheme == "http" || u.scheme == "https") &&
    match u.host with
    | none => false
    | some (.name s) => s.toList.all fun c => !unsendable.contains c
    | some _ => true

end Url

namespace WebRequest

/-- The method with a name, which may be given in small letters. -/
def method? (name : String) : Option String :=
  let m := Text.capitals name
  if Text.isToken m then some m else none

/-- A request without headers and body. -/
def plain (method address : String) : Except WebFault WebRequest :=
  match Url.parse address with
  | .ok url =>
    if url.isSendable then .ok ⟨method, url, none, none, none, none⟩ else .error .unbuildable
  | .error _ => .error .unbuildable

/-- The request with a JSON body. -/
def withJson (r : WebRequest) (body : Json) : WebRequest :=
  { r with contentType := some "application/json", body := some body.compact }

/-- The request with a key that shows who sends it. -/
def withKey (r : WebRequest) (key : String) : Except WebFault WebRequest :=
  let value := "Bearer " ++ key
  if Text.isHeaderText value then .ok { r with authorization := some value }
  else .error .unbuildable

end WebRequest

/-! ### Networks -/

/-- A network: what comes back for a request, if it gets through. -/
abbrev Network := WebRequest → Option WebResponse

namespace Network

/-- The network that nothing gets through. -/
def unreachable : Network := fun _ => none

/-- Sends a request. -/
def send (net : Network) (r : WebRequest) : Except WebFault WebResponse :=
  match net r with
  | some answer => .ok answer
  | none => .error .unsent

end Network
end KitchenFlow
