import KitchenFlow.Url.Address
import KitchenFlow.Url.Domain

/-!
# Reading URLs

A URL is read from left to right: scheme, user, host, port, path and query. Control characters and
blanks around it are dropped, and tabs and line breaks anywhere in it. The schemes of the web need
a host, and for them a backslash is as good as a slash; in a `file` URL the host may be empty; for
all other schemes host and path are taken nearly as they are.
-/

namespace KitchenFlow.Url

/-- How a scheme treats the rest of a URL. -/
inductive SchemeClass where
  | web (port : Nat)
  | file
  | other
deriving DecidableEq, Repr

def SchemeClass.of (scheme : String) : SchemeClass :=
  match webSchemes.lookup scheme with
  | some port => .web port
  | none => if scheme = "file" then .file else .other

/-- Whether a scheme is one of the web or `file`. -/
def SchemeClass.isSpecial : SchemeClass → Bool
  | .other => false
  | _ => true

/-- The characters of a text that count. -/
def significant (s : String) : List Char :=
  let outer := fun c : Char => decide (c.toNat ≤ 0x20)
  let cs := ((s.toList.dropWhile outer).reverse.dropWhile outer).reverse
  cs.filter fun c => c != '\t' && c != '\n' && c != '\r'

/-- Whether a character may stand in a scheme. -/
def isSchemeChar (c : Char) : Bool :=
  c.isAlpha || Numeral.isDigit c || c == '+' || c == '-' || c == '.'

/-- Splits a scheme off. -/
def scheme? (cs : List Char) : Option (String × List Char) :=
  if cs.head?.any Char.isAlpha then
    match cs.dropWhile isSchemeChar with
    | ':' :: rest => some (String.ofList ((cs.takeWhile isSchemeChar).map Char.toLower), rest)
    | _ => none
  else none

/-- Whether a character ends the authority of a URL. -/
def endsAuthority (kind : SchemeClass) (c : Char) : Bool :=
  c == '/' || c == '?' || c == '#' || (kind.isSpecial && c == '\\')

/-- Reads a host that is not in brackets and not opaque. -/
def domainHost (cs : List Char) : Except UrlError Host := do
  let bytes := unescape (cs.flatMap utf8)
  match String.fromUTF8? ⟨bytes.toArray⟩ with
  | none => .error .badDomain
  | some s =>
    let name ← Domain.normalise s.toList
    if name.isEmpty then .error .emptyHost
    else if endsInNumber name then .ok (.ipv4 (← ipv4 name))
    else .ok (.name (String.ofList name))

/-- Reads an address in brackets, if the text begins with one. -/
def bracketed? (cs : List Char) : Option (Except UrlError Host) :=
  match cs with
  | '[' :: rest =>
    if rest.getLast? = some ']' then some ((ipv6 rest.dropLast).map .ipv6)
    else some (.error .badIpv6)
  | _ => none

/-- Reads the host of a scheme of the web. -/
def webHost (cs : List Char) : Except UrlError Host :=
  match bracketed? cs with
  | some host => host
  | none => domainHost cs

/-- The characters that an opaque host may not hold. -/
def isOpaqueDenied (c : Char) : Bool := c.toNat = 0 || "\t\n\r #/:<>?@[\\]^|".toList.contains c

/-- Reads the host of a scheme that is neither of the web nor `file`. -/
def opaqueHost (cs : List Char) : Except UrlError Host :=
  match bracketed? cs with
  | some host => host
  | none =>
    if cs.any isOpaqueDenied then .error .badHostCharacter
    else .ok (.name (escape controlSet cs))

/-- What stands before the port, path, query or fragment; colons in brackets do not count. -/
def splitHost (kind : SchemeClass) : Bool → List Char → List Char × List Char
  | _, [] => ([], [])
  | inside, c :: rest =>
    if (c = ':' ∧ inside = false) ∨ endsAuthority kind c then ([], c :: rest)
    else
      let inside := if c = '[' then true else if c = ']' then false else inside
      let (host, rest) := splitHost kind inside rest
      (c :: host, rest)

/-- Reads the digits of a port. -/
def portDigits (n : Option Nat) : List Char → Except UrlError (Option Nat × List Char)
  | [] => .ok (n, [])
  | c :: rest =>
    if Numeral.isDigit c then
      let m := 10 * n.getD 0 + Numeral.digitValue c
      if 65535 < m then .error .badPort else portDigits (some m) rest
    else if c = '/' ∨ c = '\\' ∨ c = '?' ∨ c = '#' then .ok (n, c :: rest)
    else .error .badPort

/-- User name and password, as far as a URL shows them. -/
structure UserInfo where
  username : String
  password : String

/-- Splits user name and password off: all before the last `@` of the authority. -/
def userInfo (kind : SchemeClass) (cs : List Char) :
    Except UrlError (UserInfo × Bool × List Char) :=
  let authority := cs.takeWhile fun c => !endsAuthority kind c
  match authority.reverse.dropWhile (· ≠ '@') with
  | [] => .ok (⟨"", ""⟩, false, cs)
  | _ :: before =>
    let user := before.reverse
    let rest := cs.drop (user.length + 1)
    if user.isEmpty ∧ rest.head?.any (endsAuthority kind) then .error .emptyHost
    else
      let name := user.takeWhile (· ≠ ':')
      let password := user.drop (name.length + 1)
      let info := ⟨escape userSet name, escape userSet password⟩
      .ok (info, !name.isEmpty || !password.isEmpty, rest)

/-! ### Paths -/

/-- Whether a segment stands for the directory it is in. -/
def isSingleDot (s : String) : Bool := s == "." || s.map Char.toLower == "%2e"

/-- Whether a segment stands for the directory above. -/
def isDoubleDot (s : String) : Bool :=
  s == ".." || [".%2e", "%2e.", "%2e%2e"].contains (s.map Char.toLower)

/-- Cuts a path into segments, at backslashes too for the special schemes. -/
def segments (kind : SchemeClass) (cs : List Char) : List (List Char) :=
  Text.splitChars '/' (if kind.isSpecial then cs.map fun c => if c = '\\' then '/' else c else cs)

/-- Resolves the dots of a path, whose segments are given from the first on; `done` holds those
before, last one first. -/
def resolveDots : List String → List String → List String
  | done, [] => done.reverse
  | done, [s] =>
    if isDoubleDot s then ("" :: done.drop 1).reverse
    else if isSingleDot s then ("" :: done).reverse
    else (s :: done).reverse
  | done, s :: rest =>
    if isDoubleDot s then resolveDots (done.drop 1) rest
    else if isSingleDot s then resolveDots done rest
    else resolveDots (s :: done) rest

/-- The path that begins with a slash. -/
def rootedPath (kind : SchemeClass) (cs : List Char) : String :=
  "/" ++ Text.join "/" (resolveDots [] ((segments kind cs).map (escape pathSet)))

/-- Splits a path from what follows it. -/
def splitPath (cs : List Char) : List Char × List Char :=
  (cs.takeWhile fun c => c != '?' && c != '#', cs.dropWhile fun c => c != '?' && c != '#')

/-- The query that comes next, if one does. -/
def queryOf (kind : SchemeClass) (cs : List Char) : Option String :=
  match cs with
  | '?' :: rest =>
    let set := match kind with
      | .other => querySet
      | _ => webQuerySet
    some (escape set (rest.takeWhile (· ≠ '#')))
  | _ => none

/-- Whether a path segment is a drive letter. -/
def isDriveLetter (cs : List Char) : Bool :=
  match cs with
  | [a, c] => a.isAlpha && (c == ':' || c == '|')
  | _ => false

/-! ### Whole URLs -/

/-- Reads what follows the two slashes before an authority. -/
def afterSlashes (scheme : String) (kind : SchemeClass) (cs : List Char) :
    Except UrlError Url := do
  let (user, hasUser, rest) ← userInfo kind cs
  let (hostText, rest) := splitHost kind false rest
  let host ← match kind with
    | .web _ => if hostText.isEmpty then .error .emptyHost else webHost hostText
    | _ => opaqueHost hostText
  let isEmpty := host == .name ""
  if isEmpty ∧ rest.head? = some ':' then .error .emptyHost
  let (port, rest) ← match rest with
    | ':' :: digits => portDigits none digits
    | _ => .ok (none, rest)
  if isEmpty ∧ hasUser then .error .emptyHost
  let port := match kind, port with
    | .web usual, some p => if p = usual then none else some p
    | _, p => p
  let (path, rest) := splitPath rest
  let path := match kind, path with
    | .other, [] => ""
    | _, '/' :: cs => rootedPath kind cs
    | .web _, '\\' :: cs => rootedPath kind cs
    | _, cs => rootedPath kind cs
  .ok ⟨scheme, user.username, user.password, some host, port, path, queryOf kind rest⟩

/-- Reads the host of a `file` URL; `localhost` is the same as none. -/
def fileHost (cs : List Char) : Except UrlError (Option Host) :=
  if cs.isEmpty then .ok none
  else do
    match ← webHost cs with
    | .name "localhost" => .ok none
    | host => .ok (some host)

/-- Reads what follows `file:`. -/
def afterFile (cs : List Char) : Except UrlError Url := do
  let isSlash := fun c : Char => c == '/' || c == '\\'
  let finish (host : Option Host) (cs : List Char) : Url :=
    let (path, rest) := splitPath cs
    let path := match path with
      | c :: more => if isSlash c then more else path
      | [] => []
    ⟨"file", "", "", host, none, rootedPath .file path, queryOf .file rest⟩
  match cs with
  | a :: b :: rest =>
    if isSlash a && isSlash b then
      let hostText := rest.takeWhile fun c => !endsAuthority .file c
      if isDriveLetter hostText then .ok (finish none rest)
      else .ok (finish (← fileHost hostText) (rest.drop hostText.length))
    else .ok (finish none cs)
  | _ => .ok (finish none cs)

/-- Reads an absolute URL. -/
def parse (s : String) : Except UrlError Url :=
  match scheme? (significant s) with
  | none => .error .relative
  | some (scheme, rest) =>
    match SchemeClass.of scheme with
    | .file => afterFile rest
    | .web port =>
      afterSlashes scheme (.web port) (rest.dropWhile fun c => c == '/' || c == '\\')
    | .other =>
      match rest with
      | '/' :: '/' :: rest => afterSlashes scheme .other rest
      | '/' :: rest =>
        let (path, rest) := splitPath rest
        .ok ⟨scheme, "", "", none, none, rootedPath .other path, queryOf .other rest⟩
      | _ =>
        let (path, rest) := splitPath rest
        .ok ⟨scheme, "", "", none, none, escape controlSet path, queryOf .other rest⟩

end KitchenFlow.Url

namespace KitchenFlow

/-- A way to read texts as URLs. What is said of configurations and flows takes it as given. -/
class UrlReader where
  parse : String → Except UrlError Url

/-- URLs are read by the parser above. -/
instance : UrlReader := ⟨Url.parse⟩

end KitchenFlow
