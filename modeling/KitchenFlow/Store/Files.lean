import KitchenFlow.Flow.Wire
import KitchenFlow.Payload.Wire
import KitchenFlow.Store.FileTree
import KitchenFlow.Store.Memory

/-!
# The store in files

A store below a folder of a file tree keeps every flow in a file of its own, in the folder of its
organization, the inventory of an organization in one file, and all credentials in one file:

    flows/ORGANIZATION/FLOW.json
    inventory/ORGANIZATION.json
    credentials.json

A file is replaced by writing the new text to a temporary file beside it and moving that over it. A
put that fails, be it that the device fails, may leave folders and a temporary file behind, and half
a temporary file too, but never half a file.
-/

namespace KitchenFlow

/-- What a put comes to: whether it succeeded, and the tree after it. -/
structure Put where
  result : Except StoreError Unit
  tree : FileTree

/-- The store error for a failure while doing something. -/
def StoreError.during (what cause : String) : StoreError := ⟨what ++ ": " ++ cause⟩

/-- Goes on with the tree after a put, unless the put failed. -/
def Put.andThen (p : Put) (next : FileTree → Put) : Put :=
  match p.result with
  | .ok () => next p.tree
  | .error e => ⟨.error e, p.tree⟩

/-- Makes sure that there is a folder; `what` says for what. -/
def Put.folder (what path : String) (t : FileTree) : Put :=
  let (r, t) := t.makeFolders path
  ⟨r.mapError fun e => .during ("failed to create " ++ what ++ " directory") e.message, t⟩

/-- Replaces the file at a path by way of a temporary file. -/
def Put.file (path text : String) (t : FileTree) (device : Device := .sound) : Put :=
  let temporary := FilePath.withExtension path "json.tmp"
  match t.save temporary text.toUTF8.toList device.writing with
  | (.error e, t) => ⟨.error (.during "failed to write temp file" e.message), t⟩
  | (.ok (), t) =>
    match Device.attempt device.moving (t.move temporary path) with
    | .error e => ⟨.error (.during "failed to rename temp file" e.message), t⟩
    | .ok moved => ⟨.ok (), moved⟩

/-- A store in files. -/
structure FileStore where
  /-- The path of its folder. -/
  base : String
  /-- The days before expiry from which an item is reported. -/
  horizon : Int := defaultHorizon
deriving Repr

namespace FileStore

/-! ### The layout -/

/-- The folder of the flows of an organization. -/
def flowFolder (s : FileStore) (org : String) : String :=
  FilePath.join (FilePath.join s.base "flows") org

/-- The file of a flow. -/
def flowPath (s : FileStore) (org id : String) : String :=
  FilePath.join (s.flowFolder org) (id ++ ".json")

/-- The file of the inventory of an organization. -/
def inventoryPath (s : FileStore) (org : String) : String :=
  FilePath.join (FilePath.join s.base "inventory") (org ++ ".json")

/-- The file of the credentials. -/
def credentialsPath (s : FileStore) : String := FilePath.join s.base "credentials.json"

/-! ### Reading -/

/-- The bytes of a file that may be absent. -/
def readOptional (path : String) (r : Except FileError (List UInt8)) :
    Except StoreError (Option (List UInt8)) :=
  match r with
  | .ok bytes => .ok (some bytes)
  | .error .absent => .ok none
  | .error e => .error (.during ("failed to read " ++ path) e.message)

/-- All credentials, if the device does not fail. -/
def credentials (s : FileStore) (t : FileTree) (failure : Option String := none) :
    Except StoreError (List Credential) := do
  let contents := Device.attempt failure (t.contents s.credentialsPath)
  match ← readOptional s.credentialsPath contents with
  | none => .ok []
  | some bytes =>
    (Decoder.ofBytes (.list Credential.decoder) bytes).mapError fun e =>
      .during "failed to parse credentials.json" e.message

/-- The first credential with an id. -/
def credential? (s : FileStore) (t : FileTree) (id : String) :
    Except StoreError (Option Credential) :=
  (s.credentials t).map fun all => all.find? (·.id == id)

/-- Whether a file in the folder of an organization holds a flow, going by its name. -/
def isFlowName (name : String) : Bool := (FilePath.cutExtension name).2 == some "json"

/-- The flows that can be read from the files of a folder; a file that is no flow is passed over. -/
def readFlows (t : FileTree) (folder : String) : List String → Except StoreError (List Flow)
  | [] => .ok []
  | name :: rest => do
    let bytes ← (t.contents (FilePath.join folder name)).mapError fun e =>
      .during "failed to read flow file" e.message
    let flows ← readFlows t folder rest
    match Decoder.ofBytes Flow.decoder bytes with
    | .ok f => .ok (f :: flows)
    | .error _ => .ok flows

/-- The active flows of an organization, in the order of their ids. -/
def activeFlows (s : FileStore) (t : FileTree) (org : String) : Except StoreError (List Flow) :=
  let folder := s.flowFolder org
  match t.names folder with
  | .error .absent => .ok []
  | .error e => .error (.during "failed to read flows directory" e.message)
  | .ok names => do
    let flows ← readFlows t folder (names.filter isFlowName)
    .ok ((flows.filter (·.isActive)).mergeSort fun f g => f.id ≤ g.id)

/-- The items of an organization that are near their expiry. -/
def itemsNearExpiry (s : FileStore) (t : FileTree) (org : String) :
    Except StoreError (List InventoryItem) := do
  let path := s.inventoryPath org
  match ← readOptional path (t.contents path) with
  | none => .ok []
  | some bytes =>
    let items ← (Decoder.ofBytes (.list InventoryItem.decoder) bytes).mapError fun e =>
      .during "failed to parse inventory" e.message
    .ok (items.filter (·.isNearExpiry s.horizon))

/-- The store as a source of flows, the tree being as it is. -/
def source (s : FileStore) (t : FileTree) : FlowSource := ⟨s.activeFlows t, s.itemsNearExpiry t⟩

/-! ### Writing -/

/-- Makes the folders of a store. -/
def create (s : FileStore) (t : FileTree) : Put :=
  (Put.folder "flows" (FilePath.join s.base "flows") t).andThen
    (Put.folder "inventory" (FilePath.join s.base "inventory"))

/-- Puts a flow of an organization. -/
def putFlow (s : FileStore) (t : FileTree) (org : String) (f : Flow) (device : Device := .sound) :
    Put :=
  (Put.folder "org" (s.flowFolder org) t).andThen fun t =>
    Put.file (s.flowPath org f.id) f.written.pretty t device

/-- Puts the inventory of an organization. -/
def putInventory (s : FileStore) (t : FileTree) (org : String) (items : List InventoryItem)
    (device : Device := .sound) : Put :=
  Put.file (s.inventoryPath org) (Json.array (items.map (·.toJson))).pretty t device

/-- Puts a credential, behind the others. -/
def putCredential (s : FileStore) (t : FileTree) (c : Credential) (device : Device := .sound) :
    Put :=
  match s.credentials t device.reading with
  | .error e => ⟨.error e, t⟩
  | .ok all =>
    let all := (all.filter fun d => d.id ≠ c.id) ++ [c]
    Put.file s.credentialsPath (Json.array (all.map (·.toJson))).pretty t device

end FileStore
end KitchenFlow
