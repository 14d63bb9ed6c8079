import KitchenFlow.Json.Printer
import KitchenFlow.Json.Reader
import KitchenFlow.Text.Quoted
import KitchenFlow.Time.Timestamp

/-!
# Decoding documents

A decoder reads a value of some type from a document, or says what is wrong and where. The same
decoder serves values in memory and texts; only the latter have places to report.

Records are described field by field (`Record`): a description lists the fields with a check for
each, and says how the record is built once its fields are found. A record may be written as an
object or as a list of its fields in order. Going over an object, the entries are checked in their
order, keys that are no field are passed over, and a repeated field is an error; absent fields are
noticed at the end, in the order of the description.
-/

namespace KitchenFlow

/-- What was found where something else was wanted. -/
inductive Found where
  | null
  | bool (b : Bool)
  | number (n : JsonNumber)
  | string (s : String)
  | list
  | object
deriving Repr

/-- The wording of what was found. -/
def Found.message : Found → String
  | .null => "null"
  | .bool b => "boolean `" ++ (if b then "true" else "false") ++ "`"
  | .number (.int n) => "integer `" ++ toString n ++ "`"
  | .number n => "floating point `" ++ n.render ++ "`"
  | .string s => "string " ++ Text.quoted s
  | .list => "sequence"
  | .object => "map"

/-- Why a document is not a value of the type wanted. -/
inductive DecodeCause where
  | malformed (cause : SyntaxCause)
  | wrongType (found : Found) (expected : String)
  | wrongValue (found : Found) (expected : String)
  | wrongLength (length : Nat) (expected : String)
  | missingField (name : String)
  | repeatedField (name : String)
  | unknownVariant (name : String) (variants : List String)
  | badTimestamp (e : TimestampError)
  | other (message : String)
deriving Repr

/-- A list of alternatives in words. -/
def alternatives : List String → String
  | [] => "there are no variants"
  | [a] => "expected `" ++ a ++ "`"
  | [a, b] => "expected `" ++ a ++ "` or `" ++ b ++ "`"
  | names => "expected one of " ++ Text.join ", " (names.map fun n => "`" ++ n ++ "`")

/-- The wording of a cause. -/
def DecodeCause.message : DecodeCause → String
  | .malformed c => c.message
  | .wrongType found expected => "invalid type: " ++ found.message ++ ", expected " ++ expected
  | .wrongValue found expected => "invalid value: " ++ found.message ++ ", expected " ++ expected
  | .wrongLength n expected => "invalid length " ++ toString n ++ ", expected " ++ expected
  | .missingField name => "missing field `" ++ name ++ "`"
  | .repeatedField name => "duplicate field `" ++ name ++ "`"
  | .unknownVariant name variants =>
    "unknown variant `" ++ name ++ "`, " ++ alternatives variants
  | .badTimestamp e => e.message
  | .other message => message

/-- A decoding error and its place. -/
structure DecodeError where
  cause : DecodeCause
  place : Place
deriving Repr

/-- The wording of an error: what is wrong, and for a text where. -/
def DecodeError.message (e : DecodeError) : String :=
  match e.place with
  | none => e.cause.message
  | some p =>
    e.cause.message ++ " at line " ++ toString p.line ++ " column " ++ toString p.column

/-- A syntax fault as a decoding error. -/
def DecodeError.ofFault (f : Fault) : DecodeError := ⟨.malformed f.cause, some f.position⟩

/-- Reads a value of a type from a document. -/
abbrev Decoder (α : Type) := Document → Except DecodeError α

namespace Decoder

/-- Takes the value of a scalar. -/
def scalar (s : Scalar α) : Except DecodeError α := s.value.mapError .ofFault

/-- Fails if a list or an object is nested too deep. -/
def notDeep : Option Fault → Except DecodeError Unit
  | none => .ok ()
  | some f => .error (.ofFault f)

/-- The error for a document of the wrong type: what stands there, unless its own syntax is
wrong. -/
def wrongType (expected : String) : Document → DecodeError
  | .null extent => ⟨.wrongType .null expected, extent.stop⟩
  | .bool b extent => ⟨.wrongType (.bool b) expected, extent.stop⟩
  | .number n extent =>
    match n.value with
    | .ok n => ⟨.wrongType (.number n) expected, extent.stop⟩
    | .error f => .ofFault f
  | .string s extent =>
    match s.value with
    | .ok s => ⟨.wrongType (.string s) expected, extent.stop⟩
    | .error f => .ofFault f
  | .array start .. => ⟨.wrongType .list expected, start⟩
  | .object start .. => ⟨.wrongType .object expected, start⟩
  | .broken f => .ofFault f

/-- A string. -/
def string : Decoder String
  | .string s _ => scalar s
  | d => .error (wrongType "a string" d)

/-- A truth value. -/
def bool : Decoder Bool
  | .bool b _ => .ok b
  | d => .error (wrongType "a boolean" d)

/-- An integer within bounds; `name` is what the bounds are called. -/
def integer (low high : Int) (name : String) : Decoder Int
  | .number n extent => do
    match ← scalar n with
    | .int n =>
      if low ≤ n ∧ n ≤ high then .ok n
      else .error ⟨.wrongValue (.number (.int n)) name, extent.stop⟩
    | x => .error ⟨.wrongType (.number x) name, extent.stop⟩
  | d => .error (wrongType name d)

/-- An integer of 64 bits with a sign. -/
def int64 : Decoder Int := integer (-Int.pow 2 63) (Int.pow 2 63 - 1) "i64"

/-- A number, taken as binary64. -/
def binary64 : Decoder Binary64
  | .number n _ => (scalar n).map JsonNumber.toBinary64
  | d => .error (wrongType "f64" d)

/-- A number, taken in single precision. -/
def single : Decoder Binary64
  | .number n _ => (scalar n).map JsonNumber.toSingle
  | d => .error (wrongType "f32" d)

/-- A value or `null`. -/
def optional (d : Decoder α) : Decoder (Option α)
  | .null _ => .ok none
  | doc => (d doc).map some

/-- Reads each of several elements. -/
def each (d : Decoder α) : List (Place × Document) → Except DecodeError (List α)
  | [] => .ok []
  | (_, doc) :: rest => do
    let a ← d doc
    let as ← each d rest
    .ok (a :: as)

/-- A list. -/
def list (d : Decoder α) : Decoder (List α)
  | .array _ deep items close => do
    notDeep deep
    let as ← each d items
    match close with
    | .closed _ => .ok as
    | .faulty more _ _ => .error (.ofFault more)
  | doc => .error (wrongType "a sequence" doc)

mutual

/-- Any JSON value. -/
def json : Document → Except DecodeError Json
  | .null _ => .ok .null
  | .bool b _ => .ok (.bool b)
  | .number n _ => (scalar n).map .number
  | .string s _ => (scalar s).map .string
  | .array _ deep items close => do
    notDeep deep
    let items ← jsonItems items
    match close with
    | .closed _ => .ok (.array items)
    | .faulty more _ _ => .error (.ofFault more)
  | .object _ deep entries close => do
    notDeep deep
    let entries ← jsonEntries entries
    match close with
    | .closed _ => .ok (.object (Fields.ofEntries entries))
    | .faulty more _ _ => .error (.ofFault more)
  | .broken f => .error (.ofFault f)

/-- The elements of a list of any JSON values. -/
def jsonItems : List (Place × Document) → Except DecodeError (List Json)
  | [] => .ok []
  | (_, d) :: rest => do
    let v ← json d
    let vs ← jsonItems rest
    .ok (v :: vs)

/-- The entries of an object of any JSON values. -/
def jsonEntries : List (Entry Document) → Except DecodeError (List (String × Json))
  | [] => .ok []
  | ⟨k, _, d⟩ :: rest => do
    let k ← scalar k
    let v ← json d
    let vs ← jsonEntries rest
    .ok ((k, v) :: vs)

end

/-- An object with any keys. -/
def fields : Decoder Fields
  | .object start deep entries close => do
    match ← json (.object start deep entries close) with
    | .object fields => .ok fields
    | _ => .ok []
  | d => .error (wrongType "a map" d)

/-- The word for a timestamp in errors. -/
def timestampName : String := "an RFC 3339 formatted date and time string"

/-- A timestamp. -/
def timestamp : Decoder Instant
  | .string s extent => do
    match Timestamp.parse (← scalar s) with
    | .ok t => .ok t
    | .error e => .error ⟨.badTimestamp e, extent.stop⟩
  | d => .error (wrongType timestampName d)

/-- The error for a scalar where a name was wanted. In a text, this is noticed at its first byte. -/
def noName (d : Document) (extent : Extent) : DecodeError :=
  match extent.first with
  | some p => ⟨.malformed .expectedValue, some p⟩
  | none => wrongType "string or map" d

/-- Whether a document is `null`. -/
def isNull : Document → Bool
  | .null _ => true
  | _ => false

/-- Whether a document is `null` or an object without entries. -/
def isVoid : Document → Bool
  | .null _ => true
  | .object _ none [] (.closed _) => true
  | _ => false

/-- One of several names. A name may also be written as an object whose only key it is, with a
value in which there is nothing. -/
def variantOf (nothing : Document → Bool) (names : List String) (ofName : String → Option α) :
    Decoder α
  | .string s extent => do
    pick (← scalar s) extent.stop
  | .object start deep entries close => do
    notDeep deep
    match entries, close with
    | [⟨k, after, v⟩], .closed _ => do
      let a ← pick (← scalar k) after
      if nothing v then .ok a else .error (wrongType "unit" v)
    | _, _ => .error ⟨.wrongValue .object "map with a single key", start⟩
  | .null extent => .error (noName (.null extent) extent)
  | .bool b extent => .error (noName (.bool b extent) extent)
  | .number n extent => .error (noName (.number n extent) extent)
  | .array start deep items close =>
    match start with
    | some p => .error ⟨.malformed .expectedValue, some ⟨p.line, p.column + 1⟩⟩
    | none => .error (wrongType "string or map" (.array start deep items close))
  | .broken f => .error (.ofFault f)
where
  /-- Finds the value that a name stands for. -/
  pick (name : String) (place : Place) : Except DecodeError α :=
    match ofName name with
    | some a => .ok a
    | none => .error ⟨.unknownVariant name names, place⟩

/-- One of several names, or an object with this only key and the value `null`. -/
def variant (names : List String) (ofName : String → Option α) : Decoder α :=
  variantOf isNull names ofName

/-- Reads a document behind which nothing may stand. -/
def whole (d : Decoder α) : Document × Option Fault → Except DecodeError α
  | (doc, rest) =>
    match d doc with
    | .error e => .error e
    | .ok a =>
      match rest with
      | none => .ok a
      | some f => .error (.ofFault f)

/-- Reads a whole text. -/
def ofText (d : Decoder α) (text : String) : Except DecodeError α := d.whole (Document.ofText text)

/-- Reads all of some bytes. -/
def ofBytes (d : Decoder α) (bytes : List UInt8) : Except DecodeError α :=
  d.whole (Document.ofBytes bytes)

/-- Reads a value in memory. -/
def ofJson (d : Decoder α) (v : Json) : Except DecodeError α := d (.ofJson v)

end Decoder

/-! ### Records -/

/-- How a record is found in a document: its fields with a check of each, and how it is built from
what the fields hold and from the error for an absent field. -/
structure Record (α : Type) where
  fields : List (String × Decoder Unit)
  build : (String → Option Document) → (String → DecodeError) → Except DecodeError α

namespace Record

/-- The record without fields. -/
protected def pure (a : α) : Record α := ⟨[], fun _ _ => .ok a⟩

/-- The fields of two records together, those of the first before those of the second. -/
protected def seq (f : Record (α → β)) (x : Record α) : Record β :=
  ⟨f.fields ++ x.fields, fun slot absent => do
    let g ← f.build slot absent
    let a ← x.build slot absent
    .ok (g a)⟩

instance : Pure Record := ⟨Record.pure⟩
instance : Functor Record where
  map f x := ⟨x.fields, fun slot absent => (x.build slot absent).map f⟩
instance : Seq Record := ⟨fun f x => Record.seq f (x ())⟩

/-- A field that has to be present. -/
def required (name : String) (d : Decoder α) : Record α :=
  ⟨[(name, fun doc => (d doc).map fun _ => ())], fun slot absent =>
    match slot name with
    | some doc => d doc
    | none => .error (absent name)⟩

/-- A field with a default. -/
def withDefault (name : String) (default : α) (d : Decoder α) : Record α :=
  ⟨[(name, fun doc => (d doc).map fun _ => ())], fun slot _ =>
    match slot name with
    | some doc => d doc
    | none => .ok default⟩

/-- A field that may be absent or `null`. -/
def optional (name : String) (d : Decoder α) : Record (Option α) :=
  withDefault name none (Decoder.optional d)

/-- The names of the fields. -/
def names (r : Record α) : List String := r.fields.map (·.1)

/-- Checks the entries of an object in order. `seen` lists the fields met before. -/
def checkEntries (r : Record α) :
    List String → List (Entry Document) → Except DecodeError (List (String × Document))
  | _, [] => .ok []
  | seen, e :: rest => do
    let key ← Decoder.scalar e.key
    match r.fields.lookup key with
    | none =>
      e.value.skip.mapError .ofFault
      checkEntries r seen rest
    | some check =>
      if seen.contains key then .error ⟨.repeatedField key, e.afterKey⟩
      else
        check e.value
        let found ← checkEntries r (key :: seen) rest
        .ok ((key, e.value) :: found)

/-- Checks the elements of a list, each as the field of its position. -/
def checkItems : List (String × Decoder Unit) → List (Place × Document) →
    Except DecodeError (List (String × Document))
  | [], _ => .ok []
  | _, [] => .ok []
  | (name, check) :: fields, (_, doc) :: rest => do
    check doc
    let found ← checkItems fields rest
    .ok ((name, doc) :: found)

/-- A number of elements in words. -/
def elements (n : Nat) : String :=
  toString n ++ (if n = 1 then " element" else " elements")

/-- The position of a field in the description. -/
def position (r : Record α) (name : String) : Nat := r.names.idxOf name

/-- Makes sure that a list holds nothing behind the fields of a record. -/
def checkRest (surplus : String) (count : Nat) (items : List (Place × Document)) (close : Close) :
    Except DecodeError Unit :=
  match items.drop count, close with
  | (some p, _) :: _, _ => .error ⟨.malformed .trailingCharacters, some p⟩
  | (none, _) :: _, _ => .error ⟨.wrongLength items.length surplus, none⟩
  | [], .closed _ => .ok ()
  | [], .faulty _ finish _ => .error (.ofFault finish)

/-- Reads a record. `what` is what it is called, `surplus` what was expected of a list that is too
long. -/
def decodeAs (what surplus : String) (r : Record α) : Decoder α
  | .object _ deep entries close => do
    Decoder.notDeep deep
    let found ← r.checkEntries [] entries
    match close with
    | .faulty more _ _ => .error (.ofFault more)
    | .closed stop =>
      r.build (fun name => found.lookup name) fun name => ⟨.missingField name, stop⟩
  | .array _ deep items close => do
    Decoder.notDeep deep
    let found ← checkItems r.fields items
    let short : String → DecodeError := fun field =>
      match close with
      | .faulty more _ _ => .ofFault more
      | .closed stop =>
        ⟨.wrongLength (r.position field) (what ++ " with " ++ elements r.fields.length), stop⟩
    let a ← match close with
      | .faulty more _ _ =>
        if items.length < r.fields.length then .error (.ofFault more)
        else r.build (fun name => found.lookup name) short
      | .closed _ => r.build (fun name => found.lookup name) short
    checkRest surplus r.fields.length items close
    .ok a
  | d => .error (Decoder.wrongType what d)

/-- Reads a record of a given name. -/
def decode (name : String) (r : Record α) : Decoder α :=
  r.decodeAs ("struct " ++ name) "fewer elements in array"

end Record
end KitchenFlow
