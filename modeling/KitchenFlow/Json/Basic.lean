import KitchenFlow.Number.Binary64

/-!
# JSON values

A value is one of the six JSON kinds. Numbers come in sorts that are never confused: integers that
fit 64 bits, with or without a sign, and binary64 numbers. A value that is only made to be written
as text may also hold numbers in single precision, which are written with fewer digits. The fields
of an object read from text are in ascending order of their keys, and a repeated key has kept its
last value; `insert` maintains this. An object made from a record lists its fields in the order of
the record.
-/

namespace KitchenFlow

/-- A JSON number. -/
inductive JsonNumber where
  | int (n : Int)
  | float (x : Binary64)
  /-- A single-precision number, as the binary64 number of the same value. -/
  | single (x : Binary64)
deriving DecidableEq, Repr, Inhabited

/-- A JSON value. -/
inductive Json where
  | null
  | bool (b : Bool)
  | number (n : JsonNumber)
  | string (s : String)
  | array (items : List Json)
  | object (fields : List (String × Json))
deriving Repr, Inhabited

/-- The fields of an object. -/
abbrev Fields := List (String × Json)

namespace JsonNumber

/-- The binary64 number nearest to a JSON number. -/
def toBinary64 : JsonNumber → Binary64
  | .int n => Binary64.ofInt n
  | .float x | .single x => x

/-- The single-precision number nearest to a JSON number. -/
def toSingle : JsonNumber → Binary64
  | .int n => Binary64.singleOfInt n
  | .float x | .single x => x.toSingle

end JsonNumber

namespace Fields

/-- The value of a key, if it occurs; the first one, if it is repeated. -/
def get? (fields : Fields) (key : String) : Option Json := List.lookup key fields

/-- Sets the value of a key: in place if it occurs, else where the order of the keys wants it. -/
def insert (fields : Fields) (key : String) (value : Json) : Fields :=
  match fields with
  | [] => [(key, value)]
  | (k, v) :: rest =>
    if key = k then (key, value) :: rest
    else if key < k then (key, value) :: (k, v) :: rest
    else (k, v) :: insert rest key value

/-- The fields made from a list of entries, a later entry replacing an earlier one of its key. -/
def ofEntries (entries : List (String × Json)) : Fields :=
  entries.foldl (fun fields e => fields.insert e.1 e.2) []

@[simp] theorem get?_nil (key : String) : get? [] key = none := rfl

theorem get?_cons (k : String) (v : Json) (rest : Fields) (key : String) :
    get? ((k, v) :: rest) key = if key = k then some v else rest.get? key := by
  unfold get?
  rw [List.lookup_cons]
  by_cases h : key = k
  · simp [h]
  · rw [beq_false_of_ne h, if_neg h]

/-- What was inserted is found. -/
@[simp] theorem get?_insert_self (fields : Fields) (key : String) (value : Json) :
    (fields.insert key value).get? key = some value := by
  induction fields with
  | nil => simp [insert, get?_cons]
  | cons e rest ih =>
    obtain ⟨k, v⟩ := e
    rw [insert]
    split
    · simp [get?_cons]
    · split
      · simp [get?_cons]
      · next h _ => rw [get?_cons, if_neg h, ih]

/-- An insertion leaves every other key alone. -/
theorem get?_insert_of_ne {fields : Fields} {key other : String} {value : Json}
    (h : other ≠ key) : (fields.insert key value).get? other = fields.get? other := by
  induction fields with
  | nil => simp [insert, get?_cons, h]
  | cons e rest ih =>
    obtain ⟨k, v⟩ := e
    rw [insert]
    split
    · next hk => subst hk; simp [get?_cons, h]
    · split
      · rw [get?_cons, if_neg h]
      · rw [get?_cons, get?_cons, ih]

end Fields

namespace Json

/-- Whether a value is `null`. -/
def isNull : Json → Bool
  | .null => true
  | _ => false

/-- The value of a key of an object; other values have no keys. -/
def get? : Json → String → Option Json
  | .object fields, key => Fields.get? fields key
  | _, _ => none

/-- The JSON value of an optional one: `null` when absent. -/
def ofOption (f : α → Json) : Option α → Json
  | none => .null
  | some a => f a

/-- An integer as a JSON value. -/
def ofInt (n : Int) : Json := .number (.int n)

/-- A natural number as a JSON value. -/
def ofNat (n : Nat) : Json := .number (.int n)

/-- A binary64 number as a JSON value; what is no finite number becomes `null`. -/
def ofBinary64 (x : Binary64) : Json := if x.isFinite then .number (.float x) else .null

/-- A single-precision number as a JSON value to be written; what is no finite number becomes
`null`. -/
def ofSingle (x : Binary64) : Json := if x.isFinite then .number (.single x) else .null

mutual

/-- The same value with the keys of all its objects in ascending order. -/
def sorted : Json → Json
  | .array items => .array (sortedItems items)
  | .object fields => .object (sortedFields fields)
  | v => v

/-- `sorted` on each of several values. -/
def sortedItems : List Json → List Json
  | [] => []
  | v :: rest => sorted v :: sortedItems rest

/-- Fields in ascending order of their keys, their values sorted too. -/
def sortedFields : List (String × Json) → Fields
  | [] => []
  | (k, v) :: rest => Fields.insert (sortedFields rest) k (sorted v)

end

end Json
end KitchenFlow
