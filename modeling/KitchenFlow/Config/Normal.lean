import KitchenFlow.Config.Error
import KitchenFlow.Config.Schema
import KitchenFlow.Text.Blank
import KitchenFlow.Text.Case
import KitchenFlow.Url.Parser

/-!
# Normal configurations

A raw configuration is brought into a normal form, field by field in the order of the schema: a
numeral becomes a number, a number or truth value in a text field becomes text, an option gets its
own spelling, and blank optional texts disappear. What the schema does not mention is dropped. The
first field that cannot be brought into form is reported.

`normalField` says what one field becomes: `none` stands for a field that is left out. Should a
schema have several fields with one key, the last of them counts. How a URL is read is left open.
-/

namespace KitchenFlow.Config

/-- The number that a value stands for: a number itself, or a text that is a numeral. -/
def numberOf? : Json → Option Binary64
  | .number n => some n.toBinary64
  | .string s => Binary64.ofText? (Text.trim s)
  | _ => none

/-- The normal form of a number field. -/
def normalNumber (v : Json) : Except FieldFault Json :=
  match (numberOf? v).filter Binary64.isFinite with
  | none => .error (.notNumber v)
  | some x => if x.blt .zero then .error .negative else .ok (.number (.float x))

/-- The normal form of a truth value field. -/
def normalBoolean : Json → Except FieldFault Json
  | .bool b => .ok (.bool b)
  | v => .error (.notBoolean v)

/-- The text that a value stands for in a text field. -/
def textOf : Json → Except FieldFault String
  | .string s => .ok s
  | .number n => .ok n.render
  | .bool b => .ok (if b then "true" else "false")
  | v => .error (.notText v)

/-- The option that a text names, up to blanks around it and the case of letters. -/
def option? (options : List String) (text : String) : Option String :=
  options.find? fun o => Text.sameLetters o (Text.trim text)

/-- The text of a field, in the spelling of its option if it is a choice. -/
def chosen (spec : FieldSpec) (text : String) : Except FieldFault String :=
  if spec.type = .dropdown ∧ spec.options ≠ [] then
    match option? spec.options text with
    | some o => .ok o
    | none => .error (.notOption spec.options text)
  else .ok text

/-- Puts what a field becomes under its key; what is left out changes nothing. -/
def put (done : Fields) (key : String) : Option Json → Fields
  | none => done
  | some v => done.insert key v

theorem get?_put_self {done : Fields} {key : String} {w : Option Json}
    (hdone : done.get? key = none) : (put done key w).get? key = w := by
  cases w with
  | none => exact hdone
  | some w => exact Fields.get?_insert_self _ _ _

theorem get?_put_of_ne {done : Fields} {key other : String} {w : Option Json} (hne : other ≠ key) :
    (put done key w).get? other = done.get? other := by
  cases w with
  | none => rfl
  | some w => exact Fields.get?_insert_of_ne hne

/-- The key of the field that holds a URL. -/
def urlKey : String := "targetUrl"

/-- The fewest bytes of a URL. -/
def urlMinimum : Nat := 5

variable [UrlReader]

/-- Checks the text of the field that holds a URL. -/
def checkUrl (text : String) : Except FieldFault Unit :=
  if text.utf8ByteSize < urlMinimum then .error .urlTooShort
  else
    match UrlReader.parse text with
    | .ok _ => .ok ()
    | .error e => .error (.badUrl e)

/-- The normal form of a text field; a blank one is left out unless it is required. -/
def normalText (spec : FieldSpec) (v : Json) : Except FieldFault (Option Json) := do
  let text ← textOf v
  if Text.isBlank text then
    if spec.required then .error .blank else .ok none
  else
    let text ← chosen spec text
    if spec.key = urlKey then checkUrl text
    .ok (some (.string text))

/-- The normal form of a field, from the value found under its key. -/
def normalField (spec : FieldSpec) (v : Option Json) : Except FieldFault (Option Json) :=
  match v with
  | none | some .null => if spec.required then .error .missing else .ok none
  | some v =>
    match spec.type with
    | .number => (normalNumber v).map some
    | .boolean => (normalBoolean v).map some
    | _ => normalText spec v

/-- Puts the normal form of a field on top of those before it. -/
def normaliseNext (raw done : Fields) (spec : FieldSpec) : Except (String × FieldFault) Fields :=
  match normalField spec (raw.get? spec.key) with
  | .error fault => .error (spec.key, fault)
  | .ok v => .ok (put done spec.key v)

/-- The normal form of a configuration, or the first field at fault. -/
def normalise (raw : Fields) (specs : List FieldSpec) : Except (String × FieldFault) Fields :=
  specs.foldlM (normaliseNext raw) []

end KitchenFlow.Config
