import HilRig.Results.ValueText

/-!
# Members of JSON documents

An exported document is an object of texts, numbers, mappings of scalars and arrays of objects. A
reader takes such an object apart by the names of its members. `dumpsLine` is the text of a document
in a file of its own, which ends with a line feed.
-/

set_option autoImplicit false
set_option relaxedAutoImplicit false

namespace HilRig.Results

open HilRig.Models HilRig.Foundations

/-! ### Writing -/

/-- The object of a mapping of scalars. -/
def fieldsValue (fields : Fields) : JsonValue :=
  .object (fields.map fun field ↦ (field.1, .scalar field.2))

def textValue (text : String) : JsonValue :=
  .scalar (.str text)

def numberValue (number : ℕ) : JsonValue :=
  .scalar (.int number)

def integerValue (value : ℤ) : JsonValue :=
  .scalar (.int value)

/-- An optional integer, where `None` is `null`. -/
def optionalValue (value : Option ℤ) : JsonValue :=
  value.elim (.scalar .none) integerValue

/-- The layout of `json.dumps` with an indentation, which escapes what is not ASCII by default. -/
def dumpsLayout (indent : Option ℤ) (ensureAscii : Bool) : JsonLayout where
  itemSpaces := if indent.isSome then 0 else 1
  keySpaces := 1
  indent := indent.map Int.toNat
  asciiOnly := ensureAscii

/-- The text of a document and a line feed. -/
def dumpsLine (value : JsonValue) (indent : Option ℤ) (ensureAscii : Bool) :
    Except HilRigError String :=
  (· ++ "\n") <$> dumpsText (dumpsLayout indent ensureAscii) value

/-! ### Reading -/

/-- The member of an object with a name. -/
def member (value : JsonValue) (name : String) : Option JsonValue :=
  match value with
  | .object members => members.lookup name
  | _ => none

def asText (value : JsonValue) : Option String :=
  match value with
  | .scalar (.str text) => some text
  | _ => none

def asNumber (value : JsonValue) : Option ℕ :=
  match value with
  | .scalar (.int (.ofNat number)) => some number
  | _ => none

def asInteger (value : JsonValue) : Option ℤ :=
  match value with
  | .scalar (.int value) => some value
  | _ => none

def asOptional (value : JsonValue) : Option (Option ℤ) :=
  match value with
  | .scalar .none => some none
  | .scalar (.int value) => some (some value)
  | _ => none

def asItems (value : JsonValue) : Option (List JsonValue) :=
  match value with
  | .array items => some items
  | _ => none

def asField (entry : String × JsonValue) : Option (String × IRScalar) :=
  match entry.2 with
  | .scalar value => some (entry.1, value)
  | _ => none

def asFields (value : JsonValue) : Option Fields :=
  match value with
  | .object members => members.mapM asField
  | _ => none

section RoundTrip

/-- Members that are read back are read back together. -/
theorem mapM_map_eq_some {α β : Type} {write : α → β} {read : β → Option α}
    (hread : ∀ item, read (write item) = some item) (items : List α) :
    (items.map write).mapM read = some items := by
  rw [mapM_map_of_forall fun item _ ↦ hread item, List.map_id']

theorem asFields_fieldsValue (fields : Fields) : asFields (fieldsValue fields) = some fields :=
  @mapM_map_eq_some (String × IRScalar) _ _ asField (fun _ ↦ rfl) fields

theorem asOptional_optionalValue (value : Option ℤ) :
    asOptional (optionalValue value) = some value := by
  cases value <;> rfl

theorem printed_fieldsValue {fields : Fields} (hfields : ∀ field ∈ fields, IsPrinted field.2) :
    (fieldsValue fields).Printed := by
  refine printed_object fun member hmember ↦ ?_
  obtain ⟨field, hfield, rfl⟩ := List.mem_map.1 hmember
  exact printed_scalar (hfields field hfield)

theorem printed_textValue (text : String) : (textValue text).Printed :=
  printed_scalar trivial

theorem printed_numberValue (number : ℕ) : (numberValue number).Printed :=
  printed_scalar trivial

theorem printed_integerValue (value : ℤ) : (integerValue value).Printed :=
  printed_scalar trivial

theorem printed_optionalValue (value : Option ℤ) : (optionalValue value).Printed := by
  cases value with
  | none => exact printed_scalar trivial
  | some value => exact printed_integerValue value

theorem dumpsLine_eq_ok {value : JsonValue} {indent : Option ℤ} {ensureAscii : Bool}
    {text : String} : dumpsLine value indent ensureAscii = .ok text ↔
      ∃ written, dumpsText (dumpsLayout indent ensureAscii) value = .ok written ∧
        written ++ "\n" = text := by
  unfold dumpsLine
  cases dumpsText (dumpsLayout indent ensureAscii) value with
  | ok written =>
    exact ⟨fun htext ↦ ⟨written, rfl, Except.ok.inj htext⟩, fun ⟨_, hwritten, htext⟩ ↦
      congrArg _ ((congrArg (· ++ "\n") (Except.ok.inj hwritten)).trans htext)⟩
  | error error =>
    constructor
    · intro htext
      cases htext
    · rintro ⟨_, hwritten, -⟩
      cases hwritten

/-- A document is read back from its text, whatever its indentation. -/
theorem loads_dumpsLine {value : JsonValue} {indent : Option ℤ} {ensureAscii : Bool}
    {text : String} (hprinted : value.Printed)
    (htext : dumpsLine value indent ensureAscii = .ok text) : loads text = some value := by
  obtain ⟨written, hwritten, rfl⟩ := dumpsLine_eq_ok.1 htext
  exact loads_dumpsText hprinted hwritten (List.all_eq_true.1 (by decide))

/-- A document whose integers have texts is written. -/
theorem dumpsLine_of_hasText {value : JsonValue} (hscalars : value.scalars.all hasText = true)
    (indent : Option ℤ) (ensureAscii : Bool) : dumpsLine value indent ensureAscii =
      .ok (writeJson (dumpsLayout indent ensureAscii) value.document ++ "\n") :=
  dumpsLine_eq_ok.2 ⟨_, dumpsText_of_hasText hscalars _, rfl⟩

end RoundTrip

end HilRig.Results
