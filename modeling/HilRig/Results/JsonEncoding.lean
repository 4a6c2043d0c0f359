import HilRig.Results.Snapshot

/-!
# The JSON text of a Python value

`json.dumps` takes more than the scalars of the compiled form: lists and tuples become arrays,
dictionaries become objects, and a key that is a number, a bool or `None` becomes its text. A float
that is not finite has no text, and the names of a dictionary are sorted, so that they must be all
texts or all numbers. Texts are sequences of Unicode scalar values.

Whether a value has a text is decided on the value alone (`isSome_dumps`), and the text of a mapping
of scalars is the one of its fields (`dumps_fields`).
-/

set_option autoImplicit false
set_option relaxedAutoImplicit false

namespace HilRig.Results

open HilRig.Models HilRig.Foundations

/-! ### Values and keys -/

/-- A key of a dictionary; `object` stands for every key of another type. -/
inductive PyKey
  | str (text : String)
  | int (value : ℤ)
  | float (value : PyFloat)
  | bool (value : Bool)
  | none
  | object
  deriving DecidableEq, Repr

/-- A Python value. A tuple is a `list`, and `object` stands for every value without a JSON text:
one of another type, one that contains itself, or one that is nested too deeply. -/
inductive PyValue
  | scalar (value : IRScalar)
  | list (items : List PyValue)
  | mapping (items : List (PyKey × PyValue))
  | object

/-- `repr` of a finite float, from the decimal that it prints. -/
def floatText (value : ℚ) : String :=
  let places := ((List.range 400).find? fun places ↦ (value * 10 ^ places).den = 1).getD 0
  let coefficient := (value * 10 ^ places).num.natAbs
  let digits := ((toString coefficient).toList.reverse.dropWhile fun digit ↦ digit = '0').reverse
  let point : ℤ := (toString coefficient).length - places
  let magnitude :=
    if coefficient = 0 then "0.0".toList
    else if point ≤ -4 ∨ 16 < point then
      let exponent := toString (point - 1).natAbs
      digits.take 1 ++ (if digits.length = 1 then [] else '.' :: digits.drop 1) ++
        ['e', if point ≤ 0 then '-' else '+'] ++
          List.replicate (2 - exponent.length) '0' ++ exponent.toList
    else if point ≤ 0 then
      "0.".toList ++ List.replicate (-point).toNat '0' ++ digits
    else if digits.length ≤ point then
      digits ++ List.replicate (point - digits.length).toNat '0' ++ ".0".toList
    else digits.take point.toNat ++ '.' :: digits.drop point.toNat
  String.ofList (if value < 0 then '-' :: magnitude else magnitude)

namespace PyKey

/-- The text a key is written as. -/
def text : PyKey → Option String
  | .str text => some text
  | .int value => if isPrintable (.int value) then some (toString value) else Option.none
  | .float (.finite value) => some (floatText value)
  | .float _ => Option.none
  | .bool value => some (if value then "true" else "false")
  | .none => some "null"
  | .object => Option.none

/-- The number a key is compared as. -/
def number : PyKey → Option ℚ
  | .int value => some value
  | .float (.finite value) => some value
  | .bool value => some (if value then 1 else 0)
  | _ => Option.none

def isStr : PyKey → Bool
  | .str _ => true
  | _ => false

/-- The order of two keys that can be compared. -/
def before : PyKey → PyKey → Bool
  | .str first, .str second => first ≤ second
  | first, second =>
    match first.number, second.number with
    | some first, some second => first ≤ second
    | _, _ => true

end PyKey

/-- Whether keys can be sorted. Nothing is compared when there is only one. -/
def sortable (keys : List PyKey) : Bool :=
  keys.length ≤ 1 || keys.all PyKey.isStr || keys.all fun key ↦ key.number.isSome

/-! ### Encoding -/

/-- Encoded members in the order of their keys. -/
def sortedMembers (members : List (PyKey × String × JsonValue)) : List (String × JsonValue) :=
  (members.insertionSort fun first second ↦ first.1.before second.1).map Prod.snd

mutual

/-- `json.dumps` with sorted keys and without floats that are not finite; an error is `none`. -/
def PyValue.dumps : PyValue → Option JsonValue
  | .scalar value => if isPrintable value then some (.scalar value) else none
  | .list items => (dumpsItems items).map .array
  | .mapping items =>
    if sortable (items.map Prod.fst) then
      (dumpsMembers items).map fun members ↦ .object (sortedMembers members)
    else none
  | .object => none

def dumpsItems : List PyValue → Option (List JsonValue)
  | [] => some []
  | item :: items => do
    let document ← item.dumps
    let documents ← dumpsItems items
    return document :: documents

def dumpsMembers : List (PyKey × PyValue) → Option (List (PyKey × String × JsonValue))
  | [] => some []
  | (key, value) :: items => do
    let name ← key.text
    let document ← value.dumps
    let members ← dumpsMembers items
    return (key, name, document) :: members

end

mutual

/-- Whether a value has a JSON text. -/
def PyValue.isJson : PyValue → Bool
  | .scalar value => isPrintable value
  | .list items => areJson items
  | .mapping items => sortable (items.map Prod.fst) && haveJson items
  | .object => false

def areJson : List PyValue → Bool
  | [] => true
  | item :: items => item.isJson && areJson items

def haveJson : List (PyKey × PyValue) → Bool
  | [] => true
  | (key, value) :: items => key.text.isSome && value.isJson && haveJson items

end

/-! ### What is encoded -/

mutual

/-- A value is encoded exactly when it has a JSON text. -/
theorem isSome_dumps (value : PyValue) : value.dumps.isSome = value.isJson := by
  cases value with
  | scalar value =>
    rw [PyValue.dumps, PyValue.isJson]
    cases isPrintable value <;> rfl
  | list items =>
    rw [PyValue.dumps, PyValue.isJson, Option.isSome_map, isSome_dumpsItems items]
  | mapping items =>
    rw [PyValue.dumps, PyValue.isJson]
    cases sortable (items.map Prod.fst)
    · rfl
    · rw [if_pos rfl, Option.isSome_map, isSome_dumpsMembers items, Bool.true_and]
  | object => rfl

theorem isSome_dumpsItems (items : List PyValue) : (dumpsItems items).isSome = areJson items := by
  cases items with
  | nil => rfl
  | cons item items =>
    rw [dumpsItems, areJson, ← isSome_dumps item, ← isSome_dumpsItems items]
    cases item.dumps
    · rfl
    · cases dumpsItems items <;> rfl

theorem isSome_dumpsMembers (items : List (PyKey × PyValue)) :
    (dumpsMembers items).isSome = haveJson items := by
  cases items with
  | nil => rfl
  | cons item items =>
    obtain ⟨key, value⟩ := item
    rw [dumpsMembers, haveJson, ← isSome_dumps value, ← isSome_dumpsMembers items]
    cases key.text
    · rfl
    · cases value.dumps
      · rfl
      · cases dumpsMembers items <;> rfl

end

/-- A member of a dictionary of named scalars. -/
def fieldItem (argument : String × IRScalar) : PyKey × PyValue :=
  (.str argument.1, .scalar argument.2)

theorem sortable_fields (arguments : Fields) :
    sortable ((arguments.map fieldItem).map Prod.fst) = true := by
  have htexts : ((arguments.map fieldItem).map Prod.fst).all PyKey.isStr = true := by
    rw [List.map_map, List.all_map, List.all_eq_true]
    exact fun argument _ ↦ rfl
  rw [sortable, htexts, Bool.or_true, Bool.true_or]

/-- Printable scalars are encoded as themselves. -/
theorem dumpsMembers_fields {arguments : Fields}
    (hprintable : ∀ argument ∈ arguments, isPrintable argument.2 = true) :
    dumpsMembers (arguments.map fieldItem) = some (arguments.map fun argument ↦
      (.str argument.1, argument.1, .scalar argument.2)) := by
  induction arguments with
  | nil => rfl
  | cons argument arguments ih =>
    have hvalue : (PyValue.scalar argument.2).dumps = some (.scalar argument.2) := by
      rw [PyValue.dumps, if_pos (hprintable argument List.mem_cons_self)]
    have hmembers := ih fun other hother ↦ hprintable other (List.mem_cons_of_mem _ hother)
    rw [List.map_cons, fieldItem, dumpsMembers, hvalue, hmembers]
    rfl

theorem haveJson_fields (arguments : Fields) :
    haveJson (arguments.map fieldItem) = arguments.all fun argument ↦ isPrintable argument.2 := by
  induction arguments with
  | nil => rfl
  | cons argument arguments ih =>
    rw [List.map_cons, fieldItem, haveJson, ih, List.all_cons, PyValue.isJson]
    rfl

/-- The text of a mapping of scalars is that of its fields. -/
theorem dumps_fields (arguments : Fields) :
    (PyValue.mapping (arguments.map fieldItem)).dumps = (dumps arguments).toOption := by
  by_cases hprintable : arguments.all fun argument ↦ isPrintable argument.2
  · have hsorted : sortedMembers (arguments.map fun argument ↦
        (.str argument.1, argument.1, .scalar argument.2)) =
        (sortedByName arguments).map fun argument ↦ (argument.1, .scalar argument.2) := by
      rw [sortedMembers, sortedByName, ← List.map_insertionSort
        (fun first second : String × IRScalar ↦ first.1 ≤ second.1), List.map_map]
      · rfl
      · intro first _ second _
        exact decide_eq_true_iff.symm
    rw [PyValue.dumps, if_pos (sortable_fields arguments),
      dumpsMembers_fields (List.all_eq_true.1 hprintable), Option.map_some, hsorted, dumps,
      if_pos hprintable]
    rfl
  · have hnone : (PyValue.mapping (arguments.map fieldItem)).dumps.isSome = false := by
      rw [isSome_dumps, PyValue.isJson, haveJson_fields, Bool.eq_false_iff.2 hprintable,
        Bool.and_false]
    rw [Option.not_isSome_iff_eq_none.1 (Bool.eq_false_iff.1 hnone), dumps, if_neg hprintable]
    rfl

end HilRig.Results
