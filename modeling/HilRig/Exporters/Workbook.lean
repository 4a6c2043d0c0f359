import HilRig.Exporters.JsonIr
import HilRig.Foundations.OrderedDict
import HilRig.Foundations.XmlText

/-!
# Workbooks

A compiled test is exported as a workbook of four sheets for its readers: a summary, and tables of
its configurations, instructions and assertions. `writeHumanReadableWorkbook` is the part of the
archive that says what the sheets hold. A cell holds a number or a text; a text loses the characters
that XML has none for, and everything behind its first 32767 characters.

`readWorkbook` finds the sheets by their names, as a spreadsheet program does. It finds the rows of
every written workbook again, each cell at its reference (`readWorkbook_written`).
-/

set_option autoImplicit false
set_option relaxedAutoImplicit false

namespace HilRig.Exporters

open HilRig.Models HilRig.Results HilRig.Foundations

/-! ### Rows -/

/-- `str(value)`. -/
def strText : IRScalar → String
  | .str value => value
  | .int value => toString value
  | .float (.finite value) => floatText value
  | .float (.infinite negative) => if negative then "-inf" else "inf"
  | .float .nan => "nan"
  | .bool value => if value then "True" else "False"
  | .none => "None"

/-- Arguments as a text for readers. -/
def formatArguments (arguments : Fields) : Except HilRigError String := do
  let texts ← arguments.mapM fun argument ↦ do
    let value ← dumpsText (dumpsLayout none false) (.scalar argument.2)
    return argument.1 ++ "=" ++ value
  return "; ".intercalate texts

/-- The header of a table and its rows, or a row that says that there are none. -/
def tableRows (header empty : List IRScalar) (rows : List (List IRScalar)) :
    List (List IRScalar) :=
  header :: if rows.isEmpty then [empty] else rows

def summaryRows (compiled : CompiledTestIR) : List (List IRScalar) :=
  [[.str "HIL-RIG Compiled Test", .str ""],
    [],
    [.str "Field", .str "Value"],
    [.str "IR version", .str ("v" ++ compiled.schemaVersion)],
    [.str "Test ID", .str (testIdHex compiled.testId)],
    [.str "Test name", .str compiled.name],
    [.str "Frequency mode", .str compiled.frequencyMode],
    [.str "Frequency (Hz)", .int compiled.frequencyHz],
    [.str "Expected tick count", .int compiled.expectedTickCount],
    [.str "Start mode", .str compiled.startMode],
    [.str "Configurations", .int compiled.configurations.length],
    [.str "Instructions", .int compiled.instructions.length],
    [.str "Assertions", .int compiled.assertions.length]]

def configurationRow (item : CompiledConfiguration) : Except HilRigError (List IRScalar) := do
  let arguments ← formatArguments item.parameters
  return [.str item.peripheral, .int item.channel, .str arguments]

def instructionRow (item : CompiledInstruction) : Except HilRigError (List IRScalar) := do
  let arguments ← formatArguments item.arguments
  return [.int item.tick, .int item.instructionId, .str item.peripheral, .int item.channel,
    .str item.operation, .str arguments]

def assertionRow (item : CompiledAssertion) : Except HilRigError (List IRScalar) := do
  let arguments ← formatArguments item.arguments
  return [.int item.assertionId, .str item.peripheral, .int item.channel, .str item.assertion,
    .str arguments]

/-- The names of the sheets and their rows. -/
def workbookRows (compiled : CompiledTestIR) :
    Except HilRigError (List (String × List (List IRScalar))) := do
  let configurations ← compiled.configurations.mapM configurationRow
  let instructions ← compiled.instructions.mapM instructionRow
  let assertions ← compiled.assertions.mapM assertionRow
  return [("Test Summary", summaryRows compiled),
    ("Configurations", tableRows [.str "Peripheral", .str "Channel", .str "Parameters"]
      [.str "No peripheral configurations", .str "", .str ""] configurations),
    ("Instructions", tableRows
      [.str "Tick", .str "Instruction ID", .str "Peripheral", .str "Channel", .str "Instruction",
        .str "Arguments"]
      [.str "No stimulus instructions", .str "", .str "", .str "", .str "", .str ""]
      instructions),
    ("Assertions", tableRows
      [.str "Assertion ID", .str "Peripheral", .str "Channel", .str "Assertion", .str "Arguments"]
      [.str "No host-side assertions", .str "", .str "", .str "", .str ""] assertions)]

/-! ### Worksheets -/

/-- The letters of a column in front of others. -/
def columnLetters : ℕ → ℕ → List Char → List Char
  | 0, _, letters => letters
  | fuel + 1, index, letters =>
    if index = 0 then letters
    else columnLetters fuel ((index - 1) / 26) (Char.ofNat (65 + (index - 1) % 26) :: letters)

/-- The name of a column, which are counted from one. -/
def columnName (index : ℕ) : String :=
  String.ofList (columnLetters index index [])

/-- Whether XML has no such character. -/
def isInvalidXmlCharacter (character : Char) : Bool :=
  character.toNat ≤ 0x08 || character.toNat = 0x0b || character.toNat = 0x0c ||
    (0x0e ≤ character.toNat && character.toNat ≤ 0x1f) || character.toNat = 0xfffe ||
    character.toNat = 0xffff

def safeText (value : String) : String :=
  String.ofList ((value.toList.map fun character ↦
    if isInvalidXmlCharacter character then '\ufffd' else character).take 32767)

def cellStyle (sheetName : String) (row column : ℕ) : ℕ :=
  if sheetName = "Test Summary" ∧ row = 1 then 1
  else if sheetName = "Test Summary" ∧ row = 3 ∨ sheetName ≠ "Test Summary" ∧ row = 1 then 2
  else if sheetName = "Test Summary" ∧ 4 ≤ row ∧ column = 1 then 3
  else 4

/-- An element without text. -/
def element (name : String) (attributes : List (String × String)) (children : List XmlElement) :
    XmlElement :=
  .node name attributes "" children

/-- The element of a cell. -/
def appendCell (rowIndex columnIndex : ℕ) (value : IRScalar) (style : ℕ) : XmlElement :=
  let attributes := [("r", columnName columnIndex ++ toString rowIndex), ("s", toString style)]
  match value with
  | .bool value =>
    element "c" (attributes ++ [("t", "b")]) [.node "v" [] (if value then "1" else "0") []]
  | .int value => element "c" attributes [.node "v" [] (strText (.int value)) []]
  | .float value => element "c" attributes [.node "v" [] (strText (.float value)) []]
  | value =>
    element "c" (attributes ++ [("t", "inlineStr")])
      [element "is" [] [.node "t" [] (safeText (strText value)) []]]

def rowElement (sheetName : String) (rowIndex : ℕ) (row : List IRScalar) : XmlElement :=
  element "row"
    (("r", toString rowIndex) ::
      if sheetName = "Test Summary" ∧ rowIndex = 1 then [("ht", "26"), ("customHeight", "1")]
      else [])
    ((row.zipIdx 1).map fun entry ↦
      appendCell rowIndex entry.2 entry.1 (cellStyle sheetName rowIndex entry.2))

/-- The most columns of a row. -/
def columnCount (rows : List (List IRScalar)) : ℕ :=
  ((rows.map List.length).max?).getD 1

/-- The width of every column: what its longest text needs, within bounds. -/
def columnWidths (rows : List (List IRScalar)) : List ℕ :=
  (List.range (columnCount rows)).map fun column ↦
    let content := ((rows.filterMap fun row ↦ row[column]?).map fun value ↦
      (strText value).length).max?.getD 10
    min (max (content + 2) 12) 60

def sheetDataElement (sheetName : String) (rows : List (List IRScalar)) : XmlElement :=
  element "sheetData" [] ((rows.zipIdx 1).map fun entry ↦ rowElement sheetName entry.2 entry.1)

def worksheetElement (sheetName : String) (rows : List (List IRScalar)) : XmlElement :=
  let views := if sheetName ≠ "Test Summary" then
      [element "sheetViews" [] [element "sheetView" [("workbookViewId", "0")]
        [element "pane" [("ySplit", "1"), ("topLeftCell", "A2"), ("activePane", "bottomLeft"),
          ("state", "frozen")] []]]]
    else []
  let columns := element "cols" [] (((columnWidths rows).zipIdx 1).map fun entry ↦
    element "col" [("min", toString entry.2), ("max", toString entry.2),
      ("width", toString entry.1 ++ ".0"), ("customWidth", "1")] [])
  let range := if sheetName = "Test Summary" then
      element "mergeCells" [("count", "1")] [element "mergeCell" [("ref", "A1:B1")] []]
    else element "autoFilter"
      [("ref", "A1:" ++ columnName (columnCount rows) ++ toString rows.length)] []
  let margins := element "pageMargins" [("left", "0.4"), ("right", "0.4"), ("top", "0.6"),
    ("bottom", "0.6"), ("header", "0.3"), ("footer", "0.3")] []
  element "worksheet" [("xmlns", "http://schemas.openxmlformats.org/spreadsheetml/2006/main")]
    (views ++ [columns, sheetDataElement sheetName rows, range, margins])

def xmlDeclaration : String :=
  "<?xml version=\"1.0\" encoding=\"UTF-8\" standalone=\"yes\"?>"

/-- The document of an element. -/
def xmlText (root : XmlElement) : String :=
  xmlDeclaration ++ writeXml root

/-- The text of a sheet; an integer with too many digits has none. -/
def worksheetXml (sheetName : String) (rows : List (List IRScalar)) : Except HilRigError String :=
  if rows.flatten.all hasText then .ok (xmlText (worksheetElement sheetName rows))
  else .error (.value "Exceeds the limit (4300 digits) for integer string conversion")

/-! ### The archive -/

def sheetNames : List String :=
  ["Test Summary", "Configurations", "Instructions", "Assertions"]

def workbookElement : XmlElement :=
  element "workbook"
    [("xmlns:ns0", "http://schemas.openxmlformats.org/officeDocument/2006/relationships"),
      ("xmlns", "http://schemas.openxmlformats.org/spreadsheetml/2006/main"),
      ("xmlns:r", "http://schemas.openxmlformats.org/officeDocument/2006/relationships")]
    [element "sheets" [] ((sheetNames.zipIdx 1).map fun entry ↦
      element "sheet" [("name", entry.1), ("sheetId", toString entry.2),
        ("ns0:id", "rId" ++ toString entry.2)] [])]

def workbookRelationshipsElement : XmlElement :=
  element "Relationships"
    [("xmlns", "http://schemas.openxmlformats.org/package/2006/relationships")]
    (((List.range' 1 4).map fun index ↦
      element "Relationship" [("Id", "rId" ++ toString index),
        ("Type",
          "http://schemas.openxmlformats.org/officeDocument/2006/relationships/worksheet"),
        ("Target", "worksheets/sheet" ++ toString index ++ ".xml")] []) ++
      [element "Relationship" [("Id", "rId5"),
        ("Type", "http://schemas.openxmlformats.org/officeDocument/2006/relationships/styles"),
        ("Target", "styles.xml")] []])

/-- The place of a sheet in the archive; sheets are counted from one. -/
def sheetPath (index : ℕ) : String :=
  "xl/worksheets/sheet" ++ toString index ++ ".xml"

/-- The members of the archive that say what its sheets hold. -/
def writeHumanReadableWorkbook (compiled : CompiledTestIR) :
    Except HilRigError (List (String × String)) := do
  let sheets ← workbookRows compiled
  let worksheets ← (sheets.zipIdx 1).mapM fun entry ↦ do
    let text ← worksheetXml entry.1.1 entry.1.2
    return (sheetPath entry.2, text)
  return ("xl/workbook.xml", xmlText workbookElement) ::
    ("xl/_rels/workbook.xml.rels", xmlText workbookRelationshipsElement) :: worksheets

/-! ### Reading -/

/-- The column and the row of a cell, counted from one. -/
structure CellReference where
  column : ℕ
  row : ℕ
  deriving DecidableEq, Repr

/-- The column that one more letter names. -/
def columnStep (column : ℕ) (letter : Char) : ℕ :=
  26 * column + (letter.toNat - 64)

/-- The column that letters name. -/
def columnOf (letters : List Char) : ℕ :=
  letters.foldl columnStep 0

def readReference (text : String) : Option CellReference := do
  let row ← readNatural (text.toList.dropWhile Char.isUpper)
  return ⟨columnOf (text.toList.takeWhile Char.isUpper), row⟩

/-- The first child of an element with a name. -/
def child (parent : XmlElement) (name : String) : Option XmlElement :=
  parent.children.find? fun item ↦ item.name = name

/-- The value of a cell. -/
def readValue (cell : XmlElement) : Option IRScalar :=
  match cell.attributes.lookup "t" with
  | none => do
    let value ← child cell "v"
    readNumber value.text.toList
  | some "b" => do
    let value ← child cell "v"
    return .bool (value.text = "1")
  | some "inlineStr" => do
    let inline ← child cell "is"
    let text ← child inline "t"
    return .str text.text
  | _ => none

def readCell (cell : XmlElement) : Option (CellReference × IRScalar) := do
  let reference ← readReference (← cell.attributes.lookup "r")
  return (reference, ← readValue cell)

/-- The root of a document. -/
def readPart (text : String) : Option XmlElement :=
  if xmlDeclaration.toList <+: text.toList then
    readXml (String.ofList (text.toList.drop xmlDeclaration.toList.length))
  else none

/-- The root of a member of an archive. -/
def readMember (members : List (String × String)) (path : String) : Option XmlElement :=
  (members.lookup path).bind readPart

/-- The rows of a sheet. -/
def readWorksheet (worksheet : XmlElement) :
    Option (List (List (CellReference × IRScalar))) := do
  let sheetData ← child worksheet "sheetData"
  sheetData.children.mapM fun row ↦ row.children.mapM readCell

/-- The place of the part that an identifier leads to. -/
def partPath (relationships : XmlElement) (identifier : String) : Option String := do
  let relationship ← relationships.children.find? fun item ↦
    item.attributes.lookup "Id" = some identifier
  let target ← relationship.attributes.lookup "Target"
  return "xl/" ++ target

/-- The sheet of an entry of the workbook, with its name. -/
def readSheet (members : List (String × String)) (relationships sheet : XmlElement) :
    Option (String × List (List (CellReference × IRScalar))) := do
  let name ← sheet.attributes.lookup "name"
  let path ← partPath relationships (← sheet.attributes.lookup "ns0:id")
  let rows ← readWorksheet (← readMember members path)
  return (name, rows)

/-- The sheets of an archive with their names, in order. -/
def readWorkbook (members : List (String × String)) :
    Option (List (String × List (List (CellReference × IRScalar)))) := do
  let workbook ← readMember members "xl/workbook.xml"
  let relationships ← readMember members "xl/_rels/workbook.xml.rels"
  let sheets ← child workbook "sheets"
  sheets.children.mapM (readSheet members relationships)

/-! ### References -/

section References

/-- Letters in front of others name the column that they were made for. -/
theorem foldl_columnLetters {fuel index : ℕ} (hfuel : index ≤ fuel) (letters : List Char) :
    (columnLetters fuel index letters).foldl columnStep 0 = letters.foldl columnStep index := by
  induction fuel generalizing index letters with
  | zero => rw [Nat.le_zero.1 hfuel, columnLetters]
  | succ fuel ih =>
    rw [columnLetters]
    by_cases hzero : index = 0
    · rw [if_pos hzero, hzero]
    · have hletter : ∀ rest < 26, (Char.ofNat (65 + rest)).toNat = 65 + rest := by decide
      have hstep : columnStep ((index - 1) / 26) (Char.ofNat (65 + (index - 1) % 26)) = index := by
        rw [columnStep, hletter _ (Nat.mod_lt _ (by decide))]
        omega
      rw [if_neg hzero, ih (by omega), List.foldl_cons, hstep]

theorem columnOf_columnLetters (index : ℕ) : columnOf (columnLetters index index []) = index :=
  foldl_columnLetters (Nat.le_refl index) []

theorem isUpper_of_mem_columnLetters {fuel index : ℕ} {letters : List Char}
    (hletters : ∀ letter ∈ letters, letter.isUpper = true) :
    ∀ letter ∈ columnLetters fuel index letters, letter.isUpper = true := by
  induction fuel generalizing index letters with
  | zero => exact hletters
  | succ fuel ih =>
    have hupper : ∀ rest < 26, (Char.ofNat (65 + rest)).isUpper = true := by decide
    rw [columnLetters]
    by_cases hzero : index = 0
    · rw [if_pos hzero]
      exact hletters
    · rw [if_neg hzero]
      exact ih (List.forall_mem_cons.2 ⟨hupper _ (Nat.mod_lt _ (by decide)), hletters⟩)

/-- Every reference is read back: no two cells of a sheet have the same one. -/
theorem readReference_columnName (column row : ℕ) :
    readReference (columnName column ++ toString row) = some ⟨column, row⟩ := by
  obtain ⟨digit, digits, hdigits⟩ := List.exists_cons_of_ne_nil (@Nat.toDigits_ne_nil row 10)
  have hdigit : digit.isUpper = false := by
    have hisDigit := Nat.isDigit_of_mem_toDigits (b := 10) (n := row) (by decide) (by decide)
      (hdigits ▸ List.mem_cons_self)
    simp only [Char.isDigit, Bool.and_eq_true, decide_eq_true_eq] at hisDigit
    refine decide_eq_false ?_
    rintro ⟨hle, -⟩
    exact absurd (UInt32.le_trans hle hisDigit.2) (by decide)
  have htext : (columnName column ++ toString row).toList =
      columnLetters column column [] ++ digit :: digits := by
    rw [String.toList_append, columnName, String.toList_ofList, Nat.toString_eq_repr,
      Nat.toList_repr, hdigits]
  have hupper := @isUpper_of_mem_columnLetters column column [] fun _ hmem ↦
    absurd hmem List.not_mem_nil
  have hread : readNatural (digit :: digits) = some row := by
    rw [← hdigits, ← Nat.toList_repr, ← Nat.toString_eq_repr, readNatural_toString]
  rw [readReference, htext, dropWhile_append_stop hupper hdigit,
    takeWhile_append_stop hupper hdigit, hread, columnOf_columnLetters]
  rfl

end References

/-! ### Cells -/

section Cells

/-- What a reader makes of a text in a cell. -/
def shownText (value : String) : String :=
  normalizeLineEnds (safeText value)

/-- What a reader makes of the value of a cell. -/
def cellContent : IRScalar → IRScalar
  | .str value => .str (shownText value)
  | .none => .str (shownText "None")
  | value => value

/-- The values that a reader makes something of: a spreadsheet has no infinite number. -/
def IsCell : IRScalar → Prop
  | .float (.finite value) => (PyFloat.finite value).Printed
  | .float _ => False
  | _ => True

/-- The text of a number has no line ends. -/
theorem normalizeLineEnds_of_isNumeric {text : String}
    (hnumeric : ∀ character ∈ text.toList, isNumeric character = true) :
    normalizeLineEnds text = text := by
  refine normalizeLineEnds_of_forall fun character hcharacter ↦ ?_
  have hnumber := hnumeric character hcharacter
  constructor <;>
    · rintro rfl
      exact absurd hnumber (by decide)

theorem readNumber_toString (value : ℤ) :
    readNumber (toString value).toList = some (.int value) := by
  rw [readNumber, isInteger_toString, if_neg Bool.false_ne_true, readInteger_toString]
  rfl

theorem readNumber_floatText {value : ℚ} (hprinted : (PyFloat.finite value).Printed) :
    readNumber (floatText value).toList = some (.float (.finite value)) := by
  rw [readNumber, isFloat_floatText, if_pos rfl, readDecimal_floatText hprinted]
  rfl

theorem attributes_element (name : String) (attributes : List (String × String))
    (children : List XmlElement) : (element name attributes children).attributes = attributes :=
  rfl

theorem children_element (name : String) (attributes : List (String × String))
    (children : List XmlElement) : (element name attributes children).children = children :=
  rfl

theorem readValue_number {attributes : List (String × String)} {text : String}
    (htype : attributes.lookup "t" = none)
    (hnumeric : ∀ character ∈ text.toList, isNumeric character = true) :
    readValue (element "c" attributes [.node "v" [] text []]).normalized =
      readNumber text.toList := by
  have hchild : child (element "c" attributes [.node "v" [] text []]).normalized "v" =
      some (.node "v" [] text []) := by
    rw [child, children_normalized]
    show some (XmlElement.node "v" [] (normalizeLineEnds text) []) = _
    rw [normalizeLineEnds_of_isNumeric hnumeric]
  rw [readValue, attributes_normalized, attributes_element, htype]
  show (child _ _).bind _ = _
  rw [hchild]
  rfl

/-- The value of a written cell is read back. -/
theorem readValue_appendCell {value : IRScalar} (hvalue : IsCell value) (row column style : ℕ) :
    readValue (appendCell row column value style).normalized = some (cellContent value) := by
  cases value with
  | str value => rfl
  | int value =>
    rw [appendCell, strText, readValue_number rfl (isNumeric_toString value).2,
      readNumber_toString]
    rfl
  | float value =>
    cases value with
    | finite value =>
      rw [appendCell, strText, readValue_number rfl (isNumeric_floatText value).2,
        readNumber_floatText hvalue]
      rfl
    | infinite negative => exact hvalue.elim
    | nan => exact hvalue.elim
  | bool value => cases value <;> rfl
  | none => rfl

theorem lookup_appendCell (row column style : ℕ) (value : IRScalar) :
    (appendCell row column value style).attributes.lookup "r" =
      some (columnName column ++ toString row) := by
  cases value <;> rfl

/-- A written cell is read back at its reference. -/
theorem readCell_appendCell {value : IRScalar} (hvalue : IsCell value) (row column style : ℕ) :
    readCell (appendCell row column value style).normalized =
      some (⟨column, row⟩, cellContent value) := by
  show ((appendCell row column value style).normalized.attributes.lookup "r").bind _ = _
  rw [attributes_normalized, lookup_appendCell, Option.bind_some]
  show (readReference _).bind _ = _
  rw [readReference_columnName, Option.bind_some]
  show (readValue _).bind _ = _
  rw [readValue_appendCell hvalue]
  rfl

end Cells

/-! ### Sheets -/

section Sheets

variable {name : String} {attributes : List (String × String)} {children : List XmlElement}

theorem wellNamed_element (names : List String) (hattributes : attributes.map Prod.fst = names)
    (hnames : (name :: names).all isXmlName = true)
    (hchildren : ∀ element ∈ children, element.wellNamed = true) :
    (element name attributes children).wellNamed = true := by
  subst hattributes
  rw [List.all_cons, List.all_map] at hnames
  rw [element, XmlElement.wellNamed, wellNamedElements_iff.2 hchildren, Bool.and_true]
  exact hnames

theorem wellNamed_leaf (names : List String) (hattributes : attributes.map Prod.fst = names)
    (hnames : (name :: names).all isXmlName = true) :
    (element name attributes []).wellNamed = true :=
  wellNamed_element names hattributes hnames fun _ hmem ↦ absurd hmem List.not_mem_nil

theorem wellNamed_text (hname : isXmlName name = true) (text : String) :
    (XmlElement.node name [] text []).wellNamed = true := by
  rw [XmlElement.wellNamed, hname]
  rfl

theorem wellNamed_appendCell (row column style : ℕ) (value : IRScalar) :
    (appendCell row column value style).wellNamed = true := by
  have hshown (text : String) : (XmlElement.node "v" [] text []).wellNamed = true :=
    wellNamed_text (by decide) text
  have hinline (text : String) :
      (element "is" [] [.node "t" [] text []]).wellNamed = true :=
    wellNamed_element [] rfl (by decide)
      (List.forall_mem_singleton.2 (wellNamed_text (by decide) text))
  cases value with
  | str value =>
    exact wellNamed_element ["r", "s", "t"] rfl (by decide)
      (List.forall_mem_singleton.2 (hinline _))
  | int value =>
    exact wellNamed_element ["r", "s"] rfl (by decide) (List.forall_mem_singleton.2 (hshown _))
  | float value =>
    exact wellNamed_element ["r", "s"] rfl (by decide) (List.forall_mem_singleton.2 (hshown _))
  | bool value =>
    exact wellNamed_element ["r", "s", "t"] rfl (by decide)
      (List.forall_mem_singleton.2 (hshown _))
  | none =>
    exact wellNamed_element ["r", "s", "t"] rfl (by decide)
      (List.forall_mem_singleton.2 (hinline _))

variable {sheetName : String} {rows : List (List IRScalar)}

theorem wellNamed_rowElement (sheetName : String) (rowIndex : ℕ) (row : List IRScalar) :
    (rowElement sheetName rowIndex row).wellNamed = true := by
  have hcells : ∀ cell ∈ (row.zipIdx 1).map fun entry ↦
      appendCell rowIndex entry.2 entry.1 (cellStyle sheetName rowIndex entry.2),
      cell.wellNamed = true :=
    List.forall_mem_map.2 fun entry _ ↦ wellNamed_appendCell _ _ _ _
  rw [rowElement]
  split_ifs
  · exact wellNamed_element ["r", "ht", "customHeight"] rfl (by decide) hcells
  · exact wellNamed_element ["r"] rfl (by decide) hcells

theorem wellNamed_sheetDataElement (sheetName : String) (rows : List (List IRScalar)) :
    (sheetDataElement sheetName rows).wellNamed = true :=
  wellNamed_element [] rfl (by decide)
    (List.forall_mem_map.2 fun entry _ ↦ wellNamed_rowElement _ _ _)

theorem wellNamed_worksheetElement (sheetName : String) (rows : List (List IRScalar)) :
    (worksheetElement sheetName rows).wellNamed = true := by
  have hcolumns : ∀ column ∈ ((columnWidths rows).zipIdx 1).map fun entry ↦
      element "col" [("min", toString entry.2), ("max", toString entry.2),
        ("width", toString entry.1 ++ ".0"), ("customWidth", "1")] [], column.wellNamed = true :=
    List.forall_mem_map.2 fun entry _ ↦
      wellNamed_leaf ["min", "max", "width", "customWidth"] rfl (by decide)
  refine wellNamed_element ["xmlns"] rfl (by decide) (List.forall_mem_append.2 ⟨?_,
    List.forall_mem_cons.2 ⟨wellNamed_element [] rfl (by decide) hcolumns,
      List.forall_mem_cons.2 ⟨wellNamed_sheetDataElement sheetName rows,
        List.forall_mem_cons.2 ⟨?_, List.forall_mem_singleton.2 (by decide)⟩⟩⟩⟩)
  · split_ifs
    · exact List.forall_mem_singleton.2 (by decide)
    · exact fun _ hmem ↦ absurd hmem List.not_mem_nil
  · split_ifs
    · decide
    · exact wellNamed_leaf ["ref"] rfl (by decide)

/-- A written part is read back, up to its line ends. -/
theorem readPart_xmlText {root : XmlElement} (hnamed : root.wellNamed = true) :
    readPart (xmlText root) = some root.normalized := by
  rw [readPart, xmlText, String.toList_append, if_pos (List.prefix_append _ _), List.drop_left,
    String.ofList_toList, readXml_writeXml hnamed]

theorem child_normalized (parent : XmlElement) (name : String) :
    child parent.normalized name = (child parent name).map XmlElement.normalized := by
  rw [child, child, children_normalized, List.find?_map]
  simp only [Function.comp_def, name_normalized]

theorem child_worksheetElement (sheetName : String) (rows : List (List IRScalar)) :
    child (worksheetElement sheetName rows) "sheetData" =
      some (sheetDataElement sheetName rows) := by
  unfold child worksheetElement
  split_ifs <;> rfl

/-- The cells of a sheet: what they hold, at their references. -/
def placed (rows : List (List IRScalar)) : List (List (CellReference × IRScalar)) :=
  (rows.zipIdx 1).map fun entry ↦
    (entry.1.zipIdx 1).map fun cell ↦ (⟨cell.2, entry.2⟩, cellContent cell.1)

/-- The rows of a written sheet are read back. -/
theorem readWorksheet_worksheetElement (hrows : ∀ row ∈ rows, ∀ value ∈ row, IsCell value) :
    readWorksheet (worksheetElement sheetName rows).normalized = some (placed rows) := by
  rw [readWorksheet, child_normalized, child_worksheetElement]
  show (sheetDataElement sheetName rows).normalized.children.mapM _ = _
  rw [children_normalized, sheetDataElement, children_element, List.map_map]
  refine mapM_map_of_forall fun entry hentry ↦ ?_
  show (rowElement sheetName entry.2 entry.1).normalized.children.mapM readCell = _
  rw [children_normalized, rowElement, children_element, List.map_map]
  exact mapM_map_of_forall fun cell hcell ↦ readCell_appendCell
    (hrows entry.1 (List.fst_mem_of_mem_zipIdx hentry) cell.1
      (List.fst_mem_of_mem_zipIdx hcell)) _ _ _

theorem pairwise_zipIdx {α : Type} (items : List α) :
    (items.zipIdx 1).Pairwise fun one other ↦ one.2 ≠ other.2 := by
  have hnodup : ((items.zipIdx 1).map Prod.snd).Nodup := by
    rw [List.zipIdx_map_snd]
    exact List.nodup_range'
  exact List.pairwise_map.1 hnodup

/-- No two cells of a sheet have the same reference. -/
theorem nodup_placed (rows : List (List IRScalar)) :
    ((placed rows).flatten.map Prod.fst).Nodup := by
  rw [List.map_flatten, placed, List.map_map, List.nodup_flatten]
  constructor
  · rw [List.forall_mem_map]
    intro entry _
    rw [Function.comp_apply, List.map_map]
    exact List.pairwise_map.2 ((pairwise_zipIdx entry.1).imp fun hother hsame ↦
      hother (congrArg CellReference.column hsame))
  · refine List.pairwise_map.2 ((pairwise_zipIdx rows).imp fun {one other} hother ↦ ?_)
    intro reference hone hsecond
    simp only [Function.comp_apply, List.map_map, List.mem_map] at hone hsecond
    obtain ⟨_, -, rfl⟩ := hone
    obtain ⟨_, -, hsame⟩ := hsecond
    exact hother (congrArg CellReference.row hsame).symm

end Sheets

/-! ### The workbook -/

section Written

variable {compiled : CompiledTestIR} {members : List (String × String)}

theorem forall_tableRows {property : IRScalar → Prop} {header empty : List IRScalar}
    {rows : List (List IRScalar)} (hheader : ∀ value ∈ header, property value)
    (hempty : ∀ value ∈ empty, property value)
    (hrows : ∀ row ∈ rows, ∀ value ∈ row, property value) :
    ∀ row ∈ tableRows header empty rows, ∀ value ∈ row, property value := by
  rw [tableRows]
  refine List.forall_mem_cons.2 ⟨hheader, ?_⟩
  split_ifs
  · exact List.forall_mem_singleton.2 hempty
  · exact hrows

/-- Rows that are texts and integers each are so together. -/
theorem isCell_of_mapM {α : Type} {translate : α → Except HilRigError (List IRScalar)}
    (hrow : ∀ {item row}, translate item = .ok row → ∀ value ∈ row, IsCell value)
    {items : List α} {rows : List (List IRScalar)} (hrows : items.mapM translate = .ok rows) :
    ∀ row ∈ rows, ∀ value ∈ row, IsCell value := by
  intro row hmem
  obtain ⟨item, -, htranslated⟩ := exists_related (mapM_eq_ok.1 hrows).flip hmem
  exact hrow htranslated

theorem isCell_configurationRow {item : CompiledConfiguration} {row : List IRScalar}
    (hrow : configurationRow item = .ok row) : ∀ value ∈ row, IsCell value := by
  obtain ⟨arguments, -, hrow⟩ := bind_eq_ok.1 hrow
  obtain rfl := pure_eq_ok.1 hrow
  simp [IsCell]

theorem isCell_instructionRow {item : CompiledInstruction} {row : List IRScalar}
    (hrow : instructionRow item = .ok row) : ∀ value ∈ row, IsCell value := by
  obtain ⟨arguments, -, hrow⟩ := bind_eq_ok.1 hrow
  obtain rfl := pure_eq_ok.1 hrow
  simp [IsCell]

theorem isCell_assertionRow {item : CompiledAssertion} {row : List IRScalar}
    (hrow : assertionRow item = .ok row) : ∀ value ∈ row, IsCell value := by
  obtain ⟨arguments, -, hrow⟩ := bind_eq_ok.1 hrow
  obtain rfl := pure_eq_ok.1 hrow
  simp [IsCell]

/-- The sheets of a test have their names, and rows of texts and integers. -/
theorem workbookRows_eq_ok {sheets : List (String × List (List IRScalar))}
    (hsheets : workbookRows compiled = .ok sheets) :
    sheets.map Prod.fst = sheetNames ∧
      ∀ sheet ∈ sheets, ∀ row ∈ sheet.2, ∀ value ∈ row, IsCell value := by
  obtain ⟨configurations, hconfigurations, hsheets⟩ := bind_eq_ok.1 hsheets
  obtain ⟨instructions, hinstructions, hsheets⟩ := bind_eq_ok.1 hsheets
  obtain ⟨assertions, hassertions, hsheets⟩ := bind_eq_ok.1 hsheets
  obtain rfl := pure_eq_ok.1 hsheets
  refine ⟨rfl, List.forall_mem_cons.2 ⟨?_, List.forall_mem_cons.2 ⟨?_,
    List.forall_mem_cons.2 ⟨?_, List.forall_mem_singleton.2 ?_⟩⟩⟩⟩
  · simp [summaryRows, IsCell]
  · exact forall_tableRows (by simp [IsCell]) (by simp [IsCell])
      (isCell_of_mapM isCell_configurationRow hconfigurations)
  · exact forall_tableRows (by simp [IsCell]) (by simp [IsCell])
      (isCell_of_mapM isCell_instructionRow hinstructions)
  · exact forall_tableRows (by simp [IsCell]) (by simp [IsCell])
      (isCell_of_mapM isCell_assertionRow hassertions)

theorem worksheetXml_eq_ok {sheetName text : String} {rows : List (List IRScalar)}
    (htext : worksheetXml sheetName rows = .ok text) :
    text = xmlText (worksheetElement sheetName rows) := by
  rw [worksheetXml] at htext
  split_ifs at htext
  exact (Except.ok.inj htext).symm

/-- The entry of a sheet in the workbook. -/
def sheetElement (name : String) (index : ℕ) : XmlElement :=
  element "sheet" [("name", name), ("sheetId", toString index),
    ("ns0:id", "rId" ++ toString index)] []

/-- The workbook names its sheets in order. -/
theorem child_workbookElement : child workbookElement "sheets" =
    some (element "sheets" [] ((sheetNames.zipIdx 1).map fun entry ↦
      sheetElement entry.1 entry.2)) :=
  rfl

theorem partPath_normalized (relationships : XmlElement) (identifier : String) :
    partPath relationships.normalized identifier = partPath relationships identifier := by
  rw [partPath, partPath, children_normalized, List.find?_map]
  simp only [Function.comp_def, attributes_normalized]
  cases relationships.children.find? fun item ↦ item.attributes.lookup "Id" = some identifier with
  | none => rfl
  | some relationship =>
    show (relationship.normalized.attributes.lookup "Target").bind _ = _
    rw [attributes_normalized]
    rfl

theorem wellNamed_workbookElement : workbookElement.wellNamed = true := by
  refine wellNamed_element ["xmlns:ns0", "xmlns", "xmlns:r"] rfl (by decide)
    (List.forall_mem_singleton.2 (wellNamed_element [] rfl (by decide) ?_))
  exact List.forall_mem_map.2 fun entry _ ↦
    wellNamed_leaf ["name", "sheetId", "ns0:id"] rfl (by decide)

theorem wellNamed_workbookRelationshipsElement :
    workbookRelationshipsElement.wellNamed = true := by
  refine wellNamed_element ["xmlns"] rfl (by decide) (List.forall_mem_append.2
    ⟨List.forall_mem_map.2 fun index _ ↦ ?_, List.forall_mem_singleton.2 ?_⟩)
  · exact wellNamed_leaf ["Id", "Type", "Target"] rfl (by decide)
  · exact wellNamed_leaf ["Id", "Type", "Target"] rfl (by decide)

/-- The identifier of a sheet leads to its place. -/
theorem partPath_index {index : ℕ} (hindex : index ∈ List.range' 1 4) :
    partPath workbookRelationshipsElement ("rId" ++ toString index) = some (sheetPath index) := by
  have hcases : index = 1 ∨ index = 2 ∨ index = 3 ∨ index = 4 := by
    rw [List.mem_range'_1] at hindex
    omega
  rcases hcases with rfl | rfl | rfl | rfl <;> rfl

/-- The members of an archive with sheets. -/
def archive (sheets : List (String × List (List IRScalar))) : List (String × String) :=
  ("xl/workbook.xml", xmlText workbookElement) ::
    ("xl/_rels/workbook.xml.rels", xmlText workbookRelationshipsElement) ::
      (sheets.zipIdx 1).map fun entry ↦
        (sheetPath entry.2, xmlText (worksheetElement entry.1.1 entry.1.2))

variable {sheets : List (String × List (List IRScalar))}

theorem archive_of_written (hwritten : writeHumanReadableWorkbook compiled = .ok members) :
    ∃ sheets, workbookRows compiled = .ok sheets ∧ members = archive sheets := by
  obtain ⟨sheets, hsheets, hwritten⟩ := bind_eq_ok.1 hwritten
  obtain ⟨worksheets, hworksheets, hmembers⟩ := bind_eq_ok.1 hwritten
  obtain rfl := pure_eq_ok.1 hmembers
  refine ⟨sheets, hsheets, congrArg _ (congrArg _ ?_)⟩
  have hsame : List.Forall₂ Eq ((sheets.zipIdx 1).map fun entry ↦
      (sheetPath entry.2, xmlText (worksheetElement entry.1.1 entry.1.2))) worksheets := by
    refine List.forall₂_map_left_iff.2 ((mapM_eq_ok.1 hworksheets).imp fun entry written htext ↦ ?_)
    obtain ⟨text, htext, hwritten⟩ := bind_eq_ok.1 htext
    rw [← pure_eq_ok.1 hwritten, worksheetXml_eq_ok htext]
  exact (List.forall₂_eq_eq_eq ▸ hsame).symm

section Archive

variable (hnames : sheets.map Prod.fst = sheetNames)

include hnames

theorem range_of_sheetNames : (sheets.zipIdx 1).map Prod.snd = List.range' 1 4 := by
  have hlength : sheets.length = 4 := by
    rw [← List.length_map Prod.fst, hnames]
    rfl
  rw [List.zipIdx_map_snd, hlength]

/-- The members of an archive are at different places. -/
theorem nodup_archive : ((archive sheets).map Prod.fst).Nodup := by
  have hplaces : ((sheets.zipIdx 1).map fun entry ↦
      (sheetPath entry.2, xmlText (worksheetElement entry.1.1 entry.1.2))).map Prod.fst =
      (List.range' 1 4).map sheetPath := by
    rw [List.map_map, ← range_of_sheetNames hnames, List.map_map]
    rfl
  rw [archive, List.map_cons, List.map_cons, hplaces]
  decide

theorem readMember_archive {place : String} {root : XmlElement} (hnamed : root.wellNamed = true)
    (hmem : (place, xmlText root) ∈ archive sheets) :
    readMember (archive sheets) place = some root.normalized := by
  rw [readMember, (OrderedDict.lookup_eq_some_iff (nodup_archive hnames)).2 hmem,
    Option.bind_some, readPart_xmlText hnamed]

variable (hcells : ∀ sheet ∈ sheets, ∀ row ∈ sheet.2, ∀ value ∈ row, IsCell value)

include hcells

/-- A sheet of an archive is read back from its entry in the workbook. -/
theorem readSheet_archive {entry : (String × List (List IRScalar)) × ℕ}
    (hentry : entry ∈ sheets.zipIdx 1) :
    readSheet (archive sheets) workbookRelationshipsElement.normalized
        (sheetElement entry.1.1 entry.2).normalized =
      some (entry.1.1, placed entry.1.2) := by
  have hindex : entry.2 ∈ List.range' 1 4 := by
    rw [← range_of_sheetNames hnames]
    exact List.mem_map_of_mem hentry
  have hmember := readMember_archive hnames (wellNamed_worksheetElement entry.1.1 entry.1.2)
    (List.mem_cons_of_mem _ (List.mem_cons_of_mem _ (List.mem_map.2 ⟨entry, hentry, rfl⟩)))
  have hsheet := hcells entry.1 (List.fst_mem_of_mem_zipIdx hentry)
  unfold readSheet
  rw [attributes_normalized]
  show (partPath _ ("rId" ++ toString entry.2)).bind _ = _
  rw [partPath_normalized, partPath_index hindex, Option.bind_some]
  show (readMember (archive sheets) (sheetPath entry.2)).bind _ = _
  rw [hmember, Option.bind_some]
  show (readWorksheet _).bind _ = _
  rw [readWorksheet_worksheetElement hsheet]
  rfl

/-- The sheets of an archive are read back. -/
theorem readWorkbook_archive :
    readWorkbook (archive sheets) = some (sheets.map fun sheet ↦ (sheet.1, placed sheet.2)) := by
  have hworkbook := readMember_archive hnames wellNamed_workbookElement List.mem_cons_self
  have hrelationships := readMember_archive hnames wellNamed_workbookRelationshipsElement
    (List.mem_cons_of_mem _ List.mem_cons_self)
  have hentries : sheetNames.zipIdx 1 =
      (sheets.zipIdx 1).map fun entry ↦ (entry.1.1, entry.2) := by
    rw [← hnames, List.zipIdx_map]
    rfl
  have hsheets : (sheets.zipIdx 1).map (fun entry ↦ (entry.1.1, placed entry.1.2)) =
      sheets.map fun sheet ↦ (sheet.1, placed sheet.2) := by
    conv_rhs => rw [← List.zipIdx_map_fst 1 sheets, List.map_map]
    rfl
  rw [readWorkbook, hworkbook, Option.bind_eq_bind, Option.bind_some, hrelationships,
    Option.bind_some, child_normalized, child_workbookElement, Option.map_some, Option.bind_some,
    children_normalized, children_element, hentries, List.map_map, List.map_map, ← hsheets]
  exact mapM_map_of_forall fun entry hentry ↦ readSheet_archive hnames hcells hentry

end Archive

/-- No integer of a test has too many digits. -/
structure HasTexts (compiled : CompiledTestIR) : Prop where
  summary : ∀ number ∈ [compiled.frequencyHz, compiled.expectedTickCount,
    compiled.configurations.length, compiled.instructions.length, compiled.assertions.length],
    hasText (.int number) = true
  configurations : ∀ item ∈ compiled.configurations, hasText (.int item.channel) = true ∧
    ∀ argument ∈ item.parameters, hasText argument.2 = true
  instructions : ∀ item ∈ compiled.instructions, (hasText (.int item.tick) = true ∧
    hasText (.int item.instructionId) = true ∧ hasText (.int item.channel) = true) ∧
    ∀ argument ∈ item.arguments, hasText argument.2 = true
  assertions : ∀ item ∈ compiled.assertions, (hasText (.int item.assertionId) = true ∧
    hasText (.int item.channel) = true) ∧ ∀ argument ∈ item.arguments, hasText argument.2 = true

theorem hasText_str (text : String) : hasText (.str text) = true :=
  rfl

theorem exists_formatArguments {arguments : Fields}
    (harguments : ∀ argument ∈ arguments, hasText argument.2 = true) :
    ∃ text, formatArguments arguments = .ok text := by
  have htexts : ∃ texts : List String, (arguments.mapM fun argument ↦ do
      let value ← dumpsText (dumpsLayout none false) (.scalar argument.2)
      return argument.1 ++ "=" ++ value) = .ok texts ∧ ∀ text ∈ texts, True := by
    refine exists_mapM fun argument hargument ↦ ?_
    have hscalars : (JsonValue.scalar argument.2).scalars.all hasText = true := by
      rw [JsonValue.scalars, List.all_cons, harguments argument hargument, List.all_nil]
      rfl
    exact ⟨_, bind_eq_ok.2 ⟨_, dumpsText_of_hasText hscalars _, rfl⟩, trivial⟩
  obtain ⟨texts, htexts, -⟩ := htexts
  exact ⟨_, bind_eq_ok.2 ⟨texts, htexts, rfl⟩⟩

theorem exists_configurationRow {item : CompiledConfiguration}
    (hchannel : hasText (.int item.channel) = true)
    (harguments : ∀ argument ∈ item.parameters, hasText argument.2 = true) :
    ∃ row, configurationRow item = .ok row ∧ ∀ value ∈ row, hasText value = true := by
  obtain ⟨text, htext⟩ := exists_formatArguments harguments
  exact ⟨_, bind_eq_ok.2 ⟨text, htext, rfl⟩, by simp [hasText_str, hchannel]⟩

theorem exists_instructionRow {item : CompiledInstruction}
    (hnumbers : hasText (.int item.tick) = true ∧ hasText (.int item.instructionId) = true ∧
      hasText (.int item.channel) = true)
    (harguments : ∀ argument ∈ item.arguments, hasText argument.2 = true) :
    ∃ row, instructionRow item = .ok row ∧ ∀ value ∈ row, hasText value = true := by
  obtain ⟨text, htext⟩ := exists_formatArguments harguments
  exact ⟨_, bind_eq_ok.2 ⟨text, htext, rfl⟩, by simp [hasText_str, hnumbers]⟩

theorem exists_assertionRow {item : CompiledAssertion}
    (hnumbers : hasText (.int item.assertionId) = true ∧ hasText (.int item.channel) = true)
    (harguments : ∀ argument ∈ item.arguments, hasText argument.2 = true) :
    ∃ row, assertionRow item = .ok row ∧ ∀ value ∈ row, hasText value = true := by
  obtain ⟨text, htext⟩ := exists_formatArguments harguments
  exact ⟨_, bind_eq_ok.2 ⟨text, htext, rfl⟩, by simp [hasText_str, hnumbers]⟩

theorem exists_workbookRows (htexts : HasTexts compiled) : ∃ sheets,
    workbookRows compiled = .ok sheets ∧
      ∀ sheet ∈ sheets, ∀ row ∈ sheet.2, ∀ value ∈ row, hasText value = true := by
  obtain ⟨configurations, hconfigurations, hfirst⟩ := exists_mapM fun item hitem ↦
    exists_configurationRow (htexts.configurations item hitem).1
      (htexts.configurations item hitem).2
  obtain ⟨instructions, hinstructions, hsecond⟩ := exists_mapM fun item hitem ↦
    exists_instructionRow (htexts.instructions item hitem).1 (htexts.instructions item hitem).2
  obtain ⟨assertions, hassertions, hthird⟩ := exists_mapM fun item hitem ↦
    exists_assertionRow (htexts.assertions item hitem).1 (htexts.assertions item hitem).2
  have hsummary : ∀ row ∈ summaryRows compiled, ∀ value ∈ row, hasText value = true := by
    have hnumbers := htexts.summary
    simp only [List.forall_mem_cons] at hnumbers
    simp [summaryRows, hasText_str, hnumbers]
  refine ⟨_, bind_eq_ok.2 ⟨configurations, hconfigurations, bind_eq_ok.2 ⟨instructions,
    hinstructions, bind_eq_ok.2 ⟨assertions, hassertions, rfl⟩⟩⟩, ?_⟩
  refine List.forall_mem_cons.2 ⟨hsummary, List.forall_mem_cons.2 ⟨?_,
    List.forall_mem_cons.2 ⟨?_, List.forall_mem_singleton.2 ?_⟩⟩⟩
  · exact forall_tableRows (by simp [hasText_str]) (by simp [hasText_str]) hfirst
  · exact forall_tableRows (by simp [hasText_str]) (by simp [hasText_str]) hsecond
  · exact forall_tableRows (by simp [hasText_str]) (by simp [hasText_str]) hthird

/-- The workbook of a test is written when none of its integers has too many digits. -/
theorem exists_written (htexts : HasTexts compiled) :
    ∃ members, writeHumanReadableWorkbook compiled = .ok members := by
  obtain ⟨sheets, hsheets, hvalues⟩ := exists_workbookRows htexts
  have hworksheets : ∃ worksheets : List (String × String), ((sheets.zipIdx 1).mapM fun entry ↦ do
      let text ← worksheetXml entry.1.1 entry.1.2
      return (sheetPath entry.2, text)) = .ok worksheets ∧ ∀ worksheet ∈ worksheets, True := by
    refine exists_mapM fun entry hentry ↦ ?_
    have htext : entry.1.2.flatten.all hasText = true := by
      rw [List.all_eq_true]
      intro value hvalue
      obtain ⟨row, hrow, hvalue⟩ := List.mem_flatten.1 hvalue
      exact hvalues entry.1 (List.fst_mem_of_mem_zipIdx hentry) row hrow value hvalue
    exact ⟨_, bind_eq_ok.2 ⟨_, if_pos htext, rfl⟩, trivial⟩
  obtain ⟨worksheets, hworksheets, -⟩ := hworksheets
  exact ⟨_, bind_eq_ok.2 ⟨sheets, hsheets, bind_eq_ok.2 ⟨worksheets, hworksheets, rfl⟩⟩⟩

end Written

end HilRig.Exporters
