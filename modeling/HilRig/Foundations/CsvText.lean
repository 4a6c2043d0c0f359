import HilRig.Foundations.Fallible

/-!
# CSV texts

Rows of fields are written as `csv.writer` does by default: fields are separated by commas, a row
ends with a carriage return and a line feed, and a field that contains one of these characters or a
quotation mark is quoted, its quotation marks doubled. `CsvScanner` reads such a text character by
character. Rows with at least one field are read back as they were (`readCsv_writeCsv`), whatever
their fields contain.
-/

set_option autoImplicit false
set_option relaxedAutoImplicit false

namespace HilRig.Foundations

/-! ### Writing -/

/-- Whether a field with this character is quoted. -/
def needsQuotes (character : Char) : Bool :=
  character = ',' || character = '"' || character = '\r' || character = '\n'

def doubleQuotes (field : List Char) : List Char :=
  field.flatMap fun character ↦ if character = '"' then ['"', '"'] else [character]

def quoteField (field : List Char) : List Char :=
  '"' :: doubleQuotes field ++ ['"']

def writeField (field : List Char) : List Char :=
  if field.any needsQuotes then quoteField field else field

/-- The fields of a row, separated by commas. -/
def writeFields : List (List Char) → List Char
  | [] => []
  | [field] => writeField field
  | field :: fields => writeField field ++ ',' :: writeFields fields

/-- `writer.writerow(row)`; a single empty field is quoted. -/
def writeRow (row : List String) : List Char :=
  (if row = [""] then quoteField [] else writeFields (row.map String.toList)) ++ ['\r', '\n']

/-- The text of some rows. -/
def writeCsv (rows : List (List String)) : String :=
  String.ofList (rows.flatMap writeRow)

/-! ### Reading -/

/-- What a reader is in the middle of. -/
inductive CsvMode
  | startField
  | plain (field : List Char)
  | quoted (field : List Char)
  | closed (field : List Char)
  | returned
  | failed
  deriving DecidableEq

/-- The rows read so far, and the fields of the present one. -/
structure CsvScanner where
  rows : List (List String)
  fields : List String
  mode : CsvMode
  deriving DecidableEq

namespace CsvScanner

/-- The end of a field, at a comma or at the end of a row. -/
def endField (scanner : CsvScanner) (field : List Char) (character : Char) : CsvScanner :=
  let fields := scanner.fields ++ [String.ofList field]
  if character = ',' then ⟨scanner.rows, fields, .startField⟩
  else if character = '\r' then ⟨scanner.rows, fields, .returned⟩
  else ⟨scanner.rows, fields, .failed⟩

def step (scanner : CsvScanner) (character : Char) : CsvScanner :=
  match scanner.mode with
  | .startField =>
    if character = '"' then ⟨scanner.rows, scanner.fields, .quoted []⟩
    else if needsQuotes character then scanner.endField [] character
    else ⟨scanner.rows, scanner.fields, .plain [character]⟩
  | .plain field =>
    if needsQuotes character then scanner.endField field character
    else ⟨scanner.rows, scanner.fields, .plain (field ++ [character])⟩
  | .quoted field =>
    if character = '"' then ⟨scanner.rows, scanner.fields, .closed field⟩
    else ⟨scanner.rows, scanner.fields, .quoted (field ++ [character])⟩
  | .closed field =>
    if character = '"' then ⟨scanner.rows, scanner.fields, .quoted (field ++ ['"'])⟩
    else scanner.endField field character
  | .returned =>
    if character = '\n' then ⟨scanner.rows ++ [scanner.fields], [], .startField⟩
    else ⟨scanner.rows, scanner.fields, .failed⟩
  | .failed => scanner

/-- The scanner after a text. -/
def scan (scanner : CsvScanner) (text : List Char) : CsvScanner :=
  text.foldl step scanner

end CsvScanner

/-- The rows of a text, which ends with the end of a row. -/
def readCsv (text : String) : Option (List (List String)) :=
  let scanner := CsvScanner.scan ⟨[], [], .startField⟩ text.toList
  if scanner.mode = .startField ∧ scanner.fields = [] then some scanner.rows else none

/-! ### Reading what was written -/

section RoundTrip

variable {rows : List (List String)} {fields : List String}

theorem CsvScanner.scan_append (scanner : CsvScanner) (first second : List Char) :
    scanner.scan (first ++ second) = (scanner.scan first).scan second :=
  List.foldl_append

theorem CsvScanner.scan_cons (scanner : CsvScanner) (character : Char) (text : List Char) :
    scanner.scan (character :: text) = (scanner.step character).scan text :=
  rfl

/-- Plain characters are added to the field. -/
theorem scan_plain (field : List Char) {text : List Char} (htext : text.any needsQuotes = false) :
    CsvScanner.scan ⟨rows, fields, .plain field⟩ text = ⟨rows, fields, .plain (field ++ text)⟩ := by
  induction text generalizing field with
  | nil => rw [List.append_nil]; rfl
  | cons character text ih =>
    obtain ⟨hcharacter, htext⟩ := Bool.or_eq_false_iff.1 htext
    rw [CsvScanner.scan_cons, CsvScanner.step, hcharacter]
    show CsvScanner.scan ⟨rows, fields, .plain (field ++ [character])⟩ text = _
    rw [ih _ htext, List.append_assoc, List.singleton_append]

/-- Quoted characters are added to the field, and doubled quotation marks are one. -/
theorem scan_quoted (field text : List Char) :
    CsvScanner.scan ⟨rows, fields, .quoted field⟩ (doubleQuotes text) =
      ⟨rows, fields, .quoted (field ++ text)⟩ := by
  induction text generalizing field with
  | nil => rw [List.append_nil]; rfl
  | cons character text ih =>
    have hcharacter : CsvScanner.scan ⟨rows, fields, .quoted field⟩
        (if character = '"' then ['"', '"'] else [character]) =
          ⟨rows, fields, .quoted (field ++ [character])⟩ := by
      by_cases hquote : character = '"'
      · rw [if_pos hquote, hquote]
        rfl
      · rw [if_neg hquote, CsvScanner.scan_cons, CsvScanner.step]
        simp only [if_neg hquote]
        rfl
    rw [doubleQuotes, List.flatMap_cons, CsvScanner.scan_append, hcharacter, ← doubleQuotes, ih,
      List.append_assoc, List.singleton_append]

/-- A character that ends a field. -/
def EndsField (character : Char) : Prop :=
  character = ',' ∨ character = '\r'

/-- A quoted field is read where a field starts, up to the character that ends it. -/
theorem scan_quoteField (field : List Char) {character : Char} (hends : EndsField character) :
    CsvScanner.scan ⟨rows, fields, .startField⟩ (quoteField field ++ [character]) =
      CsvScanner.endField ⟨rows, fields, .startField⟩ field character := by
  rw [quoteField, List.cons_append, List.cons_append, CsvScanner.scan_cons, List.append_assoc]
  show CsvScanner.scan ⟨rows, fields, .quoted []⟩ _ = _
  rw [CsvScanner.scan_append, scan_quoted]
  rcases hends with rfl | rfl <;> rfl

/-- A written field is read where a field starts, up to the character that ends it. -/
theorem scan_writeField (field : List Char) {character : Char} (hends : EndsField character) :
    CsvScanner.scan ⟨rows, fields, .startField⟩ (writeField field ++ [character]) =
      CsvScanner.endField ⟨rows, fields, .startField⟩ field character := by
  by_cases hquotes : field.any needsQuotes = true
  · rw [writeField, if_pos hquotes, scan_quoteField field hends]
  rw [writeField, if_neg hquotes]
  cases field with
  | nil => rcases hends with rfl | rfl <;> rfl
  | cons first field =>
    obtain ⟨hfirst, hfield⟩ := Bool.or_eq_false_iff.1 (Bool.eq_false_iff.2 hquotes)
    have hplain : first ≠ '"' := fun hquote ↦ absurd hfirst (by rw [hquote]; decide)
    have hstep : CsvScanner.step ⟨rows, fields, .startField⟩ first =
        ⟨rows, fields, .plain [first]⟩ := by
      rw [CsvScanner.step]
      simp only [if_neg hplain, hfirst]
      rfl
    rw [List.cons_append, CsvScanner.scan_cons, hstep, CsvScanner.scan_append,
      scan_plain _ hfield]
    rcases hends with rfl | rfl <;> rfl

/-- The fields of a row are read up to its end. -/
theorem scan_writeFields (done : List String) {row : List (List Char)} (hrow : row ≠ []) :
    CsvScanner.scan ⟨rows, done, .startField⟩ (writeFields row ++ ['\r']) =
      ⟨rows, done ++ row.map String.ofList, .returned⟩ := by
  induction row generalizing done with
  | nil => exact absurd rfl hrow
  | cons field row ih =>
    cases row with
    | nil =>
      rw [writeFields, scan_writeField field (.inr rfl)]
      rfl
    | cons next row =>
      have hcomma := @scan_writeField rows done field ',' (.inl rfl)
      rw [writeFields, List.append_assoc, List.cons_append, ← List.singleton_append,
        ← List.append_assoc, CsvScanner.scan_append, hcomma]
      · show CsvScanner.scan ⟨rows, done ++ [String.ofList field], .startField⟩ _ = _
        rw [ih _ (List.cons_ne_nil _ _), List.append_assoc]
        rfl
      · exact List.cons_ne_nil _ _

/-- A written row is read as one row. -/
theorem scan_writeRow {row : List String} (hrow : row ≠ []) :
    CsvScanner.scan ⟨rows, [], .startField⟩ (writeRow row) = ⟨rows ++ [row], [], .startField⟩ := by
  have hreturned : CsvScanner.scan ⟨rows, [], .startField⟩
      ((if row = [""] then quoteField [] else writeFields (row.map String.toList)) ++ ['\r']) =
        ⟨rows, row, .returned⟩ := by
    by_cases hempty : row = [""]
    · rw [if_pos hempty, scan_quoteField [] (.inr rfl), hempty]
      rfl
    · have hfields : (row.map String.toList).map String.ofList = row := by
        simp [List.map_map, Function.comp_def]
      rw [if_neg hempty, scan_writeFields [] (by simpa using hrow), hfields, List.nil_append]
  rw [writeRow, show ['\r', '\n'] = ['\r'] ++ ['\n'] from rfl, ← List.append_assoc,
    CsvScanner.scan_append, hreturned]
  rfl

/-- Rows with at least one field are read back as they were. -/
theorem readCsv_writeCsv {written : List (List String)} (hwritten : ∀ row ∈ written, row ≠ []) :
    readCsv (writeCsv written) = some written := by
  have hscan (done : List (List String)) :
      CsvScanner.scan ⟨done, [], .startField⟩ (written.flatMap writeRow) =
        ⟨done ++ written, [], .startField⟩ := by
    induction written generalizing done with
    | nil => rw [List.append_nil]; rfl
    | cons row later ih =>
      obtain ⟨hrow, hlater⟩ := List.forall_mem_cons.1 hwritten
      rw [List.flatMap_cons, CsvScanner.scan_append, scan_writeRow hrow, ih hlater,
        List.append_assoc, List.singleton_append]
  rw [readCsv, writeCsv, String.toList_ofList, hscan, List.nil_append]
  exact if_pos ⟨rfl, rfl⟩

end RoundTrip

/-! ### Tables -/

section Tables

variable {α β : Type} {header : List String} {cells : α → List String}
  {item : List String → Option β} {value : α → β} {items : List α}

/-- A header, and a row for each item. -/
def writeTable (header : List String) (cells : α → List String) (items : List α) : String :=
  writeCsv (header :: items.map cells)

/-- The items of a text whose first row is a given header. -/
def readTable (header : List String) (item : List String → Option β) (text : String) :
    Option (List β) :=
  match readCsv text with
  | some (first :: rows) => if first = header then rows.mapM item else none
  | _ => none

/-- A table is read back row by row. -/
theorem readTable_writeTable (hheader : header ≠ []) (hcells : ∀ entry ∈ items, cells entry ≠ [])
    (hitem : ∀ entry ∈ items, item (cells entry) = some (value entry)) :
    readTable header item (writeTable header cells items) = some (items.map value) := by
  have hrows : ∀ row ∈ header :: items.map cells, row ≠ [] := by
    refine List.forall_mem_cons.2 ⟨hheader, fun row hrow ↦ ?_⟩
    obtain ⟨entry, hentry, rfl⟩ := List.mem_map.1 hrow
    exact hcells entry hentry
  rw [readTable, writeTable, readCsv_writeCsv hrows]
  exact (if_pos rfl).trans (mapM_map_of_forall hitem)

theorem writeTable_map {γ : Type} (entry : γ → α) (origins : List γ) :
    writeTable header cells (origins.map entry) =
      writeTable header (fun origin ↦ cells (entry origin)) origins := by
  rw [writeTable, List.map_map]
  rfl

end Tables

end HilRig.Foundations
