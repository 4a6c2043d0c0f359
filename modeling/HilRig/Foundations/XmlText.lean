import HilRig.Foundations.Numerals

/-!
# XML texts

An `XmlElement` has a name, attributes, a text and children behind the text. It is written without
white space between elements, with the reserved characters escaped. A reader of such texts follows
their structure; as every XML reader does, it takes the line ends of a text for line feeds. An
element that was written is read back up to this (`readXml_writeXml`).
-/

set_option autoImplicit false
set_option relaxedAutoImplicit false

namespace HilRig.Foundations

/-! ### Elements -/

/-- An element: its text stands in front of its children. -/
inductive XmlElement
  | node (name : String) (attributes : List (String × String)) (text : String)
      (children : List XmlElement)

namespace XmlElement

def name : XmlElement → String
  | node name _ _ _ => name

def attributes : XmlElement → List (String × String)
  | node _ attributes _ _ => attributes

def text : XmlElement → String
  | node _ _ text _ => text

def children : XmlElement → List XmlElement
  | node _ _ _ children => children

end XmlElement

/-! ### Writing -/

/-- A character of a text as it is written. -/
def escapeText (character : Char) : List Char :=
  if character = '&' then "&amp;".toList
  else if character = '<' then "&lt;".toList
  else if character = '>' then "&gt;".toList
  else [character]

/-- A character of an attribute value as it is written. -/
def escapeAttribute (character : Char) : List Char :=
  if character = '"' then "&quot;".toList
  else if character = '\r' then "&#13;".toList
  else if character = '\n' then "&#10;".toList
  else if character = '\t' then "&#09;".toList
  else escapeText character

def writeAttribute (entry : String × String) : List Char :=
  ' ' :: entry.1.toList ++ '=' :: '"' :: entry.2.toList.flatMap escapeAttribute ++ ['"']

mutual

/-- The text of an element. -/
def XmlElement.write : XmlElement → List Char
  | .node name attributes text children =>
    '<' :: name.toList ++ attributes.flatMap writeAttribute ++
      if text.isEmpty && children.isEmpty then [' ', '/', '>']
      else '>' :: text.toList.flatMap escapeText ++ writeElements children ++
        '<' :: '/' :: name.toList ++ ['>']

def writeElements : List XmlElement → List Char
  | [] => []
  | element :: elements => element.write ++ writeElements elements

end

/-- The text of an element as a string. -/
def writeXml (element : XmlElement) : String :=
  String.ofList element.write

/-! ### Reading -/

def isNameCharacter (character : Char) : Bool :=
  character.isAlphanum || character = ':' || character = '_' || character = '-' || character = '.'

/-- The character that a reference stands for. -/
def characterOfReference (name : List Char) : Option Char :=
  match name with
  | '#' :: digits => (readNatural digits).bind fun code ↦
      if code.isValidChar then some (Char.ofNat code) else none
  | _ => [("amp".toList, '&'), ("lt".toList, '<'), ("gt".toList, '>'), ("quot".toList, '"'),
      ("apos".toList, '\'')].lookup name

/-- The characters so far, and the reference that is being read. -/
inductive Unescaped
  | plain (done : List Char)
  | reference (done name : List Char)
  | failed
  deriving DecidableEq

def Unescaped.step (state : Unescaped) (character : Char) : Unescaped :=
  match state with
  | plain done =>
    if character = '&' then reference done []
    else if character = '<' then failed
    else plain (done ++ [character])
  | reference done name =>
    if character = ';' then
      match characterOfReference name with
      | some found => plain (done ++ [found])
      | none => failed
    else reference done (name ++ [character])
  | failed => failed

/-- The characters that a written text stands for. -/
def unescapeXml (text : List Char) : Option String :=
  match text.foldl Unescaped.step (.plain []) with
  | .plain done => some (String.ofList done)
  | _ => none

/-- Line ends become line feeds; `afterReturn` says that a carriage return went before. -/
def normalizeFrom (afterReturn : Bool) : List Char → List Char
  | [] => []
  | character :: text =>
    if character = '\r' then '\n' :: normalizeFrom true text
    else if afterReturn = true ∧ character = '\n' then normalizeFrom false text
    else character :: normalizeFrom false text

/-- A text with its line ends as line feeds. -/
def normalizeLineEnds (text : String) : String :=
  String.ofList (normalizeFrom false text.toList)

/-- The attributes in front of the end of a tag. -/
def readAttributes : ℕ → List Char → Option (List (String × String) × List Char)
  | 0, _ => none
  | fuel + 1, text =>
    match text.dropWhile (· = ' ') with
    | '/' :: rest => some ([], '/' :: rest)
    | '>' :: rest => some ([], '>' :: rest)
    | rest =>
      match rest.dropWhile isNameCharacter with
      | '=' :: '"' :: quoted => do
        let value ← unescapeXml (quoted.takeWhile (· ≠ '"'))
        let later ← readAttributes fuel ((quoted.dropWhile (· ≠ '"')).drop 1)
        return ((String.ofList (rest.takeWhile isNameCharacter), value) :: later.1, later.2)
      | _ => none

/-- The text behind the end tag of an element. -/
def readEndTag (name : List Char) (text : List Char) : Option (List Char) :=
  match text with
  | '<' :: '/' :: rest =>
    if rest.takeWhile isNameCharacter = name then
      match rest.dropWhile isNameCharacter with
      | '>' :: rest => some rest
      | _ => none
    else none
  | _ => none

mutual

/-- The element at the front of a text, and the text behind it. -/
def readElement : ℕ → List Char → Option (XmlElement × List Char)
  | 0, _ => none
  | fuel + 1, text =>
    match text with
    | '<' :: tag => do
      let name := tag.takeWhile isNameCharacter
      let attributes ← readAttributes (tag.length + 1) (tag.dropWhile isNameCharacter)
      match attributes.2 with
      | '/' :: '>' :: rest => return (.node (String.ofList name) attributes.1 "" [], rest)
      | '>' :: content => do
        let text ← unescapeXml (normalizeFrom false (content.takeWhile (· ≠ '<')))
        let children ← readElements fuel (content.dropWhile (· ≠ '<'))
        let rest ← readEndTag name children.2
        return (.node (String.ofList name) attributes.1 text children.1, rest)
      | _ => none
    | _ => none

/-- The elements in front of an end tag. -/
def readElements : ℕ → List Char → Option (List XmlElement × List Char)
  | 0, _ => none
  | fuel + 1, text =>
    match text with
    | '<' :: '/' :: rest => some ([], '<' :: '/' :: rest)
    | _ => do
      let first ← readElement fuel text
      let later ← readElements fuel first.2
      return (first.1 :: later.1, later.2)

end

/-- The element that a text consists of. -/
def readXml (text : String) : Option XmlElement :=
  match readElement (text.toList.length + 1) text.toList with
  | some (element, []) => some element
  | _ => none

/-! ### Characters that were written -/

section Characters

variable {done text : List Char} {character : Char}

theorem foldl_escapeText (done : List Char) (character : Char) :
    (escapeText character).foldl Unescaped.step (.plain done) = .plain (done ++ [character]) := by
  unfold escapeText
  split_ifs with hand hless hgreater
  · subst hand; rfl
  · subst hless; rfl
  · subst hgreater; rfl
  · simp [Unescaped.step, hand, hless]

theorem foldl_escapeAttribute (done : List Char) (character : Char) :
    (escapeAttribute character).foldl Unescaped.step (.plain done) =
      .plain (done ++ [character]) := by
  unfold escapeAttribute
  split_ifs with hquote hreturn hfeed htab
  · subst hquote; rfl
  · subst hreturn; rfl
  · subst hfeed; rfl
  · subst htab; rfl
  · exact foldl_escapeText done character

/-- Characters that are read back one by one are read back together. -/
theorem unescapeXml_flatMap {escape : Char → List Char}
    (hescape : ∀ done character,
      (escape character).foldl Unescaped.step (.plain done) = .plain (done ++ [character]))
    (text : List Char) : unescapeXml (text.flatMap escape) = some (String.ofList text) := by
  have hfold (done : List Char) :
      (text.flatMap escape).foldl Unescaped.step (.plain done) = .plain (done ++ text) := by
    induction text generalizing done with
    | nil => rw [List.append_nil]; rfl
    | cons character text ih =>
      rw [List.flatMap_cons, List.foldl_append, hescape, ih, List.append_assoc,
        List.singleton_append]
  rw [unescapeXml, hfold, List.nil_append]

/-- Characters that are no line ends stay as they are. -/
theorem normalizeFrom_append {word : List Char} (hnonempty : word ≠ [])
    (hword : ∀ character ∈ word, character ≠ '\r' ∧ character ≠ '\n') (afterReturn : Bool) :
    normalizeFrom afterReturn (word ++ text) = word ++ normalizeFrom false text := by
  induction word generalizing afterReturn with
  | nil => exact absurd rfl hnonempty
  | cons character word ih =>
    obtain ⟨⟨hreturn, hfeed⟩, hword⟩ := List.forall_mem_cons.1 hword
    rw [List.cons_append, normalizeFrom, if_neg hreturn, if_neg fun h ↦ hfeed h.2]
    by_cases hempty : word = []
    · rw [hempty]
      rfl
    · rw [ih hempty hword]
      rfl

/-- Line ends are not escaped in a text. -/
theorem normalizeFrom_flatMap (afterReturn : Bool) (text : List Char) :
    normalizeFrom afterReturn (text.flatMap escapeText) =
      (normalizeFrom afterReturn text).flatMap escapeText := by
  induction text generalizing afterReturn with
  | nil => rfl
  | cons character text ih =>
    rw [List.flatMap_cons, normalizeFrom]
    by_cases hreturn : character = '\r'
    · subst hreturn
      rw [if_pos rfl, List.flatMap_cons, ← ih]
      rfl
    rw [if_neg hreturn]
    by_cases hfeed : character = '\n'
    · subst hfeed
      cases afterReturn with
      | true =>
        rw [if_pos ⟨rfl, rfl⟩, ← ih]
        rfl
      | false =>
        rw [if_neg (fun h ↦ Bool.false_ne_true h.1), List.flatMap_cons, ← ih]
        rfl
    · have hplain : escapeText character ≠ [] ∧
          ∀ other ∈ escapeText character, other ≠ '\r' ∧ other ≠ '\n' := by
        unfold escapeText
        split_ifs
        · exact ⟨by decide, forall_mem_of_all (by decide)⟩
        · exact ⟨by decide, forall_mem_of_all (by decide)⟩
        · exact ⟨by decide, forall_mem_of_all (by decide)⟩
        · exact ⟨List.cons_ne_nil _ _, List.forall_mem_singleton.2 ⟨hreturn, hfeed⟩⟩
      rw [if_neg (fun h ↦ hfeed h.2), List.flatMap_cons, normalizeFrom_append hplain.1 hplain.2, ih]

theorem ne_less_of_mem_escapeText : ∀ other ∈ escapeText character, other ≠ '<' := by
  unfold escapeText
  split_ifs with hand hless hgreater
  · exact forall_mem_of_all (by decide)
  · exact forall_mem_of_all (by decide)
  · exact forall_mem_of_all (by decide)
  · exact List.forall_mem_singleton.2 hless

theorem ne_quote_of_mem_escapeAttribute : ∀ other ∈ escapeAttribute character, other ≠ '"' := by
  unfold escapeAttribute
  split_ifs with hquote hreturn hfeed htab
  · exact forall_mem_of_all (by decide)
  · exact forall_mem_of_all (by decide)
  · exact forall_mem_of_all (by decide)
  · exact forall_mem_of_all (by decide)
  · unfold escapeText
    split_ifs with hand hless hgreater
    · exact forall_mem_of_all (by decide)
    · exact forall_mem_of_all (by decide)
    · exact forall_mem_of_all (by decide)
    · exact List.forall_mem_singleton.2 hquote

/-- The part of a text in front of a character that stops it. -/
theorem takeWhile_append_stop {kept : Char → Bool} {first rest : List Char} {stop : Char}
    (hfirst : ∀ character ∈ first, kept character = true) (hstop : kept stop = false) :
    (first ++ stop :: rest).takeWhile kept = first := by
  rw [List.takeWhile_append_of_pos hfirst, List.takeWhile_cons_of_neg (by simp [hstop]),
    List.append_nil]

theorem dropWhile_append_stop {kept : Char → Bool} {first rest : List Char} {stop : Char}
    (hfirst : ∀ character ∈ first, kept character = true) (hstop : kept stop = false) :
    (first ++ stop :: rest).dropWhile kept = stop :: rest := by
  rw [List.dropWhile_append_of_pos hfirst, List.dropWhile_cons_of_neg (by simp [hstop])]

end Characters

/-! ### Elements that were written -/

/-- Whether a text can be the name of an element or of an attribute. -/
def isXmlName (name : String) : Bool :=
  name.toList ≠ [] && name.toList.all isNameCharacter

mutual

/-- Whether all names of an element are names. -/
def XmlElement.wellNamed : XmlElement → Bool
  | .node name attributes _ children =>
    isXmlName name && attributes.all (fun entry ↦ isXmlName entry.1) && wellNamedElements children

def wellNamedElements : List XmlElement → Bool
  | [] => true
  | element :: elements => element.wellNamed && wellNamedElements elements

end

mutual

/-- The element with the line ends of its texts as line feeds. -/
def XmlElement.normalized : XmlElement → XmlElement
  | .node name attributes text children =>
    .node name attributes (normalizeLineEnds text) (normalizedElements children)

def normalizedElements : List XmlElement → List XmlElement
  | [] => []
  | element :: elements => element.normalized :: normalizedElements elements

end

section Lists

variable {elements : List XmlElement}

theorem wellNamedElements_iff :
    wellNamedElements elements = true ↔ ∀ element ∈ elements, element.wellNamed = true := by
  induction elements with
  | nil => exact iff_of_true rfl fun _ hmem ↦ absurd hmem List.not_mem_nil
  | cons element elements ih =>
    rw [wellNamedElements, Bool.and_eq_true_iff, ih, List.forall_mem_cons]

theorem normalizedElements_eq_map (elements : List XmlElement) :
    normalizedElements elements = elements.map XmlElement.normalized := by
  induction elements with
  | nil => rfl
  | cons element elements ih => rw [normalizedElements, ih, List.map_cons]

theorem name_normalized (element : XmlElement) : element.normalized.name = element.name := by
  cases element
  rfl

theorem attributes_normalized (element : XmlElement) :
    element.normalized.attributes = element.attributes := by
  cases element
  rfl

theorem children_normalized (element : XmlElement) :
    element.normalized.children = element.children.map XmlElement.normalized := by
  cases element
  exact normalizedElements_eq_map _

/-- A text without line ends is normal. -/
theorem normalizeLineEnds_of_forall {text : String}
    (htext : ∀ character ∈ text.toList, character ≠ '\r' ∧ character ≠ '\n') :
    normalizeLineEnds text = text := by
  rw [normalizeLineEnds]
  by_cases hempty : text.toList = []
  · rw [hempty]
    exact (String.toList_eq_nil_iff.1 hempty).symm
  · have hsame := @normalizeFrom_append [] _ hempty htext false
    rw [List.append_nil] at hsame
    rw [hsame]
    exact (congrArg String.ofList (List.append_nil _)).trans (String.ofList_toList)

end Lists

section Elements

variable {name : String} {tail rest : List Char}

theorem isXmlName_iff : isXmlName name = true ↔
    name.toList ≠ [] ∧ ∀ character ∈ name.toList, isNameCharacter character = true := by
  rw [isXmlName, Bool.and_eq_true_iff, decide_eq_true_eq, List.all_eq_true]

/-- A name starts with none of the characters that end a tag. -/
theorem exists_head (hname : isXmlName name = true) : ∃ first later, name.toList = first :: later ∧
    first ≠ ' ' ∧ first ≠ '/' ∧ first ≠ '>' := by
  obtain ⟨hnonempty, hall⟩ := isXmlName_iff.1 hname
  obtain ⟨first, later, htext⟩ := List.exists_cons_of_ne_nil hnonempty
  have hfirst := hall first (by rw [htext]; exact List.mem_cons_self)
  refine ⟨first, later, htext, ?_, ?_, ?_⟩ <;>
    · rintro rfl
      exact absurd hfirst (by decide)

/-- An attribute is read in front of others. -/
theorem readAttributes_cons {value : String} (hname : isXmlName name = true) (fuel : ℕ)
    (text : List Char) :
    readAttributes (fuel + 1) (writeAttribute (name, value) ++ text) =
      (readAttributes fuel text).bind fun later ↦ some ((name, value) :: later.1, later.2) := by
  obtain ⟨first, later, hletters, hspace, hslash, hgreater⟩ := exists_head hname
  obtain ⟨-, hall⟩ := isXmlName_iff.1 hname
  have hwritten : writeAttribute (name, value) ++ text = ' ' :: (name.toList ++
      '=' :: '"' :: (value.toList.flatMap escapeAttribute ++ '"' :: text)) := by
    simp [writeAttribute]
  have hquote : ∀ character ∈ value.toList.flatMap escapeAttribute,
      decide (character ≠ '"') = true := by
    intro character hcharacter
    obtain ⟨_, -, hescaped⟩ := List.mem_flatMap.1 hcharacter
    exact decide_eq_true (ne_quote_of_mem_escapeAttribute _ hescaped)
  have hskipped : (writeAttribute (name, value) ++ text).dropWhile (· = ' ') = name.toList ++
      '=' :: '"' :: (value.toList.flatMap escapeAttribute ++ '"' :: text) := by
    rw [hwritten, List.dropWhile_cons_of_pos (by decide), hletters, List.cons_append,
      List.dropWhile_cons_of_neg (by simpa using hspace)]
  have htake : (name.toList ++ '=' :: '"' :: (value.toList.flatMap escapeAttribute ++
      '"' :: text)).takeWhile isNameCharacter = name.toList :=
    takeWhile_append_stop hall (by decide)
  have hdrop : (name.toList ++ '=' :: '"' :: (value.toList.flatMap escapeAttribute ++
      '"' :: text)).dropWhile isNameCharacter = _ :=
    dropWhile_append_stop hall (by decide)
  rw [readAttributes, hskipped]
  split
  · rename_i heq
    rw [hletters] at heq
    exact absurd (List.cons.inj heq).1 hslash
  · rename_i heq
    rw [hletters] at heq
    exact absurd (List.cons.inj heq).1 hgreater
  · rw [htake, hdrop]
    show (unescapeXml _).bind _ = _
    rw [takeWhile_append_stop hquote (by decide), dropWhile_append_stop hquote (by decide),
      unescapeXml_flatMap foldl_escapeAttribute, String.ofList_toList, String.ofList_toList]
    rfl

/-- Attributes are read in front of the end of their tag. -/
theorem readAttributes_flatMap (hend : ∀ fuel, readAttributes (fuel + 1) rest = some ([], tail))
    {attributes : List (String × String)}
    (hnames : attributes.all (fun entry ↦ isXmlName entry.1) = true) {fuel : ℕ}
    (hfuel : attributes.length < fuel) :
    readAttributes fuel (attributes.flatMap writeAttribute ++ rest) = some (attributes, tail) := by
  induction attributes generalizing fuel with
  | nil =>
    obtain ⟨fuel, rfl⟩ := Nat.exists_eq_succ_of_ne_zero (Nat.ne_of_gt hfuel)
    exact hend fuel
  | cons entry attributes ih =>
    obtain ⟨fuel, rfl⟩ := Nat.exists_eq_succ_of_ne_zero (Nat.ne_of_gt (Nat.zero_lt_of_lt hfuel))
    rw [List.all_cons, Bool.and_eq_true_iff] at hnames
    rw [List.flatMap_cons, List.append_assoc, readAttributes_cons hnames.1,
      ih hnames.2 (Nat.lt_of_succ_lt_succ hfuel), Option.bind_some]

theorem readEndTag_name (hname : isXmlName name = true) (rest : List Char) :
    readEndTag name.toList ('<' :: '/' :: (name.toList ++ '>' :: rest)) = some rest := by
  obtain ⟨-, hall⟩ := isXmlName_iff.1 hname
  rw [readEndTag, takeWhile_append_stop hall (by decide), dropWhile_append_stop hall (by decide),
    if_pos rfl]
  rfl

theorem length_le_flatMap (attributes : List (String × String)) :
    attributes.length ≤ (attributes.flatMap writeAttribute).length := by
  induction attributes with
  | nil => exact Nat.le_refl 0
  | cons entry attributes ih =>
    rw [List.flatMap_cons, List.length_append, List.length_cons]
    have hwritten : 0 < (writeAttribute entry).length := by simp [writeAttribute]
    omega

/-- The start of a tag is read up to its end. -/
theorem readTag (hend : ∀ fuel, readAttributes (fuel + 1) rest = some ([], tail))
    (hname : isXmlName name = true) {attributes : List (String × String)}
    (hnames : attributes.all (fun entry ↦ isXmlName entry.1) = true)
    (hstop : ∃ stop later, rest = stop :: later ∧ isNameCharacter stop = false) :
    (name.toList ++ (attributes.flatMap writeAttribute ++ rest)).takeWhile isNameCharacter =
        name.toList ∧
      readAttributes ((name.toList ++ (attributes.flatMap writeAttribute ++ rest)).length + 1)
          ((name.toList ++ (attributes.flatMap writeAttribute ++ rest)).dropWhile
            isNameCharacter) = some (attributes, tail) := by
  obtain ⟨-, hall⟩ := isXmlName_iff.1 hname
  have hstops : ∃ stop later, attributes.flatMap writeAttribute ++ rest = stop :: later ∧
      isNameCharacter stop = false := by
    cases attributes with
    | nil => exact hstop
    | cons entry attributes => exact ⟨' ', _, rfl, by decide⟩
  obtain ⟨stop, later, hlater, hstop⟩ := hstops
  have hlength := length_le_flatMap attributes
  constructor
  · rw [hlater, takeWhile_append_stop hall hstop]
  · rw [hlater, dropWhile_append_stop hall hstop, ← hlater]
    refine readAttributes_flatMap hend hnames ?_
    simp only [List.length_append]
    omega

/-- An element starts with its tag. -/
theorem exists_tag (element : XmlElement) : ∃ later, element.write = '<' :: element.name.toList ++
    later := by
  cases element with
  | node name attributes text children =>
    rw [XmlElement.write, List.append_assoc]
    exact ⟨_, rfl⟩

theorem isXmlName_of_wellNamed {element : XmlElement} (hnamed : element.wellNamed = true) :
    isXmlName element.name = true := by
  cases element with
  | node name attributes text children =>
    rw [XmlElement.wellNamed, Bool.and_eq_true_iff, Bool.and_eq_true_iff] at hnamed
    exact hnamed.1.1

/-- What follows the text of an element starts with a tag. -/
theorem exists_less (elements : List XmlElement) (rest : List Char) :
    ∃ later, writeElements elements ++ '<' :: rest = '<' :: later := by
  cases elements with
  | nil => exact ⟨rest, rfl⟩
  | cons element elements =>
    obtain ⟨later, hwritten⟩ := exists_tag element
    rw [writeElements, hwritten]
    exact ⟨_, rfl⟩

mutual

/-- A written element is read back, up to its line ends. -/
theorem readElement_write (element : XmlElement) (hnamed : element.wellNamed = true) {fuel : ℕ}
    (hfuel : element.write.length ≤ fuel) (rest : List Char) :
    readElement fuel (element.write ++ rest) = some (element.normalized, rest) := by
  cases element with
  | node name attributes text children =>
    rw [XmlElement.wellNamed, Bool.and_eq_true_iff, Bool.and_eq_true_iff] at hnamed
    obtain ⟨⟨hname, hnames⟩, hchildren⟩ := hnamed
    rw [XmlElement.write] at hfuel ⊢
    rw [XmlElement.normalized]
    by_cases hempty : (text.isEmpty && children.isEmpty) = true
    · rw [if_pos hempty] at hfuel ⊢
      obtain ⟨fuel, rfl⟩ : ∃ smaller, fuel = smaller + 1 :=
        ⟨fuel - 1, by simp only [List.length_append, List.length_cons] at hfuel; omega⟩
      obtain ⟨htext, hnone⟩ := Bool.and_eq_true_iff.1 hempty
      obtain rfl := String.isEmpty_iff.1 htext
      obtain rfl := List.isEmpty_iff.1 hnone
      obtain ⟨htag, hread⟩ := @readTag name ('/' :: '>' :: rest) (' ' :: '/' :: '>' :: rest)
        (fun _ ↦ rfl) hname attributes hnames ⟨' ', _, rfl, by decide⟩
      have hwritten : '<' :: name.toList ++ attributes.flatMap writeAttribute ++
          [' ', '/', '>'] ++ rest = '<' :: (name.toList ++ (attributes.flatMap writeAttribute ++
            ' ' :: '/' :: '>' :: rest)) := by simp
      rw [hwritten, readElement, htag]
      show (readAttributes _ _).bind _ = _
      rw [hread, Option.bind_some, String.ofList_toList]
      rfl
    · rw [if_neg hempty] at hfuel ⊢
      obtain ⟨fuel, rfl⟩ : ∃ smaller, fuel = smaller + 1 :=
        ⟨fuel - 1, by simp only [List.length_append, List.length_cons] at hfuel; omega⟩
      have hsmaller : (writeElements children).length < fuel := by
        simp only [List.length_append, List.length_cons, List.length_nil] at hfuel
        omega
      have hinner := readElements_write children hchildren hsmaller (name.toList ++ '>' :: rest)
      obtain ⟨later, hlater⟩ := exists_less children ('/' :: (name.toList ++ '>' :: rest))
      obtain ⟨htag, hread⟩ := @readTag name ('>' :: (text.toList.flatMap escapeText ++
          '<' :: later)) ('>' :: (text.toList.flatMap escapeText ++ '<' :: later)) (fun _ ↦ rfl)
        hname attributes hnames ⟨'>', _, rfl, by decide⟩
      have hwritten : '<' :: name.toList ++ attributes.flatMap writeAttribute ++
          ('>' :: text.toList.flatMap escapeText ++ writeElements children ++
            '<' :: '/' :: name.toList ++ ['>']) ++ rest =
          '<' :: (name.toList ++ (attributes.flatMap writeAttribute ++
            '>' :: (text.toList.flatMap escapeText ++ '<' :: later))) := by
        rw [← hlater]
        simp
      have hless : ∀ character ∈ text.toList.flatMap escapeText,
          decide (character ≠ '<') = true := by
        intro character hcharacter
        obtain ⟨_, -, hescaped⟩ := List.mem_flatMap.1 hcharacter
        exact decide_eq_true (ne_less_of_mem_escapeText _ hescaped)
      rw [hwritten, readElement, htag]
      show (readAttributes _ _).bind _ = _
      rw [hread, Option.bind_some]
      show (unescapeXml _).bind _ = _
      rw [takeWhile_append_stop hless (by decide), dropWhile_append_stop hless (by decide),
        normalizeFrom_flatMap, unescapeXml_flatMap foldl_escapeText, Option.bind_some]
      show (readElements _ _).bind _ = _
      rw [← hlater, hinner, Option.bind_some]
      show (readEndTag _ _).bind _ = _
      rw [readEndTag_name hname, Option.bind_some, String.ofList_toList]
      rfl

theorem readElements_write (elements : List XmlElement)
    (hnamed : wellNamedElements elements = true) {fuel : ℕ}
    (hfuel : (writeElements elements).length < fuel) (rest : List Char) :
    readElements fuel (writeElements elements ++ '<' :: '/' :: rest) =
      some (normalizedElements elements, '<' :: '/' :: rest) := by
  obtain ⟨fuel, rfl⟩ := Nat.exists_eq_succ_of_ne_zero (Nat.ne_of_gt (Nat.zero_lt_of_lt hfuel))
  cases elements with
  | nil => rfl
  | cons element elements =>
    rw [wellNamedElements, Bool.and_eq_true_iff] at hnamed
    rw [writeElements, List.length_append] at hfuel
    obtain ⟨tag, hwritten⟩ := exists_tag element
    obtain ⟨first, later, hletters, -, hslash, -⟩ := exists_head (isXmlName_of_wellNamed hnamed.1)
    have hlength : 0 < element.write.length := by
      rw [hwritten]
      exact Nat.succ_pos _
    have hfirst := readElement_write element hnamed.1 (show element.write.length ≤ fuel by omega)
      (writeElements elements ++ '<' :: '/' :: rest)
    have hlater := readElements_write elements hnamed.2
      (show (writeElements elements).length < fuel by omega) rest
    rw [writeElements, List.append_assoc, normalizedElements, readElements]
    · show (readElement _ _).bind _ = _
      rw [hfirst, Option.bind_some]
      show (readElements _ _).bind _ = _
      rw [hlater, Option.bind_some]
      rfl
    · intro other heq
      rw [hwritten, hletters] at heq
      exact absurd (List.cons.inj (List.cons.inj heq).2).1 hslash

end

/-- A written element is read back from its text, up to its line ends. -/
theorem readXml_writeXml {element : XmlElement} (hnamed : element.wellNamed = true) :
    readXml (writeXml element) = some element.normalized := by
  have hread := readElement_write element hnamed (Nat.le_succ element.write.length) []
  rw [List.append_nil] at hread
  rw [readXml, writeXml, String.toList_ofList, hread]

end Elements

end HilRig.Foundations
