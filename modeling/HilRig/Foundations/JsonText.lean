import HilRig.Foundations.Numerals

/-!
# JSON texts

A `JsonDocument` is written with the separators and the indentation of a `JsonLayout`, which also
says whether characters outside ASCII are escaped; those beyond 16 bits are then written as a pair
of surrogates. A text is read in two passes over its characters: `JsonScanner` cuts it into tokens,
and `JsonParse` assembles them on a stack. Every written document is read back as it was, whatever
its layout (`readJson_writeJson`), so a text determines its document.

Numbers and the constants are kept as the texts they are written as.
-/

set_option autoImplicit false
set_option relaxedAutoImplicit false

namespace HilRig.Foundations

/-! ### Documents -/

/-- A character of a number or a constant. -/
def isLiteralCharacter (character : Char) : Bool :=
  character.isAlphanum || character = '+' || character = '-' || character = '.'

/-- Whether a text can stand for a number or a constant. -/
def isLiteral (text : List Char) : Bool :=
  !text.isEmpty && text.all isLiteralCharacter

/-- The text of a number or a constant. -/
structure JsonLiteral where
  text : List Char
  wellFormed : isLiteral text = true
  deriving DecidableEq

/-- A JSON document; the members of an object are in the order they are written in. -/
inductive JsonDocument
  | literal (literal : JsonLiteral)
  | string (value : String)
  | array (items : List JsonDocument)
  | object (members : List (String × JsonDocument))

/-! ### Writing -/

/-- Spaces after the separators, the indentation of the lines of a document, and whether its text is
printable ASCII only. -/
structure JsonLayout where
  itemSpaces : ℕ
  keySpaces : ℕ
  indent : Option ℕ
  asciiOnly : Bool := false

def spaces (count : ℕ) : List Char :=
  List.replicate count ' '

/-- The start of a new line at a level, when lines are indented. -/
def JsonLayout.newline (layout : JsonLayout) (level : ℕ) : List Char :=
  match layout.indent with
  | none => []
  | some indent => '\n' :: spaces (indent * level)

/-- The escape of a code of 16 bits. -/
def escapeCode (code : ℕ) : List Char :=
  '\\' :: 'u' :: padded 4 (Nat.toDigits 16 code)

/-- A character of a string as it is written. -/
def escapeCharacter (asciiOnly : Bool) (character : Char) : List Char :=
  if character = '"' then ['\\', '"']
  else if character = '\\' then ['\\', '\\']
  else if character = '\n' then ['\\', 'n']
  else if character = '\r' then ['\\', 'r']
  else if character = '\t' then ['\\', 't']
  else if character = '\x08' then ['\\', 'b']
  else if character = '\x0c' then ['\\', 'f']
  else if character.toNat < 0x20 then escapeCode character.toNat
  else if asciiOnly = false ∨ character.toNat < 0x7f then [character]
  else if character.toNat < 0x10000 then escapeCode character.toNat
  else
    escapeCode (0xd800 + (character.toNat - 0x10000) / 0x400) ++
      escapeCode (0xdc00 + (character.toNat - 0x10000) % 0x400)

def writeString (asciiOnly : Bool) (value : String) : List Char :=
  '"' :: value.toList.flatMap (escapeCharacter asciiOnly) ++ ['"']

section Writing

variable (layout : JsonLayout)

mutual

/-- The text of a document at a level of nesting. -/
def JsonDocument.write (level : ℕ) : JsonDocument → List Char
  | .literal literal => literal.text
  | .string value => writeString layout.asciiOnly value
  | .array [] => ['[', ']']
  | .array (item :: items) =>
    '[' :: layout.newline (level + 1) ++ item.write (level + 1) ++ writeItems (level + 1) items ++
      layout.newline level ++ [']']
  | .object [] => ['{', '}']
  | .object ((key, value) :: members) =>
    '{' :: layout.newline (level + 1) ++ writeString layout.asciiOnly key ++
      ':' :: spaces layout.keySpaces ++ value.write (level + 1) ++
        writeMembers (level + 1) members ++ layout.newline level ++ ['}']

/-- The later items of an array, each behind a separator. -/
def writeItems (level : ℕ) : List JsonDocument → List Char
  | [] => []
  | item :: items =>
    ',' :: spaces layout.itemSpaces ++ layout.newline level ++ item.write level ++
      writeItems level items

/-- The later members of an object, each behind a separator. -/
def writeMembers (level : ℕ) : List (String × JsonDocument) → List Char
  | [] => []
  | (key, value) :: members =>
    ',' :: spaces layout.itemSpaces ++ layout.newline level ++ writeString layout.asciiOnly key ++
      ':' :: spaces layout.keySpaces ++ value.write level ++ writeMembers level members

end

/-- The text of a whole document. -/
def writeJson (document : JsonDocument) : String :=
  String.ofList (document.write layout 0)

end Writing

/-! ### Scanning -/

inductive JsonToken
  | openArray
  | closeArray
  | openObject
  | closeObject
  | comma
  | colon
  | literal (text : List Char)
  | string (value : List Char)
  deriving DecidableEq

/-- What a scanner is in the middle of. -/
inductive JsonMode
  | between
  | literal (text : List Char)
  | string (value : List Char)
  | escape (value : List Char)
  | unicode (value digits : List Char)
  | surrogate (value : List Char) (high : ℕ) (escape : List Char)
  | failed
  deriving DecidableEq

/-- The tokens of the text so far. -/
structure JsonScanner where
  tokens : List JsonToken
  mode : JsonMode
  deriving DecidableEq

/-- The token of a character that is one by itself. -/
def punctuation (character : Char) : Option JsonToken :=
  if character = '[' then some .openArray
  else if character = ']' then some .closeArray
  else if character = '{' then some .openObject
  else if character = '}' then some .closeObject
  else if character = ',' then some .comma
  else if character = ':' then some .colon
  else none

def isJsonSpace (character : Char) : Bool :=
  character = ' ' || character = '\n' || character = '\r' || character = '\t'

/-- The character that a backslash and another one stand for. -/
def unescape (character : Char) : Option Char :=
  if character = '"' then some '"'
  else if character = '\\' then some '\\'
  else if character = '/' then some '/'
  else if character = 'n' then some '\n'
  else if character = 'r' then some '\r'
  else if character = 't' then some '\t'
  else if character = 'b' then some '\x08'
  else if character = 'f' then some '\x0c'
  else none

/-- The character with a code of four hexadecimal digits; half of a surrogate pair is none. -/
def characterOfCode (digits : List Char) : Option Char :=
  (readNumeral 16 digits).bind fun code ↦
    if code.isValidChar then some (Char.ofNat code) else none

/-- The upper ten bits that the first half of a surrogate pair carries. -/
def highSurrogate (digits : List Char) : Option ℕ :=
  (readNumeral 16 digits).bind fun code ↦
    if 0xd800 ≤ code ∧ code < 0xdc00 then some (code - 0xd800) else none

/-- The character of a surrogate pair, from its upper bits and the escape of its second half. -/
def characterOfPair (high : ℕ) (escape : List Char) : Option Char :=
  match escape with
  | '\\' :: 'u' :: digits => (readNumeral 16 digits).bind fun code ↦
    if 0xdc00 ≤ code ∧ code < 0xe000 then
      some (Char.ofNat (0x10000 + high * 0x400 + (code - 0xdc00)))
    else none
  | _ => none

namespace JsonScanner

/-- The scanner after one more token. -/
def push (scanner : JsonScanner) (token : JsonToken) : JsonScanner :=
  ⟨scanner.tokens ++ [token], .between⟩

/-- The scanner with a pending literal as its last token. -/
def settle (scanner : JsonScanner) : JsonScanner :=
  match scanner.mode with
  | .literal text => scanner.push (.literal text)
  | _ => scanner

/-- A character between two tokens. -/
def start (scanner : JsonScanner) (character : Char) : JsonScanner :=
  if isJsonSpace character then scanner
  else if character = '"' then ⟨scanner.tokens, .string []⟩
  else if isLiteralCharacter character then ⟨scanner.tokens, .literal [character]⟩
  else
    match punctuation character with
    | some token => scanner.push token
    | none => ⟨scanner.tokens, .failed⟩

def step (scanner : JsonScanner) (character : Char) : JsonScanner :=
  match scanner.mode with
  | .between => scanner.start character
  | .literal text =>
    if isLiteralCharacter character then ⟨scanner.tokens, .literal (text ++ [character])⟩
    else scanner.settle.start character
  | .string value =>
    if character = '"' then scanner.push (.string value)
    else if character = '\\' then ⟨scanner.tokens, .escape value⟩
    else if character.toNat < 0x20 then ⟨scanner.tokens, .failed⟩
    else ⟨scanner.tokens, .string (value ++ [character])⟩
  | .escape value =>
    if character = 'u' then ⟨scanner.tokens, .unicode value []⟩
    else
      match unescape character with
      | some escaped => ⟨scanner.tokens, .string (value ++ [escaped])⟩
      | none => ⟨scanner.tokens, .failed⟩
  | .unicode value digits =>
    if digits.length < 3 then ⟨scanner.tokens, .unicode value (digits ++ [character])⟩
    else
      match characterOfCode (digits ++ [character]), highSurrogate (digits ++ [character]) with
      | some escaped, _ => ⟨scanner.tokens, .string (value ++ [escaped])⟩
      | none, some high => ⟨scanner.tokens, .surrogate value high []⟩
      | none, none => ⟨scanner.tokens, .failed⟩
  | .surrogate value high escape =>
    if escape.length < 5 then ⟨scanner.tokens, .surrogate value high (escape ++ [character])⟩
    else
      match characterOfPair high (escape ++ [character]) with
      | some escaped => ⟨scanner.tokens, .string (value ++ [escaped])⟩
      | none => ⟨scanner.tokens, .failed⟩
  | .failed => scanner

/-- The scanner after a text. -/
def scan (scanner : JsonScanner) (text : List Char) : JsonScanner :=
  text.foldl step scanner

end JsonScanner

/-- The tokens of a text. -/
def tokensOf (text : List Char) : Option (List JsonToken) :=
  let scanner := (JsonScanner.scan ⟨[], .between⟩ text).settle
  if scanner.mode = .between then some scanner.tokens else none

/-! ### Assembling -/

/-- An array or an object of which some members are complete. -/
inductive JsonFrame
  | array (items : List JsonDocument)
  | object (members : List (String × JsonDocument)) (key : String)

/-- What may follow the tokens so far. -/
inductive JsonParse
  | expectValue (stack : List JsonFrame)
  | expectItem (stack : List JsonFrame)
  | expectMember (stack : List JsonFrame)
  | expectName (stack : List JsonFrame) (members : List (String × JsonDocument))
  | expectColon (stack : List JsonFrame) (members : List (String × JsonDocument)) (key : String)
  | complete (stack : List JsonFrame) (document : JsonDocument)
  | failed

namespace JsonParse

/-- A token where a value starts. -/
def startValue (stack : List JsonFrame) (token : JsonToken) : JsonParse :=
  match token with
  | .literal text =>
    if wellFormed : isLiteral text = true then complete stack (.literal ⟨text, wellFormed⟩)
    else failed
  | .string value => complete stack (.string (String.ofList value))
  | .openArray => expectItem stack
  | .openObject => expectMember stack
  | _ => failed

/-- A token where the name of a member starts. -/
def startName (stack : List JsonFrame) (members : List (String × JsonDocument))
    (token : JsonToken) : JsonParse :=
  match token with
  | .string key => expectColon stack members (String.ofList key)
  | _ => failed

/-- A token after a complete value inside an array or an object. -/
def continueFrame (frame : JsonFrame) (stack : List JsonFrame) (document : JsonDocument)
    (token : JsonToken) : JsonParse :=
  match frame, token with
  | .array items, .comma => expectValue (.array (items ++ [document]) :: stack)
  | .array items, .closeArray => complete stack (.array (items ++ [document]))
  | .object members key, .comma => expectName stack (members ++ [(key, document)])
  | .object members key, .closeObject => complete stack (.object (members ++ [(key, document)]))
  | _, _ => failed

def step (parse : JsonParse) (token : JsonToken) : JsonParse :=
  match parse with
  | expectValue stack => startValue stack token
  | expectItem stack =>
    if token = .closeArray then complete stack (.array [])
    else startValue (.array [] :: stack) token
  | expectMember stack =>
    if token = .closeObject then complete stack (.object []) else startName stack [] token
  | expectName stack members => startName stack members token
  | expectColon stack members key =>
    if token = .colon then expectValue (.object members key :: stack) else failed
  | complete (frame :: stack) document => continueFrame frame stack document token
  | complete [] _ => failed
  | failed => failed

/-- The document of a complete text. -/
def document (parse : JsonParse) : Option JsonDocument :=
  match parse with
  | complete [] document => some document
  | _ => none

end JsonParse

/-- The document of a text. -/
def readJson (text : String) : Option JsonDocument := do
  let tokens ← tokensOf text.toList
  (tokens.foldl JsonParse.step (.expectValue [])).document

/-! ### Scanning what was written -/

section Scanning

namespace JsonScanner

variable {scanner : JsonScanner} {first second : List Char}

theorem scan_append : scanner.scan (first ++ second) = (scanner.scan first).scan second :=
  List.foldl_append

theorem scan_cons (character : Char) (text : List Char) :
    scanner.scan (character :: text) = (scanner.step character).scan text :=
  rfl

end JsonScanner

/-- A text adds some tokens, of which the last may still be pending. -/
def Scans (text : List Char) (tokens : List JsonToken) : Prop :=
  ∀ done, (JsonScanner.scan ⟨done, .between⟩ text).settle = ⟨done ++ tokens, .between⟩

/-- A text that does not continue a literal in front of it. -/
def Separates (text : List Char) : Prop :=
  ∀ character ∈ text.head?, isLiteralCharacter character = false

variable {first second text : List Char} {tokens later : List JsonToken} {character : Char}

theorem separates_nil : Separates [] := fun _ hcharacter ↦ absurd hcharacter (Option.not_mem_none _)

theorem separates_cons (hcharacter : isLiteralCharacter character = false) :
    Separates (character :: text) := by
  intro other hother
  rwa [← Option.mem_some.1 hother]

theorem Separates.append (hfirst : Separates first) (hsecond : Separates second) :
    Separates (first ++ second) := by
  by_cases hempty : first = []
  · rwa [hempty, List.nil_append]
  · rwa [Separates, List.head?_append_of_ne_nil _ hempty]

/-- What follows a pending literal is scanned as if the literal were complete. -/
theorem settle_scan {scanner : JsonScanner} (hsettled : scanner.settle = ⟨tokens, .between⟩)
    (hseparates : Separates text) :
    (scanner.scan text).settle = (JsonScanner.scan ⟨tokens, .between⟩ text).settle := by
  obtain ⟨done, mode⟩ := scanner
  cases mode with
  | literal pending =>
    have htokens : done ++ [.literal pending] = tokens := congrArg JsonScanner.tokens hsettled
    subst htokens
    cases text with
    | nil => rfl
    | cons character text =>
      have hother : isLiteralCharacter character = false :=
        hseparates character (Option.mem_some.2 rfl)
      rw [JsonScanner.scan_cons, JsonScanner.scan_cons, JsonScanner.step, hother]
      rfl
  | _ => rw [← hsettled]; rfl

theorem scans_nil : Scans [] [] := by
  intro done
  rw [List.append_nil]
  rfl

theorem Scans.append (hfirst : Scans first tokens) (hsecond : Scans second later)
    (hseparates : Separates second) : Scans (first ++ second) (tokens ++ later) := by
  intro done
  rw [JsonScanner.scan_append, settle_scan (hfirst done) hseparates, hsecond, List.append_assoc]

/-- A character that is a token. -/
theorem Scans.punctuation (htext : Scans text tokens) (character : Char) (token : JsonToken)
    (hstart : ∀ done, JsonScanner.start ⟨done, .between⟩ character = ⟨done ++ [token], .between⟩) :
    Scans (character :: text) (token :: tokens) := by
  intro done
  rw [JsonScanner.scan_cons, JsonScanner.step, hstart, htext, List.append_assoc,
    List.singleton_append]

/-- White space between tokens. -/
theorem Scans.blank {blank : List Char} (htext : Scans text tokens)
    (hblank : ∀ character ∈ blank, isJsonSpace character = true) :
    Scans (blank ++ text) tokens := by
  intro done
  induction blank with
  | nil => exact htext done
  | cons character blank ih =>
    obtain ⟨hcharacter, hblank⟩ := List.forall_mem_cons.1 hblank
    rw [List.cons_append, JsonScanner.scan_cons, JsonScanner.step, JsonScanner.start,
      if_pos hcharacter]
    exact ih hblank

theorem isJsonSpace_of_isLiteralCharacter (hliteral : isLiteralCharacter character = true) :
    isJsonSpace character = false := by
  by_contra hspace
  simp only [isJsonSpace, Bool.not_eq_false, Bool.or_eq_true, decide_eq_true_eq] at hspace
  rcases hspace with ((rfl | rfl) | rfl) | rfl <;> exact absurd hliteral (by decide)

theorem scan_literal {done : List JsonToken} (pending : List Char)
    (htext : ∀ character ∈ text, isLiteralCharacter character = true) :
    JsonScanner.scan ⟨done, .literal pending⟩ text = ⟨done, .literal (pending ++ text)⟩ := by
  induction text generalizing pending with
  | nil => rw [List.append_nil]; rfl
  | cons character text ih =>
    obtain ⟨hcharacter, htext⟩ := List.forall_mem_cons.1 htext
    have hstep : JsonScanner.step ⟨done, .literal pending⟩ character =
        ⟨done, .literal (pending ++ [character])⟩ := if_pos hcharacter
    rw [JsonScanner.scan_cons, hstep, ih _ htext, List.append_assoc, List.singleton_append]

theorem scans_literal (literal : JsonLiteral) : Scans literal.text [.literal literal.text] := by
  obtain ⟨text, hwellFormed⟩ := literal
  cases text with
  | nil => cases hwellFormed
  | cons character text =>
    have hall := List.all_eq_true.1 ((Bool.and_eq_true_iff.1 hwellFormed).2)
    obtain ⟨hcharacter, htext⟩ := List.forall_mem_cons.1 hall
    have hquote : character ≠ '"' := fun hquote ↦ absurd (hquote ▸ hcharacter) (by decide)
    have hspace : ¬isJsonSpace character = true := by
      rw [isJsonSpace_of_isLiteralCharacter hcharacter]
      exact Bool.false_ne_true
    intro done
    rw [JsonScanner.scan_cons, JsonScanner.step, JsonScanner.start, if_neg hspace, if_neg hquote,
      if_pos hcharacter, scan_literal _ htext]
    rfl

/-- The code of a control character is read back as the character. -/
theorem characterOfCode_padded (character : Char) :
    characterOfCode (padded 4 (Nat.toDigits 16 character.toNat)) = some character := by
  rw [characterOfCode, readNumeral_padded (by decide) (by decide), Option.bind_some,
    if_pos (show character.toNat.isValidChar from character.valid), Char.ofNat_toNat]

/-- A code of 16 bits has four digits. -/
theorem length_code {code : ℕ} (hcode : code < 0x10000) :
    (padded 4 (Nat.toDigits 16 code)).length = 4 := by
  have hdigits := (Nat.length_toDigits_le_iff (show 1 < 16 by decide) (show 0 < 4 by decide)).2
    (show code < 16 ^ 4 from hcode)
  rw [length_padded]
  omega

/-- Four digits of a code. -/
theorem scan_unicode {done : List JsonToken} {value digits : List Char} {escaped : Char}
    (hlength : digits.length = 4) (hcode : characterOfCode digits = some escaped) :
    JsonScanner.scan ⟨done, .unicode value []⟩ digits = ⟨done, .string (value ++ [escaped])⟩ := by
  obtain ⟨first, second, third, fourth, rfl⟩ := List.length_eq_four.1 hlength
  have hlast : JsonScanner.step ⟨done, .unicode value [first, second, third]⟩ fourth =
      ⟨done, .string (value ++ [escaped])⟩ := by
    simp only [JsonScanner.step, List.length_cons, List.length_nil, List.cons_append,
      List.nil_append, hcode]
    rfl
  exact hlast

/-- Four digits of the first half of a surrogate pair. -/
theorem scan_high {done : List JsonToken} {value digits : List Char} {high : ℕ}
    (hlength : digits.length = 4) (hcode : characterOfCode digits = none)
    (hhigh : highSurrogate digits = some high) :
    JsonScanner.scan ⟨done, .unicode value []⟩ digits = ⟨done, .surrogate value high []⟩ := by
  obtain ⟨first, second, third, fourth, rfl⟩ := List.length_eq_four.1 hlength
  have hlast : JsonScanner.step ⟨done, .unicode value [first, second, third]⟩ fourth =
      ⟨done, .surrogate value high []⟩ := by
    simp only [JsonScanner.step, List.length_cons, List.length_nil, List.cons_append,
      List.nil_append, hcode, hhigh]
    rfl
  exact hlast

/-- The escape of the second half of a surrogate pair. -/
theorem scan_low {done : List JsonToken} {value digits : List Char} {high : ℕ} {escaped : Char}
    (hlength : digits.length = 4)
    (hpair : characterOfPair high ('\\' :: 'u' :: digits) = some escaped) :
    JsonScanner.scan ⟨done, .surrogate value high []⟩ ('\\' :: 'u' :: digits) =
      ⟨done, .string (value ++ [escaped])⟩ := by
  obtain ⟨first, second, third, fourth, rfl⟩ := List.length_eq_four.1 hlength
  have hlast : JsonScanner.step ⟨done, .surrogate value high ['\\', 'u', first, second, third]⟩
      fourth = ⟨done, .string (value ++ [escaped])⟩ := by
    simp only [JsonScanner.step, List.length_cons, List.length_nil, List.cons_append,
      List.nil_append, hpair]
    rfl
  exact hlast

/-- The first half of a surrogate pair is no character. -/
theorem characterOfCode_high {high : ℕ} (hhigh : high < 0x400) :
    characterOfCode (padded 4 (Nat.toDigits 16 (0xd800 + high))) = none := by
  have hinvalid : ¬(0xd800 + high).isValidChar := by
    unfold Nat.isValidChar
    omega
  rw [characterOfCode, readNumeral_padded (by decide) (by decide), Option.bind_some,
    if_neg hinvalid]

theorem highSurrogate_high {high : ℕ} (hhigh : high < 0x400) :
    highSurrogate (padded 4 (Nat.toDigits 16 (0xd800 + high))) = some high := by
  rw [highSurrogate, readNumeral_padded (by decide) (by decide), Option.bind_some,
    if_pos ⟨Nat.le_add_right _ _, by omega⟩, Nat.add_sub_cancel_left]

/-- The two halves of a surrogate pair are the character. -/
theorem characterOfPair_low {high low : ℕ} (hlow : low < 0x400) {character : Char}
    (hcharacter : character.toNat = 0x10000 + high * 0x400 + low) :
    characterOfPair high (escapeCode (0xdc00 + low)) = some character := by
  rw [escapeCode, characterOfPair, readNumeral_padded (by decide) (by decide), Option.bind_some,
    if_pos ⟨Nat.le_add_right _ _, by omega⟩, Nat.add_sub_cancel_left, ← hcharacter,
    Char.ofNat_toNat]

/-- The escapes of a surrogate pair are scanned as its character. -/
theorem scan_pair {done : List JsonToken} {value : List Char} {high low : ℕ} (hhigh : high < 0x400)
    (hlow : low < 0x400) {character : Char}
    (hcharacter : character.toNat = 0x10000 + high * 0x400 + low) :
    JsonScanner.scan ⟨done, .string value⟩
        (escapeCode (0xd800 + high) ++ escapeCode (0xdc00 + low)) =
      ⟨done, .string (value ++ [character])⟩ := by
  have hfirst : JsonScanner.scan ⟨done, .string value⟩ (escapeCode (0xd800 + high)) =
      ⟨done, .surrogate value high []⟩ :=
    scan_high (length_code (by omega)) (characterOfCode_high hhigh) (highSurrogate_high hhigh)
  rw [JsonScanner.scan_append, hfirst]
  exact scan_low (length_code (by omega)) (characterOfPair_low hlow hcharacter)

/-- A character of a string is scanned as itself. -/
theorem scan_escapeCharacter (asciiOnly : Bool) (done : List JsonToken) (value : List Char)
    (character : Char) :
    JsonScanner.scan ⟨done, .string value⟩ (escapeCharacter asciiOnly character) =
      ⟨done, .string (value ++ [character])⟩ := by
  unfold escapeCharacter
  split_ifs with hquote hbackslash hnewline hreturn htab hbackspace hfeed hcontrol hprinted hcode
  · subst hquote; rfl
  · subst hbackslash; rfl
  · subst hnewline; rfl
  · subst hreturn; rfl
  · subst htab; rfl
  · subst hbackspace; rfl
  · subst hfeed; rfl
  · exact scan_unicode (length_code (by omega)) (characterOfCode_padded character)
  · rw [JsonScanner.scan_cons, JsonScanner.step]
    simp only [if_neg hquote, if_neg hbackslash, if_neg hcontrol]
    rfl
  · exact scan_unicode (length_code hcode) (characterOfCode_padded character)
  · have hvalid : character.toNat < 0x110000 := by
      rcases character.valid with hsmall | ⟨-, hlarge⟩
      · exact Nat.lt_trans hsmall (by decide)
      · exact hlarge
    exact scan_pair (by omega) (Nat.mod_lt _ (by decide)) (by omega)

theorem scan_string (asciiOnly : Bool) (done : List JsonToken) (value text : List Char) :
    JsonScanner.scan ⟨done, .string value⟩ (text.flatMap (escapeCharacter asciiOnly)) =
      ⟨done, .string (value ++ text)⟩ := by
  induction text generalizing value with
  | nil => rw [List.append_nil]; rfl
  | cons character text ih =>
    rw [List.flatMap_cons, JsonScanner.scan_append, scan_escapeCharacter, ih, List.append_assoc,
      List.singleton_append]

theorem scans_string (asciiOnly : Bool) (value : String) :
    Scans (writeString asciiOnly value) [.string value.toList] := by
  intro done
  rw [writeString, List.cons_append, JsonScanner.scan_cons]
  show (JsonScanner.scan ⟨done, .string []⟩ _).settle = _
  rw [JsonScanner.scan_append, scan_string]
  rfl

mutual

/-- The tokens of a document. -/
def JsonDocument.tokens : JsonDocument → List JsonToken
  | .literal literal => [.literal literal.text]
  | .string value => [.string value.toList]
  | .array [] => [.openArray, .closeArray]
  | .array (item :: items) => .openArray :: (item.tokens ++ (itemTokens items ++ [.closeArray]))
  | .object [] => [.openObject, .closeObject]
  | .object ((key, value) :: members) =>
    .openObject :: .string key.toList :: .colon ::
      (value.tokens ++ (memberTokens members ++ [.closeObject]))

def itemTokens : List JsonDocument → List JsonToken
  | [] => []
  | item :: items => .comma :: (item.tokens ++ itemTokens items)

def memberTokens : List (String × JsonDocument) → List JsonToken
  | [] => []
  | (key, value) :: members =>
    .comma :: .string key.toList :: .colon :: (value.tokens ++ memberTokens members)

end

variable (layout : JsonLayout)

theorem isJsonSpace_spaces (count : ℕ) :
    ∀ character ∈ spaces count, isJsonSpace character = true := by
  intro character hcharacter
  rw [List.eq_of_mem_replicate hcharacter]
  rfl

theorem isJsonSpace_newline (level : ℕ) :
    ∀ character ∈ layout.newline level, isJsonSpace character = true := by
  unfold JsonLayout.newline
  cases layout.indent with
  | none => exact fun character hcharacter ↦ absurd hcharacter List.not_mem_nil
  | some indent => exact List.forall_mem_cons.2 ⟨rfl, isJsonSpace_spaces _⟩

theorem separates_newline (level : ℕ) : Separates (layout.newline level) := by
  unfold JsonLayout.newline
  cases layout.indent with
  | none => exact separates_nil
  | some indent => exact separates_cons rfl

theorem separates_writeItems (level : ℕ) (items : List JsonDocument) :
    Separates (writeItems layout level items) := by
  cases items with
  | nil => exact separates_nil
  | cons item items =>
    rw [writeItems]
    exact separates_cons rfl

theorem separates_writeMembers (level : ℕ) (members : List (String × JsonDocument)) :
    Separates (writeMembers layout level members) := by
  cases members with
  | nil => exact separates_nil
  | cons member members =>
    rw [writeMembers]
    exact separates_cons rfl

/-- The name of a member and its separator, in front of its value. -/
theorem Scans.member (key : String) (htext : Scans text tokens) :
    Scans (writeString layout.asciiOnly key ++ ':' :: (spaces layout.keySpaces ++ text))
      (.string key.toList :: .colon :: tokens) :=
  (scans_string layout.asciiOnly key).append
    ((htext.blank (isJsonSpace_spaces _)).punctuation ':' .colon fun _ ↦ rfl) (separates_cons rfl)

mutual

/-- A written document has its tokens. -/
theorem scans_write (level : ℕ) (document : JsonDocument) :
    Scans (document.write layout level) document.tokens := by
  cases document with
  | literal literal => exact scans_literal literal
  | string value => exact scans_string layout.asciiOnly value
  | array items =>
    cases items with
    | nil =>
      exact (scans_nil.punctuation ']' .closeArray fun _ ↦ rfl).punctuation '[' .openArray
        fun _ ↦ rfl
    | cons item items =>
      have hclose : Scans (layout.newline level ++ [']']) [.closeArray] :=
        (scans_nil.punctuation ']' .closeArray fun _ ↦ rfl).blank (isJsonSpace_newline layout level)
      have hseparates : Separates (layout.newline level ++ [']']) :=
        (separates_newline layout level).append (separates_cons rfl)
      have hitems := (scans_writeItems (level + 1) items).append hclose hseparates
      have hitem := (scans_write (level + 1) item).append hitems
        ((separates_writeItems layout _ items).append hseparates)
      have htext := (hitem.blank (isJsonSpace_newline layout (level + 1))).punctuation
        '[' .openArray fun _ ↦ rfl
      rw [JsonDocument.write, JsonDocument.tokens]
      simpa only [List.cons_append, List.append_assoc] using htext
  | object members =>
    cases members with
    | nil =>
      exact (scans_nil.punctuation '}' .closeObject fun _ ↦ rfl).punctuation '{' .openObject
        fun _ ↦ rfl
    | cons member members =>
      obtain ⟨key, value⟩ := member
      have hclose : Scans (layout.newline level ++ ['}']) [.closeObject] :=
        (scans_nil.punctuation '}' .closeObject fun _ ↦ rfl).blank
          (isJsonSpace_newline layout level)
      have hseparates : Separates (layout.newline level ++ ['}']) :=
        (separates_newline layout level).append (separates_cons rfl)
      have hmembers := (scans_writeMembers (level + 1) members).append hclose hseparates
      have hvalue := (scans_write (level + 1) value).append hmembers
        ((separates_writeMembers layout _ members).append hseparates)
      have htext := ((hvalue.member layout key).blank
        (isJsonSpace_newline layout (level + 1))).punctuation '{' .openObject fun _ ↦ rfl
      rw [JsonDocument.write, JsonDocument.tokens]
      simpa only [List.cons_append, List.append_assoc] using htext

theorem scans_writeItems (level : ℕ) (items : List JsonDocument) :
    Scans (writeItems layout level items) (itemTokens items) := by
  cases items with
  | nil => exact scans_nil
  | cons item items =>
    have hitem := (scans_write level item).append (scans_writeItems level items)
      (separates_writeItems layout level items)
    have htext := ((hitem.blank (isJsonSpace_newline layout level)).blank
      (isJsonSpace_spaces layout.itemSpaces)).punctuation ',' .comma fun _ ↦ rfl
    rw [writeItems, itemTokens]
    simpa only [List.cons_append, List.append_assoc] using htext

theorem scans_writeMembers (level : ℕ) (members : List (String × JsonDocument)) :
    Scans (writeMembers layout level members) (memberTokens members) := by
  cases members with
  | nil => exact scans_nil
  | cons member members =>
    obtain ⟨key, value⟩ := member
    have hvalue := (scans_write level value).append (scans_writeMembers level members)
      (separates_writeMembers layout level members)
    have htext := (((hvalue.member layout key).blank (isJsonSpace_newline layout level)).blank
      (isJsonSpace_spaces layout.itemSpaces)).punctuation ',' .comma fun _ ↦ rfl
    rw [writeMembers, memberTokens]
    simpa only [List.cons_append, List.append_assoc] using htext

end

end Scanning

/-! ### Assembling what was written -/

section Assembling

variable {stack : List JsonFrame} {later : List JsonToken}

/-- The first item of an array is assembled like any other value. -/
theorem foldl_expectItem (document : JsonDocument) :
    (document.tokens ++ later).foldl JsonParse.step (.expectItem stack) =
      (document.tokens ++ later).foldl JsonParse.step (.expectValue (.array [] :: stack)) := by
  cases document with
  | literal literal => rfl
  | string value => rfl
  | array items => cases items <;> simp only [JsonDocument.tokens] <;> rfl
  | object members => cases members <;> simp only [JsonDocument.tokens] <;> rfl

mutual

/-- The tokens of a document are assembled to it where a value is expected. -/
theorem foldl_tokens (document : JsonDocument) (stack : List JsonFrame) (later : List JsonToken) :
    (document.tokens ++ later).foldl JsonParse.step (.expectValue stack) =
      later.foldl JsonParse.step (.complete stack document) := by
  cases document with
  | literal literal =>
    have hstart : JsonParse.startValue stack (.literal literal.text) =
        .complete stack (.literal literal) := dif_pos literal.wellFormed
    rw [JsonDocument.tokens, List.singleton_append, List.foldl_cons, JsonParse.step, hstart]
  | string value =>
    rw [JsonDocument.tokens, List.singleton_append, List.foldl_cons, JsonParse.step,
      JsonParse.startValue, String.ofList_toList]
  | array items =>
    cases items with
    | nil => rw [JsonDocument.tokens]; rfl
    | cons item items =>
      rw [JsonDocument.tokens, List.cons_append, List.append_assoc, List.append_assoc,
        List.singleton_append, List.foldl_cons]
      show List.foldl _ (JsonParse.expectItem stack) _ = _
      rw [foldl_expectItem, foldl_tokens item, foldl_itemTokens items, List.nil_append]
  | object members =>
    cases members with
    | nil => rw [JsonDocument.tokens]; rfl
    | cons member members =>
      obtain ⟨key, value⟩ := member
      rw [JsonDocument.tokens, List.cons_append, List.cons_append, List.cons_append,
        List.append_assoc, List.append_assoc, List.singleton_append, List.foldl_cons,
        List.foldl_cons, List.foldl_cons]
      show List.foldl _
        (JsonParse.expectValue (.object [] (String.ofList key.toList) :: stack)) _ = _
      rw [foldl_tokens value, foldl_memberTokens members, String.ofList_toList, List.nil_append]

theorem foldl_itemTokens (items : List JsonDocument) (done : List JsonDocument)
    (last : JsonDocument) (stack : List JsonFrame) (later : List JsonToken) :
    (itemTokens items ++ .closeArray :: later).foldl JsonParse.step
        (.complete (.array done :: stack) last) =
      later.foldl JsonParse.step (.complete stack (.array (done ++ last :: items))) := by
  cases items with
  | nil => rfl
  | cons item items =>
    rw [itemTokens, List.cons_append, List.append_assoc, List.foldl_cons]
    show List.foldl _ (JsonParse.expectValue (.array (done ++ [last]) :: stack)) _ = _
    rw [foldl_tokens item, foldl_itemTokens items, List.append_assoc, List.singleton_append]

theorem foldl_memberTokens (members : List (String × JsonDocument))
    (done : List (String × JsonDocument)) (key : String) (last : JsonDocument)
    (stack : List JsonFrame) (later : List JsonToken) :
    (memberTokens members ++ .closeObject :: later).foldl JsonParse.step
        (.complete (.object done key :: stack) last) =
      later.foldl JsonParse.step (.complete stack (.object (done ++ (key, last) :: members))) := by
  cases members with
  | nil => rfl
  | cons member members =>
    obtain ⟨next, value⟩ := member
    rw [memberTokens, List.cons_append, List.cons_append, List.cons_append, List.append_assoc,
      List.foldl_cons, List.foldl_cons, List.foldl_cons]
    show List.foldl _ (JsonParse.expectValue
      (.object (done ++ [(key, last)]) (String.ofList next.toList) :: stack)) _ = _
    rw [foldl_tokens value, foldl_memberTokens members, String.ofList_toList, List.append_assoc,
      List.singleton_append]

end

/-- A written document is read back as it was, also in front of white space. -/
theorem readJson_writeJson (layout : JsonLayout) (document : JsonDocument) {blank : String}
    (hblank : ∀ character ∈ blank.toList, isJsonSpace character = true) :
    readJson (writeJson layout document ++ blank) = some document := by
  have hseparates : Separates blank.toList := by
    intro character hcharacter
    by_contra hliteral
    have hspace := hblank character (List.mem_of_mem_head? hcharacter)
    rw [isJsonSpace_of_isLiteralCharacter ((Bool.not_eq_false _).mp hliteral)] at hspace
    cases hspace
  have hscans := (scans_write layout 0 document).append (scans_nil.blank hblank)
    (by rwa [List.append_nil])
  rw [List.append_nil, List.append_nil] at hscans
  have htokens : tokensOf (document.write layout 0 ++ blank.toList) = some document.tokens := by
    rw [tokensOf]
    simp only [hscans [], List.nil_append, if_pos]
  have hassembled := foldl_tokens document [] []
  rw [List.append_nil] at hassembled
  rw [readJson, writeJson, String.toList_append, String.toList_ofList, htokens,
    Option.bind_eq_bind, Option.bind_some, hassembled]
  rfl

end Assembling

end HilRig.Foundations
