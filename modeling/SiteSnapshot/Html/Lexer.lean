import SiteSnapshot.Html.Entity
import SiteSnapshot.Html.Input
import SiteSnapshot.Html.Token
import SiteSnapshot.Text.Digit

/-!
# The lexer

Reads text as markup tokens and hands each to a **sink** as soon as it is complete: the
construction of the tree decides after a start tag whether raw text follows, and whether
a CDATA section is allowed. `Lexer.run` is a left-to-right pass; one step reads a
character together with the lookahead that its state needs, and reports how many further
characters it used up, so every step shortens the text.

A state that only has to look at a character again (**reconsuming** it) calls the step of
the state that it falls back to.
-/

namespace SiteSnapshot.Html

/-- A consumer of tokens: it takes a token, answers how to go on, and knows whether the
current element lies outside the HTML namespace. -/
structure Sink (σ : Type) where
  accept : σ → Token → σ × Continuation
  inForeign : σ → Bool

namespace Lexer

/-- How an attribute value or a document type identifier is delimited. -/
inductive Quoting where
  | double
  | single
  | bare
deriving DecidableEq

/-- The two identifiers of a document type. -/
inductive Identifier where
  | publicId
  | systemId
deriving DecidableEq

/-- Where the lexer stands between two characters. -/
inductive State where
  | data
  | plaintext
  | raw (kind : RawText)
  | rawLessThan (kind : RawText)
  | rawEndTagOpen (kind : RawText)
  | rawEndTagName (kind : RawText)
  | escapeStart
  | escapeStartDash
  | escapedDash (double : Bool)
  | escapedDashDash (double : Bool)
  | doubleEscapeStart
  | doubleEscapeEnd
  | tagOpen
  | endTagOpen
  | tagName
  | beforeAttributeName
  | attributeName
  | afterAttributeName
  | beforeAttributeValue
  | attributeValue (quoting : Quoting)
  | afterAttributeValue
  | selfClosing
  | bogusComment
  | commentStart
  | commentStartDash
  | comment
  | commentEndDash
  | commentEnd
  | commentEndBang
  | doctype
  | beforeDoctypeName
  | doctypeName
  | afterDoctypeName
  | afterDoctypeKeyword (id : Identifier)
  | beforeIdentifier (id : Identifier)
  | identifier (id : Identifier) (quoting : Quoting)
  | afterIdentifier (id : Identifier)
  | betweenIdentifiers
  | bogusDoctype
  | cdata
  | cdataBracket
  | cdataEnd
deriving DecidableEq, Inhabited

end Lexer

/-- The lexer's memory: the state, whether it sets out anew before the next character, the
token under construction, a scratch buffer, and the name of the last start tag, which alone
ends raw text. -/
structure Lexer where
  state : Lexer.State := .data
  anew : Bool := false
  buffer : String := ""
  isEndTag : Bool := false
  name : String := ""
  selfClosing : Bool := false
  attributes : Array Attribute := #[]
  attributeName : String := ""
  attributeValue : String := ""
  comment : String := ""
  doctype : Doctype := {}
  lastStartTag : Option String := none
deriving Inhabited

namespace Lexer

/-- The blanks of markup. -/
def isBlank (c : Char) : Bool :=
  c == '\t' || c == '\n' || c == '\x0c' || c == ' '

/-- A lexer together with the sink that it feeds. -/
structure Feed (σ : Type) where
  lexer : Lexer
  sink : σ

variable {σ : Type} (k : Sink σ)

namespace Feed

/-- Moves to a state. -/
@[inline] def goTo (f : Feed σ) (s : State) : Feed σ :=
  { f with lexer.state := s }

/-- Hands a token over whose answer does not matter. -/
def emit (f : Feed σ) (t : Token) : Feed σ :=
  { f with sink := (k.accept f.sink t).1 }

/-- Hands characters over. -/
def emitText (f : Feed σ) (text : String) : Feed σ :=
  if text.isEmpty then f else f.emit k (.characters text)

/-- Hands one character over. -/
def emitChar (f : Feed σ) (c : Char) : Feed σ :=
  f.emit k (.characters (String.singleton c))

/-- Hands one character over, NUL as a token of its own. -/
def emitCharOrNull (f : Feed σ) (c : Char) : Feed σ :=
  if c = '\x00' then f.emit k .null else f.emitChar k c

/-- Empties the scratch buffer. -/
def clearBuffer (f : Feed σ) : Feed σ :=
  { f with lexer.buffer := "" }

/-- Adds to the scratch buffer. -/
def pushBuffer (f : Feed σ) (text : String) : Feed σ :=
  { f with lexer.buffer := f.lexer.buffer ++ text }

/-- Hands the scratch buffer over and empties it. -/
def emitBuffer (f : Feed σ) : Feed σ :=
  (f.emitText k f.lexer.buffer).clearBuffer

/-- Starts a tag. -/
def startTag (f : Feed σ) (isEndTag : Bool) (c : Char) : Feed σ :=
  { f with
    lexer.isEndTag := isEndTag
    lexer.name := String.singleton c
    lexer.selfClosing := false
    lexer.attributes := #[] }

/-- Drops the tag under construction. -/
def dropTag (f : Feed σ) : Feed σ :=
  { f with lexer.name := "", lexer.selfClosing := false, lexer.attributes := #[] }

/-- Adds to the name of the tag. -/
def pushName (f : Feed σ) (c : Char) : Feed σ :=
  { f with lexer.name := f.lexer.name.push c }

/-- Ends the attribute under construction. Of attributes with one name the first counts. -/
def finishAttribute (f : Feed σ) : Feed σ :=
  let name := f.lexer.attributeName
  let value := f.lexer.attributeValue
  if name.isEmpty then f
  else
    let known := f.lexer.attributes.any (·.name == name)
    { f with
      lexer.attributeName := ""
      lexer.attributeValue := ""
      lexer.attributes :=
        if known then f.lexer.attributes
        else f.lexer.attributes.push { name := name, value := value } }

/-- Starts an attribute. -/
def startAttribute (f : Feed σ) (c : Char) : Feed σ :=
  let f := f.finishAttribute
  { f with lexer.attributeName := f.lexer.attributeName.push c }

/-- Adds to the name of the attribute. -/
def pushAttributeName (f : Feed σ) (c : Char) : Feed σ :=
  { f with lexer.attributeName := f.lexer.attributeName.push c }

/-- Adds to the value of the attribute. -/
def pushValue (f : Feed σ) (c : Char) : Feed σ :=
  { f with lexer.attributeValue := f.lexer.attributeValue.push c }

/-- Adds to the comment. -/
def pushComment (f : Feed σ) (text : String) : Feed σ :=
  { f with lexer.comment := f.lexer.comment ++ text }

/-- Starts a comment with this text. -/
def startComment (f : Feed σ) (text : String) : Feed σ :=
  { f with lexer.comment := text }

/-- Hands the tag over and follows the answer. -/
def emitTag (f : Feed σ) : Feed σ :=
  let f := f.finishAttribute
  let l := f.lexer
  let tag : TagToken := ⟨l.name, l.attributes.toList, l.selfClosing⟩
  let (token, last) :=
    if l.isEndTag then (Token.endTag tag, l.lastStartTag) else (.startTag tag, some l.name)
  let (sink, next) := k.accept f.sink token
  let state :=
    match next with
    | .markup | .anew => State.data
    | .raw kind => .raw kind
    | .plaintext => .plaintext
  ⟨{ l with
      state := state
      anew := next == .anew
      lastStartTag := last
      name := ""
      attributes := #[] }, sink⟩

/-- Hands the comment over. -/
def emitComment (f : Feed σ) : Feed σ :=
  (f.emit k (.comment f.lexer.comment)).goTo .data

/-- Hands the document type over. -/
def emitDoctype (f : Feed σ) : Feed σ :=
  (f.emit k (.doctype f.lexer.doctype)).goTo .data

/-- Marks the document type as faulty. -/
def forceLegacy (f : Feed σ) : Feed σ :=
  { f with lexer.doctype := { f.lexer.doctype with forceLegacy := true } }

/-- Adds to the name of the document type. -/
def pushDoctypeName (f : Feed σ) (c : Char) : Feed σ :=
  { f with lexer.doctype :=
      { f.lexer.doctype with name := some ((f.lexer.doctype.name.getD "").push c) } }

/-- Starts a document type with this first character of its name. -/
def startDoctype (f : Feed σ) (c : Char) : Feed σ :=
  Feed.pushDoctypeName { f with lexer.doctype := {} } c

/-- Starts an identifier of the document type. -/
def clearIdentifier (f : Feed σ) (id : Identifier) : Feed σ :=
  { f with lexer.doctype :=
      match id with
      | .publicId => { f.lexer.doctype with publicId := some "" }
      | .systemId => { f.lexer.doctype with systemId := some "" } }

/-- Adds to an identifier of the document type. -/
def pushIdentifier (f : Feed σ) (id : Identifier) (c : Char) : Feed σ :=
  let d := f.lexer.doctype
  { f with lexer.doctype :=
      match id with
      | .publicId => { d with publicId := some ((d.publicId.getD "").push c) }
      | .systemId => { d with systemId := some ((d.systemId.getD "").push c) } }

/-- True when the end tag under construction closes the raw text around it. -/
def closesRawText (f : Feed σ) : Bool :=
  f.lexer.isEndTag && f.lexer.lastStartTag == some f.lexer.name

end Feed

/-! ### Character references -/

/-- A character reference after its ampersand: the characters denoted, how many
characters of the text it takes up, and whether it is faulty. -/
structure Reference where
  expansion : List Char
  length : Nat
  faulty : Bool

/-- Characters for the numbers 128 to 159, which are read as in a common older code. -/
def c1Replacements : List Nat :=
  [0x20AC, 0, 0x201A, 0x0192, 0x201E, 0x2026, 0x2020, 0x2021, 0x02C6, 0x2030, 0x0160, 0x2039,
   0x0152, 0, 0x017D, 0, 0, 0x2018, 0x2019, 0x201C, 0x201D, 0x2022, 0x2013, 0x2014, 0x02DC,
   0x2122, 0x0161, 0x203A, 0x0153, 0, 0x017E, 0x0178]

/-- The character with a given number. -/
def numbered (n : Nat) : Char :=
  if n > 0x10FFFF ∨ n = 0 ∨ (0xD800 ≤ n ∧ n ≤ 0xDFFF) then '\ufffd'
  else if 0x80 ≤ n ∧ n ≤ 0x9F then
    match c1Replacements[n - 0x80]? with
    | some (m + 1) => Char.ofNat (m + 1)
    | _ => Char.ofNat n
  else Char.ofNat n

/-- Reads a numeric reference whose sign and marker took `used` characters. -/
def numericReference? (base used : Nat) (text : List Char) : Option Reference :=
  let digits := text.takeWhile fun c => (Digit.value? base c).isSome
  if digits.isEmpty then none
  else
    let n := digits.foldl (fun n c => min 0x110000 (n * base + (Digit.value? base c).getD 0)) 0
    if text[digits.length]? = some ';' then
      some ⟨[numbered n], used + digits.length + 1, false⟩
    else some ⟨[numbered n], used + digits.length, true⟩

/-- Reads what follows an ampersand. In an attribute a name without semicolon is no
reference when a letter, a digit or an equals sign follows. -/
def reference? (inAttribute : Bool) (text : List Char) : Option Reference :=
  match text with
  | '#' :: 'x' :: rest => numericReference? 16 2 rest
  | '#' :: 'X' :: rest => numericReference? 16 2 rest
  | '#' :: rest => numericReference? 10 1 rest
  | _ =>
    match Entity.longest? text with
    | none => none
    | some found =>
      let blocked :=
        inAttribute && !found.terminated &&
          (match text[found.length]? with
            | some c => c == '=' || c.isAlphanum
            | none => false)
      if blocked then none else some ⟨found.expansion, found.length, !found.terminated⟩

/-! ### Steps -/

/-- A step: the new situation and how many characters after the first were used up. -/
abbrev Result (σ : Type) := Feed σ × Nat

/-- Text that needs no attention, as far as it goes. -/
def plainRun (special : Char → Bool) (rest : List Char) : List Char :=
  rest.takeWhile fun c => !special c && c != '\x00'

/-- Hands a reference in text over, or the ampersand alone. -/
def emitReference (f : Feed σ) (rest : List Char) : Result σ :=
  match reference? false rest with
  | none => (f.emitChar k '&', 0)
  | some r =>
    let f := if r.faulty then f.emit k .fault else f
    (r.expansion.foldl (fun f c => f.emitCharOrNull k c) f, r.length)

/-- Ordinary markup. -/
def stepData (f : Feed σ) (c : Char) (rest : List Char) : Result σ :=
  if c = '&' then emitReference k f rest
  else if c = '<' then (f.goTo .tagOpen, 0)
  else if c = '\x00' then (f.emit k .null, 0)
  else
    let run := plainRun (fun c => c == '&' || c == '<') rest
    (f.emitText k (String.ofList (c :: run)), run.length)

/-- Text to the end of the input. -/
def stepPlaintext (f : Feed σ) (c : Char) (rest : List Char) : Result σ :=
  if c = '\x00' then (f.emitChar k '\ufffd', 0)
  else
    let run := plainRun (fun _ => false) rest
    (f.emitText k (String.ofList (c :: run)), run.length)

/-- Raw text of a kind. -/
def stepRaw (kind : RawText) (f : Feed σ) (c : Char) (rest : List Char) : Result σ :=
  let escaped := kind == .scriptEscaped || kind == .scriptDoubleEscaped
  if c = '&' ∧ kind = .rcdata then emitReference k f rest
  else if c = '<' then
    let f := if kind = .scriptDoubleEscaped then f.emitChar k '<' else f
    (f.goTo (.rawLessThan kind), 0)
  else if c = '-' ∧ escaped then
    ((f.emitChar k '-').goTo (.escapedDash (kind == .scriptDoubleEscaped)), 0)
  else if c = '\x00' then (f.emitChar k '\ufffd', 0)
  else
    let run := plainRun
      (fun c => c == '<' || (c == '&' && kind == .rcdata) || (c == '-' && escaped)) rest
    (f.emitText k (String.ofList (c :: run)), run.length)

/-- The kind of escaped script text, by its level. -/
def escapedKind (double : Bool) : RawText :=
  if double then .scriptDoubleEscaped else .scriptEscaped

/-- After a less-than sign in raw text. -/
def stepRawLessThan (kind : RawText) (f : Feed σ) (c : Char) (rest : List Char) : Result σ :=
  let back (f : Feed σ) : Result σ := stepRaw k kind (f.goTo (.raw kind)) c rest
  match kind with
  | .scriptDoubleEscaped =>
    if c = '/' then ((f.emitChar k '/').clearBuffer.goTo .doubleEscapeEnd, 0) else back f
  | .scriptEscaped =>
    if c = '/' then (f.clearBuffer.goTo (.rawEndTagOpen kind), 0)
    else if c.isAlpha then
      let f := f.clearBuffer.pushBuffer (String.singleton c.toLower)
      (((f.emitChar k '<').emitChar k c).goTo .doubleEscapeStart, 0)
    else back (f.emitChar k '<')
  | _ =>
    if c = '/' then (f.clearBuffer.goTo (.rawEndTagOpen kind), 0)
    else if c = '!' ∧ kind = .script then ((f.emitText k "<!").goTo .escapeStart, 0)
    else back (f.emitChar k '<')

/-- After the start of an end tag in raw text. -/
def stepRawEndTagOpen (kind : RawText) (f : Feed σ) (c : Char) (rest : List Char) : Result σ :=
  if c.isAlpha then
    (((f.startTag true c.toLower).pushBuffer (String.singleton c)).goTo (.rawEndTagName kind), 0)
  else stepRaw k kind ((f.emitText k "</").goTo (.raw kind)) c rest

/-- In the name of an end tag in raw text. -/
def stepRawEndTagName (kind : RawText) (f : Feed σ) (c : Char) (rest : List Char) : Result σ :=
  if f.closesRawText ∧ isBlank c then (f.clearBuffer.goTo .beforeAttributeName, 0)
  else if f.closesRawText ∧ c = '/' then (f.clearBuffer.goTo .selfClosing, 0)
  else if f.closesRawText ∧ c = '>' then (f.clearBuffer.emitTag k, 0)
  else if c.isAlpha then ((f.pushName c.toLower).pushBuffer (String.singleton c), 0)
  else stepRaw k kind (((f.dropTag.emitText k "</").emitBuffer k).goTo (.raw kind)) c rest

/-- After `<!` in script text. -/
def stepEscapeStart (f : Feed σ) (c : Char) (rest : List Char) : Result σ :=
  if c = '-' then ((f.emitChar k '-').goTo .escapeStartDash, 0)
  else stepRaw k .script (f.goTo (.raw .script)) c rest

/-- After `<!-` in script text. -/
def stepEscapeStartDash (f : Feed σ) (c : Char) (rest : List Char) : Result σ :=
  if c = '-' then ((f.emitChar k '-').goTo (.escapedDashDash false), 0)
  else stepRaw k .script (f.goTo (.raw .script)) c rest

/-- After one dash in escaped script text. -/
def stepEscapedDash (double : Bool) (f : Feed σ) (c : Char) : Feed σ :=
  if c = '-' then (f.emitChar k '-').goTo (.escapedDashDash double)
  else if c = '<' then
    (if double then f.emitChar k '<' else f).goTo (.rawLessThan (escapedKind double))
  else (f.emitChar k (if c = '\x00' then '\ufffd' else c)).goTo (.raw (escapedKind double))

/-- After two dashes in escaped script text. -/
def stepEscapedDashDash (double : Bool) (f : Feed σ) (c : Char) : Feed σ :=
  if c = '-' then f.emitChar k '-'
  else if c = '<' then
    (if double then f.emitChar k '<' else f).goTo (.rawLessThan (escapedKind double))
  else if c = '>' then (f.emitChar k '>').goTo (.raw .script)
  else (f.emitChar k (if c = '\x00' then '\ufffd' else c)).goTo (.raw (escapedKind double))

/-- In the name of a tag that may open or close a doubly escaped part. -/
def stepDoubleEscape (closing : Bool) (f : Feed σ) (c : Char) (rest : List Char) : Result σ :=
  if isBlank c ∨ c = '/' ∨ c = '>' then
    let double := (f.lexer.buffer == "script") != closing
    ((f.emitChar k c).goTo (.raw (escapedKind double)), 0)
  else if c.isAlpha then
    ((f.pushBuffer (String.singleton c.toLower)).emitChar k c, 0)
  else
    let kind := escapedKind closing
    stepRaw k kind (f.goTo (.raw kind)) c rest

/-- In a comment that markup never meant to be one. -/
def stepBogusComment (f : Feed σ) (c : Char) : Feed σ :=
  if c = '>' then f.emitComment k
  else f.pushComment (String.singleton (if c = '\x00' then '\ufffd' else c))

/-- True when the text starts with these letters in any case. -/
def startsWithWord (word : String) (text : List Char) : Bool :=
  (text.take word.length).map Char.toLower == word.toList

/-- After `<!`: a comment, a document type, a CDATA section in foreign content, or none of
these. -/
def openDeclaration (f : Feed σ) (rest : List Char) : Result σ :=
  let f := f.clearBuffer
  if rest.take 2 = ['-', '-'] then ((f.startComment "").goTo .commentStart, 2)
  else if startsWithWord "doctype" rest then (f.goTo .doctype, 7)
  else if k.inForeign f.sink ∧ rest.take 7 = "[CDATA[".toList then (f.goTo .cdata, 7)
  else ((f.startComment "").goTo .bogusComment, 0)

/-- After a less-than sign. -/
def stepTagOpen (f : Feed σ) (c : Char) (rest : List Char) : Result σ :=
  if c = '!' then openDeclaration k f rest
  else if c = '/' then (f.goTo .endTagOpen, 0)
  else if c = '?' then ((f.startComment "?").goTo .bogusComment, 0)
  else if c.isAlpha then ((f.startTag false c.toLower).goTo .tagName, 0)
  else stepData k ((f.emitChar k '<').goTo .data) c rest

/-- After `</`. A tag without a name is no tag. -/
def stepEndTagOpen (f : Feed σ) (c : Char) : Feed σ :=
  if c = '>' then (f.emit k .fault).goTo .data
  else if c.isAlpha then (f.startTag true c.toLower).goTo .tagName
  else stepBogusComment k ((f.startComment "").goTo .bogusComment) c

/-- In the name of a tag. -/
def stepTagName (f : Feed σ) (c : Char) : Feed σ :=
  if isBlank c then f.goTo .beforeAttributeName
  else if c = '/' then f.goTo .selfClosing
  else if c = '>' then f.emitTag k
  else f.pushName (if c = '\x00' then '\ufffd' else c.toLower)

/-- Before an attribute. -/
def stepBeforeAttributeName (f : Feed σ) (c : Char) : Feed σ :=
  if isBlank c then f
  else if c = '/' then f.goTo .selfClosing
  else if c = '>' then f.emitTag k
  else (f.startAttribute (if c = '\x00' then '\ufffd' else c.toLower)).goTo .attributeName

/-- In the name of an attribute. -/
def stepAttributeName (f : Feed σ) (c : Char) : Feed σ :=
  if isBlank c then f.goTo .afterAttributeName
  else if c = '/' then f.goTo .selfClosing
  else if c = '=' then f.goTo .beforeAttributeValue
  else if c = '>' then f.emitTag k
  else f.pushAttributeName (if c = '\x00' then '\ufffd' else c.toLower)

/-- After the name of an attribute. -/
def stepAfterAttributeName (f : Feed σ) (c : Char) : Feed σ :=
  if isBlank c then f
  else if c = '/' then f.goTo .selfClosing
  else if c = '=' then f.goTo .beforeAttributeValue
  else if c = '>' then f.emitTag k
  else (f.startAttribute (if c = '\x00' then '\ufffd' else c.toLower)).goTo .attributeName

/-- In the value of an attribute. -/
def stepAttributeValue (quoting : Quoting) (f : Feed σ) (c : Char) (rest : List Char) :
    Result σ :=
  if c = '&' then
    match reference? true rest with
    | none => (f.pushValue '&', 0)
    | some r => (r.expansion.foldl Feed.pushValue f, r.length)
  else if c = '\x00' then (f.pushValue '\ufffd', 0)
  else
    match quoting with
    | .double => (if c = '"' then f.goTo .afterAttributeValue else f.pushValue c, 0)
    | .single => (if c = '\'' then f.goTo .afterAttributeValue else f.pushValue c, 0)
    | .bare =>
      (if isBlank c then f.goTo .beforeAttributeName
        else if c = '>' then f.emitTag k
        else f.pushValue c, 0)

/-- Before the value of an attribute. -/
def stepBeforeAttributeValue (f : Feed σ) (c : Char) (rest : List Char) : Result σ :=
  if isBlank c then (f, 0)
  else if c = '"' then (f.goTo (.attributeValue .double), 0)
  else if c = '\'' then (f.goTo (.attributeValue .single), 0)
  else if c = '>' then (f.emitTag k, 0)
  else stepAttributeValue k .bare (f.goTo (.attributeValue .bare)) c rest

/-- After the closing quote of a value. -/
def stepAfterAttributeValue (f : Feed σ) (c : Char) : Feed σ :=
  stepBeforeAttributeName k (f.goTo .beforeAttributeName) c

/-- After a slash in a tag. -/
def stepSelfClosing (f : Feed σ) (c : Char) : Feed σ :=
  if c = '>' then Feed.emitTag k { f with lexer.selfClosing := true }
  else stepBeforeAttributeName k (f.goTo .beforeAttributeName) c

/-- Inside a comment, by state; anything but an end goes back to the comment with the
dashes that turned out to be text. -/
def stepComment (f : Feed σ) (c : Char) : Feed σ :=
  let shown := if c = '\x00' then '\ufffd' else c
  match f.lexer.state with
  | .commentStart =>
    if c = '-' then f.goTo .commentStartDash
    else if c = '>' then f.emitComment k
    else (f.pushComment (String.singleton shown)).goTo .comment
  | .commentStartDash =>
    if c = '-' then f.goTo .commentEnd
    else if c = '>' then f.emitComment k
    else (f.pushComment ("-".push shown)).goTo .comment
  | .commentEndDash =>
    if c = '-' then f.goTo .commentEnd
    else (f.pushComment ("-".push shown)).goTo .comment
  | .commentEnd =>
    if c = '>' then f.emitComment k
    else if c = '!' then f.goTo .commentEndBang
    else if c = '-' then f.pushComment "-"
    else (f.pushComment ("--".push shown)).goTo .comment
  | .commentEndBang =>
    if c = '-' then (f.pushComment "--!").goTo .commentEndDash
    else if c = '>' then f.emitComment k
    else (f.pushComment ("--!".push shown)).goTo .comment
  | _ =>
    if c = '-' then f.goTo .commentEndDash
    else f.pushComment (String.singleton shown)

/-- Before the name of a document type. -/
def stepBeforeDoctypeName (f : Feed σ) (c : Char) : Feed σ :=
  if isBlank c then f
  else if c = '>' then Feed.emitDoctype k { f with lexer.doctype := { forceLegacy := true } }
  else (f.startDoctype (if c = '\x00' then '\ufffd' else c.toLower)).goTo .doctypeName

/-- In the name of a document type. -/
def stepDoctypeName (f : Feed σ) (c : Char) : Feed σ :=
  if isBlank c then f.goTo .afterDoctypeName
  else if c = '>' then f.emitDoctype k
  else f.pushDoctypeName (if c = '\x00' then '\ufffd' else c.toLower)

/-- After the name of a document type. -/
def stepAfterDoctypeName (f : Feed σ) (c : Char) (rest : List Char) : Result σ :=
  if startsWithWord "public" (c :: rest) then (f.goTo (.afterDoctypeKeyword .publicId), 5)
  else if startsWithWord "system" (c :: rest) then (f.goTo (.afterDoctypeKeyword .systemId), 5)
  else if isBlank c then (f, 0)
  else if c = '>' then (f.emitDoctype k, 0)
  else (f.forceLegacy.goTo .bogusDoctype, 0)

/-- After the keyword before an identifier, or between the two. -/
def stepBeforeIdentifier (id : Identifier) (f : Feed σ) (c : Char) : Feed σ :=
  if isBlank c then f.goTo (.beforeIdentifier id)
  else if c = '"' then (f.clearIdentifier id).goTo (.identifier id .double)
  else if c = '\'' then (f.clearIdentifier id).goTo (.identifier id .single)
  else if c = '>' then f.forceLegacy.emitDoctype k
  else f.forceLegacy.goTo .bogusDoctype

/-- In an identifier of a document type. -/
def stepIdentifier (id : Identifier) (quoting : Quoting) (f : Feed σ) (c : Char) : Feed σ :=
  if c = (if quoting = .double then '"' else '\'') then f.goTo (.afterIdentifier id)
  else if c = '>' then f.forceLegacy.emitDoctype k
  else f.pushIdentifier id (if c = '\x00' then '\ufffd' else c)

/-- After the public identifier, where a system identifier may follow. -/
def stepBetweenIdentifiers (f : Feed σ) (c : Char) : Feed σ :=
  if isBlank c then f.goTo .betweenIdentifiers
  else if c = '>' then f.emitDoctype k
  else if c = '"' then (f.clearIdentifier .systemId).goTo (.identifier .systemId .double)
  else if c = '\'' then (f.clearIdentifier .systemId).goTo (.identifier .systemId .single)
  else f.forceLegacy.goTo .bogusDoctype

/-- After an identifier of a document type. -/
def stepAfterIdentifier (id : Identifier) (f : Feed σ) (c : Char) : Feed σ :=
  match id with
  | .publicId => stepBetweenIdentifiers k f c
  | .systemId =>
    if isBlank c then f
    else if c = '>' then f.emitDoctype k
    else f.goTo .bogusDoctype

/-- Inside a CDATA section. -/
def stepCdata (f : Feed σ) (c : Char) (rest : List Char) : Result σ :=
  if c = ']' then (f.goTo .cdataBracket, 0)
  else if c = '\x00' then ((f.emitBuffer k).emit k .null, 0)
  else
    let run := plainRun (· == ']') rest
    (f.pushBuffer (String.ofList (c :: run)), run.length)

/-- After one bracket in a CDATA section. -/
def stepCdataBracket (f : Feed σ) (c : Char) (rest : List Char) : Result σ :=
  if c = ']' then (f.goTo .cdataEnd, 0)
  else stepCdata k ((f.pushBuffer "]").goTo .cdata) c rest

/-- After two brackets in a CDATA section. -/
def stepCdataEnd (f : Feed σ) (c : Char) (rest : List Char) : Result σ :=
  if c = ']' then (f.pushBuffer "]", 0)
  else if c = '>' then ((f.emitBuffer k).goTo .data, 0)
  else stepCdata k ((f.pushBuffer "]]").goTo .cdata) c rest

/-- Reads one character. -/
def step (f : Feed σ) (c : Char) (rest : List Char) : Result σ :=
  match f.lexer.state with
  | .data => stepData k f c rest
  | .plaintext => stepPlaintext k f c rest
  | .raw kind => stepRaw k kind f c rest
  | .rawLessThan kind => stepRawLessThan k kind f c rest
  | .rawEndTagOpen kind => stepRawEndTagOpen k kind f c rest
  | .rawEndTagName kind => stepRawEndTagName k kind f c rest
  | .escapeStart => stepEscapeStart k f c rest
  | .escapeStartDash => stepEscapeStartDash k f c rest
  | .escapedDash double => (stepEscapedDash k double f c, 0)
  | .escapedDashDash double => (stepEscapedDashDash k double f c, 0)
  | .doubleEscapeStart => stepDoubleEscape k false f c rest
  | .doubleEscapeEnd => stepDoubleEscape k true f c rest
  | .tagOpen => stepTagOpen k f c rest
  | .endTagOpen => (stepEndTagOpen k f c, 0)
  | .tagName => (stepTagName k f c, 0)
  | .beforeAttributeName => (stepBeforeAttributeName k f c, 0)
  | .attributeName => (stepAttributeName k f c, 0)
  | .afterAttributeName => (stepAfterAttributeName k f c, 0)
  | .beforeAttributeValue => stepBeforeAttributeValue k f c rest
  | .attributeValue quoting => stepAttributeValue k quoting f c rest
  | .afterAttributeValue => (stepAfterAttributeValue k f c, 0)
  | .selfClosing => (stepSelfClosing k f c, 0)
  | .bogusComment => (stepBogusComment k f c, 0)
  | .commentStart => (stepComment k f c, 0)
  | .commentStartDash => (stepComment k f c, 0)
  | .comment => (stepComment k f c, 0)
  | .commentEndDash => (stepComment k f c, 0)
  | .commentEnd => (stepComment k f c, 0)
  | .commentEndBang => (stepComment k f c, 0)
  | .doctype => (stepBeforeDoctypeName k (f.goTo .beforeDoctypeName) c, 0)
  | .beforeDoctypeName => (stepBeforeDoctypeName k f c, 0)
  | .doctypeName => (stepDoctypeName k f c, 0)
  | .afterDoctypeName => stepAfterDoctypeName k f c rest
  | .afterDoctypeKeyword id => (stepBeforeIdentifier k id f c, 0)
  | .beforeIdentifier id => (stepBeforeIdentifier k id f c, 0)
  | .identifier id quoting => (stepIdentifier k id quoting f c, 0)
  | .afterIdentifier id => (stepAfterIdentifier k id f c, 0)
  | .betweenIdentifiers => (stepBetweenIdentifiers k f c, 0)
  | .bogusDoctype => (if c = '>' then f.emitDoctype k else f, 0)
  | .cdata => stepCdata k f c rest
  | .cdataBracket => stepCdataBracket k f c rest
  | .cdataEnd => stepCdataEnd k f c rest

/-- Goes on anew before the given text: a byte order mark at its start does not belong to
it, unless the mark is one that starts a piece and belongs to that. `kept` names the places
of such marks by the number of characters from there on. -/
def setOut (kept : List Nat) (f : Feed σ) (text : List Char) : Feed σ × List Char :=
  if f.lexer.anew then
    ({ f with lexer.anew := false },
      if kept.any fun n => n == text.length then text else Input.dropMark text)
  else (f, text)

theorem length_setOut_le (kept : List Nat) (f : Feed σ) (text : List Char) :
    (setOut kept f text).2.length ≤ text.length := by
  unfold setOut Input.dropMark
  repeat' split
  all_goals simp_all

/-- Reads a text to its end. -/
def run (kept : List Nat) (f : Feed σ) : List Char → Feed σ
  | [] => f
  | c :: rest =>
    let (f', used) := step k f c rest
    let out := setOut kept f' (rest.drop used)
    run kept out.1 out.2
termination_by text => text.length
decreasing_by
  have := length_setOut_le kept f' (rest.drop used)
  simp only [List.length_drop, List.length_cons] at *
  omega

/-- Hands over what the end of the input leaves open: text that looked like the start of
markup, an open comment, or an open document type. An open tag is dropped. -/
def finish (f : Feed σ) : σ :=
  let f :=
    match f.lexer.state with
    | .tagOpen => f.emitChar k '<'
    | .endTagOpen => f.emitText k "</"
    | .rawLessThan kind => if kind == RawText.scriptDoubleEscaped then f else f.emitChar k '<'
    | .rawEndTagOpen _ => f.emitText k "</"
    | .rawEndTagName _ => (f.emitText k "</").emitBuffer k
    | .bogusComment | .commentStart | .commentStartDash | .comment | .commentEndDash
    | .commentEnd | .commentEndBang => f.emitComment k
    | .doctype | .beforeDoctypeName =>
      Feed.emitDoctype k { f with lexer.doctype := { forceLegacy := true } }
    | .doctypeName | .afterDoctypeName | .afterDoctypeKeyword _ | .beforeIdentifier _
    | .identifier _ _ | .afterIdentifier _ | .betweenIdentifiers =>
      f.forceLegacy.emitDoctype k
    | .bogusDoctype => f.emitDoctype k
    | .cdata => f.emitBuffer k
    | .cdataBracket => (f.pushBuffer "]").emitBuffer k
    | .cdataEnd => (f.pushBuffer "]]").emitBuffer k
    | _ => f
  (f.emit k .eof).sink

/-- Where pieces start with a byte order mark, as the number of characters from there on,
and how many characters there are in all. -/
def keptMarks : List (List Char) → List Nat × Nat :=
  List.foldr (fun piece (places, count) =>
    let count := count + piece.length
    (if piece.head? = some '\ufeff' then count :: places else places, count)) ([], 0)

/-- Feeds the pieces of a text to a sink. -/
def tokenize (sink : σ) (pieces : List (List Char)) : σ :=
  let pieces := Input.prepared false pieces
  finish k (run k (keptMarks pieces).1 ⟨{}, sink⟩ pieces.flatten)

end Lexer

end SiteSnapshot.Html
