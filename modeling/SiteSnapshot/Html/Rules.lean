import SiteSnapshot.Html.Construction

/-!
# Rules of the tree construction

One function per mode says what a token does to the document under construction. A rule
answers with an `Outcome`: it is done, the token is to be looked at again in another mode,
a run of characters has to be split into blanks and others, or the lexer has to set out
anew or to change to raw text. Rules that several modes share come first, so that no
function here is recursive; `Build.process` repeats the choice of a rule until a token is
used up.
-/

namespace SiteSnapshot.Html

/-- What a rule answers. -/
inductive Outcome where
  | done
  | again (mode : Mode) (item : Item)
  | split (text : String)
  | anew
  | raw (kind : RawText)
  | plaintext
deriving Inhabited

/-- The blanks that are treated apart from other characters. -/
def isSpace (c : Char) : Bool :=
  c == '\t' || c == '\n' || c == '\x0c' || c == '\r' || c == ' '

/-- True when some character is no blank. -/
def hasSolid (text : String) : Bool :=
  text.any fun c => !isSpace c

namespace Build

/-- The outcome of a rule that uses the token up. -/
def done (b : Build Unit) : Build Outcome := do
  b
  return .done

/-! ### Rules that several modes share -/

/-- Opens the element of a start tag whose content is raw text. -/
def openRaw (t : TagToken) (kind : RawText) : Build Outcome := do
  discard (openTag t)
  modify fun s => { s with returnMode := s.mode, mode := .text }
  return .raw kind

/-- A further start tag of the outermost element only adds attributes to it. -/
def rootAgain (t : TagToken) : Build Outcome := do
  if !(← isOpen "template") then
    let root ← rootElement
    modify fun s => { s with arena := s.arena.addMissingAttributes root.id t.attributes }
  return .done

/-- The start tag of an element that belongs to the head. -/
def metadataStart (t : TagToken) : Build Outcome := do
  if ["base", "basefont", "bgsound", "link", "meta"].contains t.name then
    done (discard (addTag t))
  else if t.name = "title" then openRaw t .rcdata
  else if t.name = "script" then openRaw t .script
  else if t.name = "template" then done do
    discard (openTag t)
    pushMarker
    modify fun s => { s with
      framesetOk := false, mode := .inTemplate, templateModes := .inTemplate :: s.templateModes }
  else openRaw t .rawtext

/-- The end tag of a template. -/
def templateEnd : Build Outcome := do
  if ← isOpen "template" then
    impliedEnd Names.impliedEndThorough
    popThroughNamed "template"
    clearToMarker
    modify fun s => { s with templateModes := s.templateModes.tail }
    setMode (← resetMode)
  return .done

/-- The end of the input inside a template closes it. -/
def templateEof : Build Outcome := do
  if ← isOpen "template" then
    popThroughNamed "template"
    clearToMarker
    modify fun s => { s with templateModes := s.templateModes.tail }
    let mode ← resetMode
    setMode mode
    return .again mode .eof
  else return .done

/-- A foreign element, opened unless it closes itself. -/
def openForeign (space : Namespace) (t : TagToken) : Build Outcome := done do
  let tag : Tag :=
    ⟨space, Foreign.adjustName space t.name, t.attributes.map (Foreign.adjustAttribute space)⟩
  discard (if t.selfClosing then insertClosed tag else insertOpen tag)

/-- True for a start tag whose type is hidden. -/
def isHidden (t : TagToken) : Bool :=
  t.attributes.any fun a => a.name == "type" && a.value.map Char.toLower == "hidden"

/-! ### Before and in the head -/

def initialRule : Item → Build Outcome
  | .characters .mixed text => return .split text
  | .characters .blank _ => return .done
  | .comment text => done (appendComment Arena.documentId text)
  | item => do
    modify fun s => { s with legacy := true }
    return .again .beforeHtml item

def beforeHtmlRule : Item → Build Outcome
  | .comment text => done (appendComment Arena.documentId text)
  | .characters .mixed text => return .split text
  | .characters .blank _ => return .done
  | item => do
    match item with
    | .startTag t =>
      if t.name = "html" then
        openRoot t.attributes
        setMode .beforeHead
        return .done
    | .endTag t =>
      if !(["head", "body", "html", "br"].contains t.name) then return .done
    | _ => pure ()
    openRoot []
    return .again .beforeHead item

def beforeHeadRule : Item → Build Outcome
  | .characters .mixed text => return .split text
  | .characters .blank _ => return .done
  | .comment text => done (insertComment text)
  | item => do
    match item with
    | .startTag t =>
      if t.name = "html" then return ← rootAgain t
      if t.name = "head" then
        let e ← openTag t
        modify fun s => { s with head := some e, mode := .inHead }
        return .done
    | .endTag t =>
      if !(["head", "body", "html", "br"].contains t.name) then return .done
    | _ => pure ()
    let e ← openImplied "head"
    modify fun s => { s with head := some e }
    return .again .inHead item

def inHeadRule : Item → Build Outcome
  | .characters .mixed text => return .split text
  | .characters .blank text => done (insertText text)
  | .comment text => done (insertComment text)
  | item => do
    match item with
    | .startTag t =>
      if t.name = "html" then return ← rootAgain t
      if Names.metadata.contains t.name || t.name = "noscript" then return ← metadataStart t
      if t.name = "head" then return .done
    | .endTag t =>
      if t.name = "head" then
        pop
        setMode .afterHead
        return .done
      if t.name = "template" then return ← templateEnd
      if !(["body", "html", "br"].contains t.name) then return .done
    | _ => pure ()
    pop
    return .again .afterHead item

def afterHeadRule : Item → Build Outcome
  | .characters .mixed text => return .split text
  | .characters .blank text => done (insertText text)
  | .comment text => done (insertComment text)
  | item => do
    match item with
    | .startTag t =>
      if t.name = "html" then return ← rootAgain t
      if t.name = "body" then
        discard (openTag t)
        modify fun s => { s with framesetOk := false, mode := .inBody }
        return .done
      if t.name = "frameset" then
        discard (openTag t)
        setMode .inFrameset
        return .done
      if Names.metadata.contains t.name then
        match (← get).head with
        | none => return .done
        | some head =>
          push head
          let outcome ← metadataStart t
          removeFromStack head.id
          return outcome
      if t.name = "head" then return .done
    | .endTag t =>
      if t.name = "template" then return ← templateEnd
      if !(["body", "html", "br"].contains t.name) then return .done
    | _ => pure ()
    discard (openImplied "body")
    return .again .inBody item

/-! ### In the body -/

/-- A list item or a definition closes the one before it. -/
def openItem (t : TagToken) : Build Unit := do
  framesetNotOk
  let closing := if t.name = "li" then ["li"] else ["dd", "dt"]
  let barrier := Names.special.filter fun n => !(["address", "div", "p"].contains n)
  let open? := (← get).stack.find? fun e => e.isOneOf closing || e.isOneOf barrier
  match open? with
  | some e =>
    if e.isOneOf closing then
      impliedEndExcept e.name
      popThroughNamed e.name
  | none => pure ()
  closeParagraphInScope
  discard (openTag t)

/-- The start tag of an element without content. -/
def addVoid (t : TagToken) : Build Unit := do
  reconstruct
  discard (addTag t)
  if !(t.name = "input" && isHidden t) then framesetNotOk

/-- The start tag of a selection. -/
def openSelect (t : TagToken) : Build Unit := do
  reconstruct
  discard (openTag t)
  modify fun s => { s with
    framesetOk := false
    mode :=
      if [Mode.inTable, .inCaption, .inTableBody, .inRow, .inCell].contains s.mode
      then .inSelectInTable else .inSelect }

/-- A start tag in the body. -/
def bodyStart (t : TagToken) : Build Outcome := do
  let name := t.name
  if name = "html" then rootAgain t
  else if Names.metadata.contains name then metadataStart t
  else if name = "body" then done do
    match ← bodyElement with
    | some body =>
      if !(← isOpen "template") then
        framesetNotOk
        modify fun s => { s with arena := s.arena.addMissingAttributes body.id t.attributes }
    | none => pure ()
  else if name = "frameset" then done do
    if (← get).framesetOk then
      match ← bodyElement with
      | some body =>
        modify fun s => { s with
          arena := s.arena.detach body.id
          stack := s.stack.drop (s.stack.length - 1) }
        discard (openTag t)
        setMode .inFrameset
      | none => pure ()
  else if Names.blocks.contains name then done do
    closeParagraphInScope
    discard (openTag t)
  else if Names.headings.contains name then done do
    closeParagraphInScope
    if (← current).isOneOf Names.headings then pop
    discard (openTag t)
  else if name = "pre" ∨ name = "listing" then done do
    closeParagraphInScope
    discard (openTag t)
    modify fun s => { s with skipNewline := true, framesetOk := false }
  else if name = "form" then done do
    let inTemplate ← isOpen "template"
    if (← get).form.isNone || inTemplate then
      closeParagraphInScope
      let e ← openTag t
      if !inTemplate then modify fun s => { s with form := some e.id }
  else if name = "li" ∨ name = "dd" ∨ name = "dt" then done (openItem t)
  else if name = "plaintext" then do
    closeParagraphInScope
    discard (openTag t)
    return .plaintext
  else if name = "button" then done do
    if ← namedInScope Scope.default "button" then
      impliedEnd Names.impliedEnd
      popThroughNamed "button"
    reconstruct
    discard (openTag t)
    framesetNotOk
  else if name = "a" then done do
    closeOpenLink
    reconstruct
    openFormatting t
  else if Names.formatting.contains name then done do
    reconstruct
    openFormatting t
  else if name = "nobr" then done do
    reconstruct
    if ← namedInScope Scope.default "nobr" then
      adoptionAgency "nobr"
      reconstruct
    openFormatting t
  else if name = "applet" ∨ name = "marquee" ∨ name = "object" then done do
    reconstruct
    discard (openTag t)
    pushMarker
    framesetNotOk
  else if name = "table" then done do
    if !(← get).legacy then closeParagraphInScope
    discard (openTag t)
    modify fun s => { s with framesetOk := false, mode := .inTable }
  else if ["area", "br", "embed", "img", "keygen", "wbr", "input"].contains name then
    done (addVoid t)
  else if name = "param" ∨ name = "source" ∨ name = "track" then done (discard (addTag t))
  else if name = "hr" then done do
    closeParagraphInScope
    discard (addTag t)
    framesetNotOk
  else if name = "image" then done (addVoid { t with name := "img" })
  else if name = "textarea" then do
    modify fun s => { s with skipNewline := true, framesetOk := false }
    openRaw t .rcdata
  else if name = "xmp" then do
    closeParagraphInScope
    reconstruct
    framesetNotOk
    openRaw t .rawtext
  else if name = "iframe" then do
    framesetNotOk
    openRaw t .rawtext
  else if name = "noembed" ∨ name = "noscript" then openRaw t .rawtext
  else if name = "select" then done (openSelect t)
  else if name = "optgroup" ∨ name = "option" then done do
    if ← currentIs "option" then pop
    reconstruct
    discard (openTag t)
  else if name = "rb" ∨ name = "rtc" then done do
    if ← namedInScope Scope.default "ruby" then impliedEnd Names.impliedEnd
    discard (openTag t)
  else if name = "rp" ∨ name = "rt" then done do
    if ← namedInScope Scope.default "ruby" then impliedEndExcept "rtc"
    discard (openTag t)
  else if name = "math" then do
    reconstruct
    openForeign .mathml t
  else if name = "svg" then do
    reconstruct
    openForeign .svg t
  else if (Names.tableParts ++ ["frame", "head"]).contains name then return .done
  else done do
    reconstruct
    discard (openTag t)

/-- The end tag of a form. -/
def closeForm : Build Unit := do
  if ← isOpen "template" then
    if ← namedInScope Scope.default "form" then
      impliedEnd Names.impliedEnd
      popThroughNamed "form"
  else
    match (← get).form with
    | none => pure ()
    | some form =>
      modify fun s => { s with form := none }
      if ← isInScope Scope.default (·.id == form) then
        impliedEnd Names.impliedEnd
        removeFromStack form

/-- An end tag in the body. -/
def bodyEnd (t : TagToken) : Build Outcome := do
  let name := t.name
  if name = "template" then templateEnd
  else if name = "body" then done do
    if ← namedInScope Scope.default "body" then setMode .afterBody
  else if name = "html" then do
    if ← namedInScope Scope.default "body" then return .again .afterBody (.endTag t)
    else return .done
  else if Names.closedAsBlocks.contains name then done do
    if ← namedInScope Scope.default name then
      impliedEnd Names.impliedEnd
      popThroughNamed name
  else if name = "form" then done closeForm
  else if name = "p" then done do
    if !(← namedInScope Scope.button "p") then discard (openImplied "p")
    closeParagraph
  else if name = "li" ∨ name = "dd" ∨ name = "dt" then done do
    if ← namedInScope (if name = "li" then Scope.listItem else Scope.default) name then
      impliedEndExcept name
      popThroughNamed name
  else if Names.headings.contains name then done do
    if ← isInScope Scope.default (·.isOneOf Names.headings) then
      impliedEnd Names.impliedEnd
      popThrough (·.isOneOf Names.headings)
  else if name = "a" ∨ name = "nobr" ∨ Names.formatting.contains name then
    done (adoptionAgency name)
  else if name = "applet" ∨ name = "marquee" ∨ name = "object" then done do
    if ← namedInScope Scope.default name then
      impliedEnd Names.impliedEnd
      popThroughNamed name
      clearToMarker
  else if name = "br" then done (addVoid { name := "br" })
  else done (closeGeneric name)

def inBodyRule : Item → Build Outcome
  | .null => return .done
  | .characters _ text => done do
    reconstruct
    if hasSolid text then framesetNotOk
    insertText text
  | .comment text => done (insertComment text)
  | .startTag t => bodyStart t
  | .endTag t => bodyEnd t
  | .eof => do
    if (← get).templateModes.isEmpty then return .done else templateEof

/-- Applies the rules of the body while content is taken out of a table. -/
def fosterRule (item : Item) : Build Outcome := do
  modify fun s => { s with fostering := true }
  let outcome ← inBodyRule item
  modify fun s => { s with fostering := false }
  return outcome

/-- Text in an element of raw text. The lexer sets out anew after a script. -/
def textRule : Item → Build Outcome
  | .characters _ text => done (insertText text)
  | .eof => do
    pop
    return .again (← get).returnMode .eof
  | .endTag t => do
    pop
    modify fun s => { s with mode := s.returnMode }
    return if t.name = "script" then .anew else .done
  | _ => return .done

/-! ### In tables -/

/-- Characters in a table are gathered, if they could belong there, until it is clear
whether all are blanks. -/
def tableCharacters (item : Item) : Build Outcome := do
  if (← current).isOneOf ["table", "tbody", "tfoot", "thead", "tr"] then
    modify fun s => { s with returnMode := s.mode, tableText := #[] }
    return .again .inTableText item
  else fosterRule item

def inTableRule (item : Item) : Build Outcome := do
  match item with
  | .null => tableCharacters item
  | .characters .. => tableCharacters item
  | .comment text => done (insertComment text)
  | .eof => inBodyRule item
  | .startTag t =>
    let name := t.name
    if name = "caption" then done do
      popBackTo ["html", "table", "template"]
      pushMarker
      discard (openTag t)
      setMode .inCaption
    else if name = "colgroup" then done do
      popBackTo ["html", "table", "template"]
      discard (openTag t)
      setMode .inColumnGroup
    else if name = "col" then do
      popBackTo ["html", "table", "template"]
      discard (openImplied "colgroup")
      return .again .inColumnGroup item
    else if Names.rowGroups.contains name then done do
      popBackTo ["html", "table", "template"]
      discard (openTag t)
      setMode .inTableBody
    else if name = "td" ∨ name = "th" ∨ name = "tr" then do
      popBackTo ["html", "table", "template"]
      discard (openImplied "tbody")
      return .again .inTableBody item
    else if name = "table" then do
      if ← namedInScope Scope.table "table" then
        popThroughNamed "table"
        return .again (← resetMode) item
      else return .done
    else if name = "style" ∨ name = "script" ∨ name = "template" then metadataStart t
    else if name = "input" ∧ isHidden t then done (discard (addTag t))
    else if name = "form" then done do
      if !(← isOpen "template") && (← get).form.isNone then
        let e ← addTag t
        modify fun s => { s with form := some e.id }
    else fosterRule item
  | .endTag t =>
    if t.name = "table" then done do
      if ← namedInScope Scope.table "table" then
        popThroughNamed "table"
        setMode (← resetMode)
    else if t.name = "template" then templateEnd
    else if (Names.tableParts ++ ["body", "html"]).contains t.name then return .done
    else fosterRule item

/-- Gathers characters of a table; any other token decides where they go. -/
def inTableTextRule (item : Item) : Build Outcome := do
  match item with
  | .null => return .done
  | .characters split text => done do
    modify fun s => { s with tableText := s.tableText.push (split, text) }
  | item =>
    let pending := (← get).tableText
    modify fun s => { s with tableText := #[] }
    let solid := pending.any fun (split, text) =>
      split == .solid || (split == .mixed && hasSolid text)
    for (split, text) in pending do
      if solid then discard (fosterRule (.characters split text)) else insertText text
    return .again (← get).returnMode item

def inCaptionRule (item : Item) : Build Outcome := do
  let closes :=
    match item with
    | .startTag t => Names.tableParts.contains t.name
    | .endTag t => t.name = "table" ∨ t.name = "caption"
    | _ => false
  if closes then
    if ← namedInScope Scope.table "caption" then
      impliedEnd Names.impliedEnd
      popThroughNamed "caption"
      clearToMarker
      match item with
      | .endTag { name := "caption", .. } => done (setMode .inTable)
      | _ => return .again .inTable item
    else return .done
  else
    match item with
    | .endTag t =>
      if (Names.tableParts ++ ["body", "html"]).contains t.name then return .done
      else inBodyRule item
    | _ => inBodyRule item

def inColumnGroupRule : Item → Build Outcome
  | .characters .mixed text => return .split text
  | .characters .blank text => done (insertText text)
  | .comment text => done (insertComment text)
  | .eof => inBodyRule .eof
  | item => do
    match item with
    | .startTag t =>
      if t.name = "html" then return ← rootAgain t
      if t.name = "col" then return ← done (discard (addTag t))
      if t.name = "template" then return ← metadataStart t
    | .endTag t =>
      if t.name = "colgroup" then
        if ← currentIs "colgroup" then
          pop
          setMode .inTable
        return .done
      if t.name = "col" then return .done
      if t.name = "template" then return ← templateEnd
    | _ => pure ()
    if ← currentIs "colgroup" then
      pop
      return .again .inTable item
    else return .done

def inTableBodyRule (item : Item) : Build Outcome := do
  let context := Names.rowGroups ++ ["template", "html"]
  let leave : Build Outcome := do
    if ← isInScope Scope.table (·.isOneOf ["table", "tbody", "tfoot"]) then
      popBackTo context
      pop
      return .again .inTable item
    else return .done
  match item with
  | .startTag t =>
    if t.name = "tr" then done do
      popBackTo context
      discard (openTag t)
      setMode .inRow
    else if t.name = "th" ∨ t.name = "td" then do
      popBackTo context
      discard (openImplied "tr")
      return .again .inRow item
    else if (["caption", "col", "colgroup"] ++ Names.rowGroups).contains t.name then leave
    else inTableRule item
  | .endTag t =>
    if Names.rowGroups.contains t.name then done do
      if ← namedInScope Scope.table t.name then
        popBackTo context
        pop
        setMode .inTable
    else if t.name = "table" then leave
    else if ["body", "caption", "col", "colgroup", "html", "td", "th", "tr"].contains t.name then
      return .done
    else inTableRule item
  | _ => inTableRule item

def inRowRule (item : Item) : Build Outcome := do
  let context := ["tr", "template", "html"]
  let leave : Build Outcome := do
    if ← namedInScope Scope.table "tr" then
      popBackTo context
      pop
      return .again .inTableBody item
    else return .done
  match item with
  | .startTag t =>
    if t.name = "th" ∨ t.name = "td" then done do
      popBackTo context
      discard (openTag t)
      setMode .inCell
      pushMarker
    else if (["caption", "col", "colgroup", "tr"] ++ Names.rowGroups).contains t.name then leave
    else inTableRule item
  | .endTag t =>
    if t.name = "tr" then done do
      if ← namedInScope Scope.table "tr" then
        popBackTo context
        pop
        setMode .inTableBody
    else if t.name = "table" then leave
    else if Names.rowGroups.contains t.name then do
      if ← namedInScope Scope.table t.name then leave else return .done
    else if ["body", "caption", "col", "colgroup", "html", "td", "th"].contains t.name then
      return .done
    else inTableRule item
  | _ => inTableRule item

/-- Closes the open cell. -/
def closeCell : Build Unit := do
  impliedEnd Names.impliedEnd
  popThrough (·.isOneOf ["td", "th"])
  clearToMarker

def inCellRule (item : Item) : Build Outcome := do
  match item with
  | .startTag t =>
    if Names.tableParts.contains t.name then
      if ← isInScope Scope.table (·.isOneOf ["td", "th"]) then
        closeCell
        return .again .inRow item
      else return .done
    else inBodyRule item
  | .endTag t =>
    if t.name = "td" ∨ t.name = "th" then done do
      if ← namedInScope Scope.table t.name then
        impliedEnd Names.impliedEnd
        popThroughNamed t.name
        clearToMarker
        setMode .inRow
    else if ["body", "caption", "col", "colgroup", "html"].contains t.name then return .done
    else if (["table", "tr"] ++ Names.rowGroups).contains t.name then
      if ← namedInScope Scope.table t.name then
        closeCell
        return .again .inRow item
      else return .done
    else inBodyRule item
  | _ => inBodyRule item

/-! ### In selections -/

def inSelectRule (item : Item) : Build Outcome := do
  match item with
  | .null => return .done
  | .characters _ text => done (insertText text)
  | .comment text => done (insertComment text)
  | .eof => inBodyRule .eof
  | .startTag t =>
    if t.name = "html" then rootAgain t
    else if t.name = "option" then done do
      if ← currentIs "option" then pop
      discard (openTag t)
    else if t.name = "optgroup" then done do
      if ← currentIs "option" then pop
      if ← currentIs "optgroup" then pop
      discard (openTag t)
    else if t.name = "hr" then done do
      if ← currentIs "option" then pop
      if ← currentIs "optgroup" then pop
      discard (addTag t)
    else if t.name = "select" then done closeSelect
    else if t.name = "input" ∨ t.name = "keygen" ∨ t.name = "textarea" then do
      if ← namedInScope Scope.select "select" then
        popThroughNamed "select"
        return .again (← resetMode) item
      else return .done
    else if t.name = "script" ∨ t.name = "template" then metadataStart t
    else return .done
  | .endTag t =>
    if t.name = "optgroup" then done do
      let inGroup := (← get).stack[1]?.any (·.isNamed "optgroup")
      if (← currentIs "option") && inGroup then pop
      if ← currentIs "optgroup" then pop
    else if t.name = "option" then done do
      if ← currentIs "option" then pop
    else if t.name = "select" then done closeSelect
    else if t.name = "template" then templateEnd
    else return .done
where
  /-- Closes the open selection. -/
  closeSelect : Build Unit := do
    if ← namedInScope Scope.select "select" then
      popThroughNamed "select"
      setMode (← resetMode)

def inSelectInTableRule (item : Item) : Build Outcome := do
  let parts := ["caption", "table", "tbody", "tfoot", "thead", "tr", "td", "th"]
  match item with
  | .startTag t =>
    if parts.contains t.name then
      popThroughNamed "select"
      return .again (← resetMode) item
    else inSelectRule item
  | .endTag t =>
    if parts.contains t.name then
      if ← namedInScope Scope.table t.name then
        popThroughNamed "select"
        return .again (← resetMode) item
      else return .done
    else inSelectRule item
  | _ => inSelectRule item

/-! ### In templates -/

def inTemplateRule (item : Item) : Build Outcome := do
  match item with
  | .characters .. => inBodyRule item
  | .comment _ => inBodyRule item
  | .eof => templateEof
  | .null => return .done
  | .endTag t => if t.name = "template" then templateEnd else return .done
  | .startTag t =>
    if Names.metadata.contains t.name then metadataStart t
    else
      let mode : Mode :=
        if (["caption", "colgroup"] ++ Names.rowGroups).contains t.name then .inTable
        else if t.name = "col" then .inColumnGroup
        else if t.name = "tr" then .inTableBody
        else if t.name = "td" ∨ t.name = "th" then .inRow
        else .inBody
      modify fun s => { s with templateModes := mode :: s.templateModes.tail }
      return .again mode item

/-! ### After the body, and framesets -/

def afterBodyRule : Item → Build Outcome
  | .characters .mixed text => return .split text
  | .characters .blank text => inBodyRule (.characters .blank text)
  | .comment text => done do appendComment (← rootElement).id text
  | .eof => return .done
  | item => do
    match item with
    | .startTag t => if t.name = "html" then return ← rootAgain t
    | .endTag t =>
      if t.name = "html" then
        setMode .afterAfterBody
        return .done
    | _ => pure ()
    return .again .inBody item

def inFramesetRule : Item → Build Outcome
  | .characters .mixed text => return .split text
  | .characters .blank text => done (insertText text)
  | .comment text => done (insertComment text)
  | .startTag t => do
    if t.name = "html" then rootAgain t
    else if t.name = "frameset" then done (discard (openTag t))
    else if t.name = "frame" then done (discard (addTag t))
    else if t.name = "noframes" then metadataStart t
    else return .done
  | .endTag t => done do
    if t.name = "frameset" && (← get).stack.length ≠ 1 then
      pop
      if !(← currentIs "frameset") then setMode .afterFrameset
  | _ => return .done

def afterFramesetRule : Item → Build Outcome
  | .characters .mixed text => return .split text
  | .characters .blank text => done (insertText text)
  | .comment text => done (insertComment text)
  | .startTag t => do
    if t.name = "html" then rootAgain t
    else if t.name = "noframes" then metadataStart t
    else return .done
  | .endTag t => done do
    if t.name = "html" then setMode .afterAfterFrameset
  | _ => return .done

def afterAfterBodyRule : Item → Build Outcome
  | .characters .mixed text => return .split text
  | .characters .blank text => inBodyRule (.characters .blank text)
  | .comment text => done (appendComment Arena.documentId text)
  | .eof => return .done
  | item => do
    match item with
    | .startTag t => if t.name = "html" then return ← rootAgain t
    | _ => pure ()
    return .again .inBody item

def afterAfterFramesetRule : Item → Build Outcome
  | .characters .mixed text => return .split text
  | .characters .blank text => inBodyRule (.characters .blank text)
  | .comment text => done (appendComment Arena.documentId text)
  | .startTag t => do
    if t.name = "html" then rootAgain t
    else if t.name = "noframes" then metadataStart t
    else return .done
  | _ => return .done

/-! ### Foreign content -/

/-- The rule of a mode. -/
def modeRule (mode : Mode) (item : Item) : Build Outcome :=
  match mode with
  | .initial => initialRule item
  | .beforeHtml => beforeHtmlRule item
  | .beforeHead => beforeHeadRule item
  | .inHead => inHeadRule item
  | .afterHead => afterHeadRule item
  | .inBody => inBodyRule item
  | .text => textRule item
  | .inTable => inTableRule item
  | .inTableText => inTableTextRule item
  | .inCaption => inCaptionRule item
  | .inColumnGroup => inColumnGroupRule item
  | .inTableBody => inTableBodyRule item
  | .inRow => inRowRule item
  | .inCell => inCellRule item
  | .inSelect => inSelectRule item
  | .inSelectInTable => inSelectInTableRule item
  | .inTemplate => inTemplateRule item
  | .afterBody => afterBodyRule item
  | .inFrameset => inFramesetRule item
  | .afterFrameset => afterFramesetRule item
  | .afterAfterBody => afterAfterBodyRule item
  | .afterAfterFrameset => afterAfterFramesetRule item

/-- True when a token falls under the rules of foreign content, given the innermost open
element. -/
def isForeign (current : OpenElement) (item : Item) : Bool :=
  if current.space == .html then false
  else
    match item with
    | .eof => false
    | .characters .. | .null =>
      !(current.isMathText || current.isSvgHtml || current.readsAsHtml)
    | .startTag t =>
      !((current.isMathText && t.name != "mglyph" && t.name != "malignmark") ||
        current.isSvgHtml || current.readsAsHtml ||
        (current.space == .mathml && current.name == "annotation-xml" && t.name == "svg"))
    | _ => true

/-- A start tag that ends the foreign content around it. -/
def breakOut (item : Item) : Build Outcome := do
  modify fun s => { s with
    stack := s.stack.dropWhile fun e => !(e.space == .html || e.isMathText || e.isSvgHtml) }
  modeRule (← get).mode item

/-- Closes the innermost element whose name fits an end tag, if no HTML element is open
in it. -/
def closeForeign (t : TagToken) : Build Outcome := do
  let stack := (← get).stack
  let fits (e : OpenElement) : Bool := e.name.map Char.toLower == t.name
  let inner := stack.takeWhile fun e => !fits e && e.space != .html
  match stack[inner.length]? with
  | none => return .done
  | some e =>
    if inner.length + 1 = stack.length then return .done
    else if e.space == .html then modeRule (← get).mode (.endTag t)
    else done (modify fun s => { s with stack := stack.drop (inner.length + 1) })

def foreignRule : Item → Build Outcome
  | .null => done (insertText "\ufffd")
  | .characters _ text => done do
    if hasSolid text then framesetNotOk
    insertText text
  | .comment text => done (insertComment text)
  | .startTag t => do
    let styled := t.attributes.any fun a => ["color", "face", "size"].contains a.name
    if Names.breakout.contains t.name || (t.name == "font" && styled) then
      breakOut (.startTag t)
    else openForeign (← current).space t
  | .endTag t =>
    if t.name = "br" ∨ t.name = "p" then breakOut (.endTag t) else closeForeign t
  | .eof => return .done

/-! ### Whole tokens -/

/-- The first run of a text that is all blanks or has none, what it is, and the rest. -/
def splitBlanks (text : String) : Split × String × String :=
  let chars := text.toList
  let blank := (chars.head?.map isSpace).getD false
  let run := chars.takeWhile fun c => isSpace c == blank
  (if blank then .blank else .solid, String.ofList run, String.ofList (chars.drop run.length))

/-- Applies rules until the tokens are used up. Every application uses a token up, splits
one, closes elements, or moves on among the modes; the fuel allows for all of these. -/
def process : Nat → List Item → Build Continuation
  | 0, _ => return .markup
  | _, [] => return .markup
  | fuel + 1, item :: rest => do
    let current ← current
    let outcome ←
      if isForeign current item && !(← get).stack.isEmpty then foreignRule item
      else modeRule (← get).mode item
    match outcome with
    | .done => process fuel rest
    | .again mode item =>
      setMode mode
      process fuel (item :: rest)
    | .split text =>
      let (split, first, others) := splitBlanks text
      if others.isEmpty then process fuel (.characters split first :: rest)
      else process fuel (.characters split first :: .characters .mixed others :: rest)
    | .anew => return .anew
    | .raw kind => return .raw kind
    | .plaintext => return .plaintext

/-- The document type sets the mode of the page, if nothing came before it. -/
def acceptDoctype (d : Doctype) : Build Unit := do
  if (← get).mode = .initial then
    let id ← create (.doctype (d.name.getD ""))
    modify fun s => { s with
      arena := s.arena.append Arena.documentId id, legacy := d.isLegacy, mode := .beforeHtml }

/-- Takes a token from the lexer. -/
def accept (t : Token) : Build Continuation := do
  let skip := (← get).skipNewline
  modify fun s => { s with skipNewline := false }
  let fuel (units : Nat) : Build Nat :=
    return 4 * (units + (← get).stack.length + (← get).templateModes.length) + 64
  match t with
  | .fault => return .markup
  | .doctype d => do acceptDoctype d; return .markup
  | .startTag t => process (← fuel 1) [.startTag t]
  | .endTag t => process (← fuel 1) [.endTag t]
  | .comment text => process (← fuel 1) [.comment text]
  | .null => process (← fuel 1) [.null]
  | .eof => process (← fuel 1) [.eof]
  | .characters text =>
    let text := if skip && text.startsWith "\n" then String.ofList (text.toList.drop 1) else text
    if text.isEmpty then return .markup
    else process (← fuel text.length) [.characters .mixed text]

end Build

end SiteSnapshot.Html
