/-
**Documents of YAML.**

A document is one node: a scalar, a sequence or a mapping, each with the tag it was given, if any.
A node may be given a name, and a reference to the name is the node itself; a reference from inside
the node that it names leads nowhere.

* `Node`: nodes;
* `Composer`: the state between two tokens, with the names and the handles known so far;
* `document?`: the document of a text, if the text holds no more than one.
-/
import AccessAudit.Yaml.Lexer

namespace AccessAudit.Yaml

/-- A node of a document. -/
inductive Node where
  | scalar (tag : Option String) (style : ScalarStyle) (text : String)
  | sequence (tag : Option String) (items : List Node)
  | mapping (tag : Option String) (entries : List (Node × Node))
  /-- A reference to a node from inside that node. -/
  | circular
  deriving Repr

/-- The node where nothing is written. -/
def Node.empty : Node :=
  .scalar none .plain ""

/-- A node that was given a name. -/
structure Anchor where
  serial : Nat
  name : String
  node : Node
  deriving Repr

/-- The state between two tokens. -/
structure Composer where
  tokens : List Token
  /-- The named nodes, the last one first. -/
  anchors : List Anchor := []
  /-- What the handles of tags stand for in this document. -/
  handles : List (String × String) := []
  deriving Repr

/-- A step that takes tokens and may fail. -/
abbrev Compose (α : Type) : Type := StateT Composer Option α

namespace Compose

/-- The next token, which is not taken. -/
def peek? : Compose (Option Token) := do
  return (← get).tokens.head?

/-- Take the next token. -/
def advance : Compose Unit :=
  modify fun composer => { composer with tokens := composer.tokens.tail }

/-- The next token is one of these. -/
def isAt (tokens : List Token) : Compose Bool := do
  return (← peek?).any tokens.contains

/-- Take the next token if it is this one. -/
def accept (token : Token) : Compose Bool := do
  if (← peek?) == some token then
    advance
    return true
  else return false

/-- Take the next token, which has to be this one. -/
def expect (token : Token) : Compose Unit := do
  guard (← accept token)

/-! ### Names and tags -/

/-- Take the name of the node that follows. -/
def acceptAnchor : Compose (Option String) := do
  match ← peek? with
  | some (.anchor name) =>
    advance
    return some name
  | _ => return none

/-- Take the tag of the node that follows. -/
def acceptTag : Compose (Option (String × String)) := do
  match ← peek? with
  | some (.tag handle suffix) =>
    advance
    return some (handle, suffix)
  | _ => return none

/-- What a handle stands for: as the document says, or else what it always stands for. -/
def meaning? (handle : String) : Compose String := do
  match (← get).handles.lookup handle with
  | some meaning => return meaning
  | none =>
    if handle = "!" then return "!"
    else if handle = "!!" then return "tag:yaml.org,2002:"
    else failure

/-- The tag that a handle and a suffix stand for. -/
def tagOf? : Option (String × String) → Compose (Option String)
  | none => return none
  | some ("", suffix) => return some suffix
  | some (handle, suffix) => do return some ((← meaning? handle) ++ suffix)

/-- Take the name and the tag of the node that follows, in either order. -/
def properties : Compose (Option String × Option String × Bool) := do
  let anchor ← acceptAnchor
  let tag ← acceptTag
  let anchor ← if anchor.isNone then acceptAnchor else pure anchor
  return (anchor, ← tagOf? tag, anchor.isSome || tag.isSome)

/-- Give a name to a node that is not finished: until then a reference to it leads nowhere. -/
def openAnchor (name : Option String) : Compose Nat := do
  let composer ← get
  let serial := composer.anchors.length
  match name with
  | none => return serial
  | some name =>
    set { composer with anchors := { serial, name, node := .circular } :: composer.anchors }
    return serial

/-- Finish the node that was given a name. -/
def closeAnchor (name : Option String) (serial : Nat) (node : Node) : Compose Node := do
  if name.isSome then
    modify fun composer =>
      { composer with
        anchors := composer.anchors.map fun anchor =>
          if anchor.serial = serial then { anchor with node } else anchor }
  return node

/-- The node that a reference names: the last one of that name. -/
def named? (name : String) : Compose Node := do
  match (← get).anchors.find? (·.name == name) with
  | some anchor => return anchor.node
  | none => failure

/-! ### Nodes -/

/-- The tokens after which a key or a value of a block mapping is empty. -/
def afterBlockKey : List Token := [.key, .value, .blockEnd]

mutual

/-- One node. Only inside a block may it be a block collection; where a key or a value of a block
mapping is expected, it may also be a sequence that is not indented. -/
def node (block indentless : Bool) : Nat → Compose Node
  | 0 => failure
  | fuel + 1 => do
    match ← peek? with
    | some (.reference name) =>
      advance
      named? name
    | _ =>
      let (anchor, tag, isMarked) ← properties
      let serial ← openAnchor anchor
      let content ← match ← peek? with
        | some (.scalar style text) =>
          advance
          pure (.scalar tag style text)
        | some .flowSequenceStart =>
          advance
          pure (.sequence tag (← flowItems true fuel))
        | some .flowMappingStart =>
          advance
          pure (.mapping tag (← flowEntries true fuel))
        | some .blockSequenceStart =>
          guard block
          advance
          pure (.sequence tag (← blockItems fuel))
        | some .blockMappingStart =>
          guard block
          advance
          pure (.mapping tag (← blockEntries fuel))
        | some .blockEntry =>
          if indentless then pure (.sequence tag (← indentlessItems fuel))
          else
            guard isMarked
            pure (.scalar tag .plain "")
        | _ =>
          guard isMarked
          pure (.scalar tag .plain "")
      closeAnchor anchor serial content

/-- The items of a block sequence up to its end. -/
def blockItems : Nat → Compose (List Node)
  | 0 => failure
  | fuel + 1 => do
    if ← accept .blockEntry then
      let item ← if ← isAt [.blockEntry, .blockEnd] then pure .empty else node true false fuel
      return item :: (← blockItems fuel)
    else
      expect .blockEnd
      return []

/-- The items of a sequence that is not indented, up to the next token that is no entry. -/
def indentlessItems : Nat → Compose (List Node)
  | 0 => failure
  | fuel + 1 => do
    if ← accept .blockEntry then
      let item ← if ← isAt (.blockEntry :: afterBlockKey) then pure .empty
        else node true false fuel
      return item :: (← indentlessItems fuel)
    else return []

/-- The entries of a block mapping up to its end. -/
def blockEntries : Nat → Compose (List (Node × Node))
  | 0 => failure
  | fuel + 1 => do
    if ← accept .key then
      let key ← if ← isAt afterBlockKey then pure .empty else node true true fuel
      let value ← blockValue fuel
      return (key, value) :: (← blockEntries fuel)
    else
      expect .blockEnd
      return []

/-- The value of a key of a block mapping, empty where there is none. -/
def blockValue : Nat → Compose Node
  | 0 => failure
  | fuel + 1 => do
    if ← accept .value then
      if ← isAt afterBlockKey then return .empty else node true true fuel
    else return .empty

/-- The items of a flow sequence up to its end. An item with a colon is a mapping of one entry. -/
def flowItems (isFirst : Bool) : Nat → Compose (List Node)
  | 0 => failure
  | fuel + 1 => do
    if ← accept .flowSequenceEnd then return []
    else
      if !isFirst then expect .flowEntry
      if ← accept .flowSequenceEnd then return []
      else
        let item ← if ← accept .key then flowPair fuel else node false false fuel
        return item :: (← flowItems false fuel)

/-- An item of a flow sequence that is a mapping of one entry, after the mark of its key. An empty
key takes the token after it along. -/
def flowPair : Nat → Compose Node
  | 0 => failure
  | fuel + 1 => do
    let ends : List Token := [.flowEntry, .flowSequenceEnd]
    let key ← if ← isAt (.value :: ends) then do advance; pure .empty else node false false fuel
    let value ← if ← accept .value then
        if ← isAt ends then pure .empty else node false false fuel
      else pure .empty
    return .mapping none [(key, value)]

/-- The entries of a flow mapping up to its end. A key without a colon has an empty value. -/
def flowEntries (isFirst : Bool) : Nat → Compose (List (Node × Node))
  | 0 => failure
  | fuel + 1 => do
    if ← accept .flowMappingEnd then return []
    else
      if !isFirst then expect .flowEntry
      if ← accept .flowMappingEnd then return []
      else
        let ends : List Token := [.flowEntry, .flowMappingEnd]
        let entry ← if ← accept .key then do
            let key ← if ← isAt (.value :: ends) then pure .empty else node false false fuel
            let value ← if ← accept .value then
                if ← isAt ends then pure .empty else node false false fuel
              else pure .empty
            pure (key, value)
          else do pure (← node false false fuel, .empty)
        return entry :: (← flowEntries false fuel)

end

/-! ### Documents -/

/-- Take the directives of a document: at most one version, which has to be 1.1 or 1.2, and no
handle twice. -/
def directives (hasVersion : Bool) : Nat → Compose Unit
  | 0 => failure
  | fuel + 1 => do
    match ← peek? with
    | some (.version major minor) =>
      guard (!hasVersion && major = 1 && (minor = 1 || minor = 2))
      advance
      directives true fuel
    | some (.handle name meaning) =>
      guard ((← get).handles.lookup name).isNone
      modify fun composer => { composer with handles := (name, meaning) :: composer.handles }
      advance
      directives hasVersion fuel
    | _ => return ()

/-- Take marks of the end of a document. -/
def documentEnds : Nat → Compose Unit
  | 0 => return ()
  | fuel + 1 => do
    if ← accept .documentEnd then documentEnds fuel

/-- The node of a document, which is empty where nothing is written. A document without directives
needs no mark of its beginning. -/
def document (fuel : Nat) : Compose Node := do
  let isMarked ← match ← peek? with
    | some (.version ..) | some (.handle ..) | some .documentStart => pure true
    | _ => pure false
  if isMarked then
    directives false fuel
    expect .documentStart
    match ← peek? with
    | none | some (.version ..) | some (.handle ..) | some .documentStart
    | some .documentEnd => return .empty
    | _ => node true false fuel
  else node true false fuel

end Compose

/-- The document of a text, or nothing for a text without one. A text with a second document, or
with anything else after the first, has none. -/
def document? (text : String) : Option (Option Node) := do
  let tokens ← tokens? text
  if tokens.isEmpty then return none
  else
    let fuel := 2 * tokens.length + 2
    let step : Compose Node := do
      let node ← Compose.document fuel
      Compose.documentEnds fuel
      return node
    let (node, composer) ← step.run { tokens }
    guard composer.tokens.isEmpty
    return some node

end AccessAudit.Yaml
