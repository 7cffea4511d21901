/-
**Configurations in YAML.**

A field for a text takes any scalar, with its characters as they are, whatever they suggest; what
has a default may be left empty. The required actions of a check are stricter: they have to be
texts by what they stand for. Unknown keys are passed over, except that what a check holds under
them has to be readable, and a known key may not be repeated.

* `Node.entries?`, `Node.items?`: records and lists;
* `Node.isReadable`: a value that a check may hold under an unknown key;
* `Config.ofYaml?`: the configuration in a text.
-/
import AccessAudit.Config.Basic
import AccessAudit.Yaml.Node
import AccessAudit.Yaml.Plain

namespace AccessAudit

namespace Yaml

/-! ### Tags -/

/-- The tag of a type that every reader knows. -/
def coreTag (name : String) : String :=
  "tag:yaml.org,2002:" ++ name

/-- A tag that is known to one application only. -/
def isLocalTag (tag : Option String) : Bool :=
  tag.any fun tag => tag.startsWith "!"

namespace Node

/-! ### Reading by type -/

/-- Nothing is written here. -/
def isEmpty : Node → Bool
  | scalar _ .plain "" => true
  | _ => false

/-- The characters of a scalar. -/
def text? : Node → Option String
  | scalar _ _ text => some text
  | _ => none

/-- A truth value, written plainly or in a block with its tag. -/
def bool? : Node → Option Bool
  | scalar _ .plain text => truth? text
  | scalar (some tag) .literal text => if tag = coreTag "bool" then truth? text else none
  | _ => none

/-- The entries of a mapping all of whose keys are scalars; nothing written is no entries. -/
def entries? : Node → Option (List (String × Node))
  | mapping _ entries => entries.mapM fun (key, value) => key.text?.map (·, value)
  | node => if node.isEmpty then some [] else none

/-- The items of a sequence; nothing written is no items. -/
def items? : Node → Option (List Node)
  | sequence _ items => some items
  | node => if node.isEmpty then some [] else none

/-- A list each of whose items can be read. -/
def listOf? {α : Type} (read? : Node → Option α) (node : Node) : Option (List α) := do
  (← node.items?).mapM read?

/-- Whether a value that may be missing is there. Null counts as missing, unless it is tagged as
something else or written between quotes; what is tagged as null has to be null. -/
def isThere? : Node → Option Bool
  | scalar tag .plain text =>
    match tag with
    | none => some (!text.isEmpty && !isNull text)
    | some tag =>
      if tag = coreTag "null" then if isNull text then some false else none
      else some true
  | _ => some true

/-- A value that may be missing. -/
def optional? {α : Type} (read? : Node → Option α) (node : Node) : Option (Option α) := do
  if ← node.isThere? then return some (← read? node) else return none

/-! ### Reading by what is written -/

/-- What a scalar stands for, by its tag or else by its characters; nothing for a scalar that is
not what its tag says. -/
def scalarValue? (tag : Option String) (style : ScalarStyle) (text : String) :
    Option PlainValue :=
  match tag with
  | none => some (if style = .plain then .of text else .text)
  | some tag =>
    if isLocalTag tag then none
    else if tag = coreTag "bool" then (truth? text).map .bool
    else if tag = coreTag "int" then
      match (readInteger? text.toList).filter isWide with
      | some n => if isNarrow n then some .number else none
      | none => none
    else if tag = coreTag "float" then if isFloat text then some .number else none
    else if tag = coreTag "null" then if isNull text then some .null else none
    else some .text

/-- How deep the value of a check may be nested: a document may be nested 128 deep, and the check
is the third level of it. -/
def nestingLimit : Nat := 125

mutual

/-- The value can be read by what is written, with so many levels to go. -/
def isReadable (levels : Nat) : Node → Bool
  | scalar tag style text =>
    match scalarValue? tag style text with
    | none | some .wideNumber => false
    | some _ => true
  | sequence tag items => !isLocalTag tag && 0 < levels && areReadable (levels - 1) items
  | mapping tag entries => !isLocalTag tag && 0 < levels && areEntriesReadable (levels - 1) entries
  | circular => false

/-- Every item can be read by what is written. -/
def areReadable (levels : Nat) : List Node → Bool
  | [] => true
  | item :: rest => isReadable levels item && areReadable levels rest

/-- Every key and every value can be read by what is written. -/
def areEntriesReadable (levels : Nat) : List (Node × Node) → Bool
  | [] => true
  | (key, value) :: rest =>
    isReadable levels key && isReadable levels value && areEntriesReadable levels rest

end

/-- The characters of a scalar that stands for a text. -/
def plainText? : Node → Option String
  | scalar tag style text => if scalarValue? tag style text = some .text then some text else none
  | _ => none

/-- A sequence of texts. -/
def plainTexts? : Node → Option (List String)
  | sequence tag items => if isLocalTag tag then none else items.mapM plainText?
  | _ => none

/-! ### Fields -/

/-- The value of a key, which may be missing but not repeated. -/
def field? (name : String) (entries : List (String × Node)) : Option (Option Node) :=
  match entries.filter fun entry => entry.1 == name with
  | [] => some none
  | [(_, value)] => some (some value)
  | _ => none

/-- A field with a default for when its key is missing. -/
def fieldOr? {α : Type} (fallback : α) (read? : Node → Option α) (name : String)
    (entries : List (String × Node)) : Option α := do
  match ← field? name entries with
  | none => return fallback
  | some value => read? value

end Node

end Yaml

open Yaml (Node)

/-! ### The parts of a configuration -/

/-- The settings of the log from a mapping. -/
def Logging.ofYaml? (node : Node) : Option Logging := do
  let entries ← node.entries?
  let level ← Node.fieldOr? none (Node.optional? Node.text?) "level" entries
  let layout ← Node.fieldOr? none (Node.optional? Node.bool?) "json" entries
  let dir ← Node.fieldOr? none (Node.optional? Node.text?) "dir" entries
  return { level, json := layout, dir }

/-- A check from a mapping. It has to have a name. -/
def NamedCheck.ofYaml? (node : Node) : Option NamedCheck := do
  let entries ← node.entries?
  let others := entries.filter fun entry => !NamedCheck.ownFields.contains entry.1
  guard (others.all fun entry => entry.2.isReadable Node.nestingLimit)
  let name ← (← Node.field? "name" entries).bind Node.text?
  let scope ← Node.fieldOr? "" Node.text? "scope" entries
  let snapshot ← Node.fieldOr? "" Node.text? "snapshot" entries
  let actions ← Node.fieldOr? [] Node.plainTexts? "actions" others
  let dataActions ← Node.fieldOr? [] Node.plainTexts? "dataActions" others
  return { name, scope, snapshot, requirement := { actions, dataActions } }

/-- A configuration from a mapping. -/
def Config.ofNode? (node : Node) : Option Config := do
  let entries ← node.entries?
  let logging ← Node.fieldOr? none (Node.optional? Logging.ofYaml?) "logging" entries
  let checks ← Node.fieldOr? [] (Node.listOf? NamedCheck.ofYaml?) "checks" entries
  return { logging, checks }

/-- The configuration in a text; a text without a document is the empty configuration. -/
def Config.ofYaml? (text : String) : Option Config := do
  match ← Yaml.document? text with
  | none => return {}
  | some node => Config.ofNode? node

end AccessAudit
