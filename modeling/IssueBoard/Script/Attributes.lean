import IssueBoard.Script.Functions

/-!
# Attributes of values

Methods are attributes of texts, lists and objects. Pages of search results and entries of the query
cache are made of attributes, and a script can set them. An entry keeps what is set as it is, and
takes note of it where the cache works with it; what the cache cannot work with spoils the entry.
-/

namespace IssueBoard.Script

variable {κ ι : Type}

/-- Why a value has no attribute of a name. -/
def unknownAttribute (owner : Value) (name : String) : Trouble :=
  match owner with
  | .builtin function =>
    if function.isType then .noTypeAttribute function.name name
    else .noAttribute owner.typeName name
  | other => .noAttribute other.typeName name

/-- The method of a value that goes by a name. -/
def methodOf? (owner : Value) (name : String) : Option Method :=
  Method.all.find? fun method => method.name == name && owner.hasMethod method

/-- An attribute of a value. -/
def memberOf (host : Host κ ι) (desk : Desk κ) (owner : Value) (name : String) :
    Except Trouble Value :=
  let found : Option Value := match owner with
    | .server _ => if name == "search" then some .search else none
    | .page cell => (desk.pageAttributes cell).lookup name
    | .entry slot => desk.entryAttribute? slot name
    | .builtin .str => (Method.ofTexts.find? fun method => method.name == name).map .unbound
    | owner => (methodOf? owner name).map (.method owner)
  match found, owner with
  | some value, _ => .ok value
  | none, .server _ =>
    if name == "web_url" then (host.server.webUrl.map .text).mapError .ofFailure
    else .error (unknownAttribute owner name)
  | none, owner => .error (unknownAttribute owner name)

/-! ## Setting attributes -/

/-- The number of pages that a value is. -/
def pageCount? (value : Value) : Option Nat :=
  value.integer?.bind fun n => if 0 ≤ n then some n.toNat else none

/-- Why the cache cannot work with an attribute of an entry that is set to a value. -/
def settingFault? (name : String) (value : Value) : Option Fault :=
  if name == "items" then
    match value with
    | .list _ => none
    | .text _ => some .notAnEntry
    | _ => some .entryType
  else if name == "pages_fetched" then
    if (pageCount? value).isSome then none else some .entryType
  else none

/-- The entry with what the cache takes note of when an attribute is set. A list of items is the
entry's own from then on. -/
def noteSetting (desk : Desk κ) (name : String) (value : Value) (entry : QueryEntry Value) :
    QueryEntry Value :=
  let kept := entry.remember name value
  if name == "total_count" then { kept with total := .ofData (desk.view value) }
  else if name == "pages_fetched" then
    { kept with pagesFetched := (pageCount? value).getD entry.pagesFetched }
  else if name == "exhausted" then { kept with exhausted := desk.isTrue value }
  else if name == "items" then
    match value with
    | .list place => { entry.forget name with items := desk.items place }
    | _ => kept
  else kept

/-- Sets an attribute of an entry of the query cache. -/
def setEntryAttribute (desk : Desk κ) (slot : Nat) (name : String) (value : Value) : Desk κ :=
  match desk.cache.entries[slot]? with
  | some entry =>
    let entry := noteSetting desk name value entry
    let fault := entry.settings.findSome? fun (name, value) => settingFault? name value
    { desk with cache := desk.cache.replace slot { entry with fault } }
  | none => desk

/-- A list of attributes with one set to a value. -/
def setAttribute (name : String) (value : Value) (attributes : List (String × Value)) :
    List (String × Value) :=
  if attributes.any (·.1 == name) then
    attributes.map fun (known, old) => (known, if known == name then value else old)
  else attributes ++ [(name, value)]

/-- Why an attribute of a value cannot be set. -/
def fixedAttribute (owner : Value) (name : String) : Trouble :=
  match owner with
  | .builtin function =>
    if function.isType then .fixedTypeAttribute name function.name
    else unknownAttribute owner name
  | owner =>
    if (methodOf? owner name).isSome then .fixedAttribute owner.typeName name
    else unknownAttribute owner name

/-- Sets an attribute of a value. The server, the helpers and errors take any attribute and have no
use for it. -/
def setMember (owner : Value) (name : String) (value : Value) : Action κ Unit :=
  match owner with
  | .entry slot => Action.change fun desk => ((), setEntryAttribute desk slot name value)
  | .page cell => Action.change fun desk =>
    ((), desk.setCell cell (.page (setAttribute name value (desk.pageAttributes cell))))
  | .server _ => return ()
  | .helper _ => return ()
  | .error .. => return ()
  | owner => throw (fixedAttribute owner name)

end IssueBoard.Script
