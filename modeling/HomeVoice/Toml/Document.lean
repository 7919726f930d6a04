import HomeVoice.Toml.Scalar

/-!
# TOML documents

A document is a list of statements: headers of tables and pairs of a key and a value. Together
they must define every table and every key once. A table that is only passed through by a header
may still be defined by a header of its own, and one that is only passed through by a dotted key
may be extended by dotted keys.
-/

namespace HomeVoice.Toml

open Scan

/-- A value. What floating numbers and dates are is of no interest. -/
inductive Value where
  | string (text : String)
  | integer (value : Int)
  | floating
  | boolean (value : Bool)
  | dateTime
  | list (items : List Value)
  | table (members : List (String × Value))
  deriving Repr

/-- How a table came to be. -/
inductive TableForm where
  /-- By a header of its own. -/
  | header
  /-- By a header of a table inside it. -/
  | passed
  /-- By a dotted key. -/
  | dotted
  deriving DecidableEq, Repr

/-- What a key stands for while the document is put together. -/
inductive Item where
  | value (value : Value)
  | table (form : TableForm) (members : List (String × Item))
  /-- A list of tables of which only the last may be extended; it comes first. -/
  | tables (last : List (String × Item)) (before : List (List (String × Item)))
  deriving Repr

/-- The keys of a table with what they stand for. -/
abbrev Members := List (String × Item)

/-- The members with a key set. -/
def Members.set (members : Members) (key : String) (item : Item) : Members :=
  if members.any (·.1 == key) then
    members.map fun member => if member.1 == key then (key, item) else member
  else members ++ [(key, item)]

/-- Change the table that a path leads to; tables on the way that are not there come into being.
The change is told whether the table came to be by a dotted key. -/
def descend (byDots : Bool) (change : Bool → Members → Option Members) :
    List String → Bool → Members → Option Members
  | [], isDotted, members => change isDotted members
  | key :: path, _, members =>
    match members.lookup key with
    | none => do
      let inner ← descend byDots change path byDots []
      return members.set key (.table (if byDots then .dotted else .passed) inner)
    | some (.value _) => none
    | some (.table form inner) =>
      if byDots ∧ form = .header then none
      else do
        let inner ← descend byDots change path (form = .dotted) inner
        return members.set key (.table form inner)
    | some (.tables last before) => do
      let last ← descend byDots change path false last
      return members.set key (.tables last before)

/-- Add a pair to a table under a dotted key, which is split into the path and the last part. -/
def addPair (path : List String) (key : String) (value : Value) (members : Members) :
    Option Members :=
  descend true (fun isDotted members =>
    if isDotted = path.isEmpty ∨ (members.lookup key).isSome then none
    else some (members.set key (.value value))) path false members

/-- Open the table with this header. -/
def openTable (path : List String) (key : String) (root : Members) : Option Members :=
  descend false (fun _ members =>
    match members.lookup key with
    | none => some (members.set key (.table .header []))
    | some (.table .passed inner) => some (members.set key (.table .header inner))
    | some _ => none) path false root

/-- Open one more table of the list of tables with this header. -/
def openListTable (path : List String) (key : String) (root : Members) : Option Members :=
  descend false (fun _ members =>
    match members.lookup key with
    | none => some (members.set key (.tables [] []))
    | some (.tables last before) => some (members.set key (.tables [] (last :: before)))
    | some _ => none) path false root

mutual

/-- What a key stands for in the end. -/
def Item.result : Item → Value
  | .value value => value
  | .table _ members => .table (memberValues members)
  | .tables last before => .list (tableValues before ++ [.table (memberValues last)])

def memberValues : List (String × Item) → List (String × Value)
  | [] => []
  | (key, item) :: rest => (key, item.result) :: memberValues rest

/-- Tables in the order in which they were opened. -/
def tableValues : List (List (String × Item)) → List Value
  | [] => []
  | last :: before => tableValues before ++ [.table (memberValues last)]

end

/-- The parts of a dotted key that may be at most so many, and one more for the list of them. -/
def partLimit : Nat := 79

/-- One part of a key. -/
def simpleKey : Scan String := do
  let text ← basicString <|> literalString
    <|> takeWhile1 fun c => c.isAlphanum || c == '-' || c == '_'
  return String.ofList text

/-- A dotted key as the parts in front and the last part. -/
def key : Scan (List String × String) := do
  let parts ← separated1 (spaces *> simpleKey <* spaces) (char '.')
  if partLimit < parts.length then failure
  match parts.reverse with
  | last :: before => return (before.reverse, last)
  | [] => failure

/-- A value that holds no others. -/
def scalar : Scan Value := do
  let some c ← peek | failure
  if c = '"' ∨ c = '\'' then return .string (String.ofList (← stringText))
  else if c = 't' then do word "true".toList; return .boolean true
  else if c = 'f' then do word "false".toList; return .boolean false
  else (do dateTime; return .dateTime) <|> (do floating; return .floating)
    <|> (do return .integer (← integer))

/-- A list of values. -/
def listOf (item : Scan Value) : Scan Value := do
  let _ ← char '['
  let items ← maybe do
    let items ← separated1 (gaps *> item <* gaps) (char ',')
    let _ ← maybe (char ',')
    return items
  gaps
  let _ ← char ']'
  return .list (items.getD [])

/-- A pair of a dotted key and a value. -/
def pairOf (item : Scan Value) : Scan ((List String × String) × Value) := do
  let key ← key
  let _ ← char '='
  spaces
  return (key, ← item)

/-- A table on one line. -/
def inlineTableOf (item : Scan Value) : Scan Value := do
  let _ ← char '\x7b'
  let pairs ← separated (pairOf item <* spaces) (char ',')
  spaces
  let _ ← char '\x7d'
  match pairs.foldlM (fun members pair => addPair pair.1.1 pair.1.2 pair.2 members) [] with
  | some members => return .table (memberValues members)
  | none => failure

/-- A value in which at most so many lists and tables lie within each other. -/
def value : (levels : Nat) → Scan Value
  | 0 => scalar
  | levels + 1 => do
    match ← peek with
    | some '[' => listOf (value levels)
    | some '\x7b' => inlineTableOf (value levels)
    | _ => scalar

/-- The lists and tables that may lie within each other. -/
def levelLimit : Nat := 79

/-- A statement of a document. -/
inductive Statement where
  | table (path : List String) (key : String)
  | listTable (path : List String) (key : String)
  | pair (path : List String) (key : String) (value : Value)
  deriving Repr

/-- A header on its line. -/
def header : Scan Statement := do
  if ← looksAt (word ['[', '[']) then
    word ['[', '[']
    let (path, key) ← key
    word [']', ']']
    lineRest
    return .listTable path key
  else
    let _ ← char '['
    let (path, key) ← key
    let _ ← char ']'
    lineRest
    return .table path key

/-- A line of a document; a line without a statement is allowed. -/
def line : Scan (Option Statement) := do
  spaces
  match ← peek with
  | some '#' => do
    comment
    lineEnd
    return none
  | some '[' => some <$> header
  | some '\n' | some '\r' => do
    newline
    return none
  | some _ => do
    let ((path, key), value) ← pairOf (value levelLimit)
    lineRest
    return some (.pair path key value)
  | none => failure

/-- All statements of a document. -/
def statements : Scan (List Statement) := do
  let _ ← maybe (char '\uFEFF')
  let lines ← many line
  spaces
  atEnd
  return lines.filterMap id

/-- A document while it is put together: all members, and the header of the open table. -/
structure Draft where
  root : Members
  openPath : List String

/-- Put one more statement into the document. -/
def Draft.add (draft : Draft) : Statement → Option Draft
  | .table path key => do return ⟨← openTable path key draft.root, path ++ [key]⟩
  | .listTable path key => do return ⟨← openListTable path key draft.root, path ++ [key]⟩
  | .pair path key value => do
    let root ← descend false (fun _ members => addPair path key value members) draft.openPath
      false draft.root
    return { draft with root }

/-- The members of a document. -/
def read? (text : String) : Option (List (String × Value)) := do
  let (statements, _) ← statements.run text.toList
  let draft ← statements.foldlM Draft.add ⟨[], []⟩
  return memberValues draft.root

end HomeVoice.Toml
