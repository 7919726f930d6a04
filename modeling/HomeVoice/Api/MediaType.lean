/-!
# Media types of request bodies

A media type is a type, a slash and a subtype, and possibly parameters behind semicolons. A body
is taken for a document if its type is `application/json`, or if it is an application's type that
ends in `+json`. Letter case does not matter; a text that is no media type is none of these.
-/

namespace HomeVoice.Api

/-- The characters of the names and values of a media type. -/
def isTokenChar (c : Char) : Bool := c.isAlphanum || "!#$%&'*+-.^_\x60|~".toList.contains c

/-- The parts of a text at a separator: what is in front of the first one and what is behind it,
if there is one. -/
def cutAt (separator : Char) (text : List Char) : List Char × Option (List Char) :=
  match text.dropWhile (· ≠ separator) with
  | [] => (text, none)
  | _ :: rest => (text.takeWhile (· ≠ separator), some rest)

/-- Where the reading of parameters is. -/
inductive ParameterStage where
  /-- In front of a name, where blanks may be. -/
  | start
  | name
  /-- Behind the equals sign. -/
  | valueStart
  | value
  | quoted (isEmpty : Bool)
  /-- Behind a quoted value. -/
  | closed
  deriving DecidableEq, Repr

namespace ParameterStage

/-- The stage behind one more character; none if the character cannot stand there. -/
def next : ParameterStage → Char → Option ParameterStage
  | .start, c => if c = ' ' then some .start else if isTokenChar c then some .name else none
  | .name, c => if c = '=' then some .valueStart else if isTokenChar c then some .name else none
  | .valueStart, c =>
    if c = '"' then some (.quoted true) else if isTokenChar c then some .value else none
  | .value, c => if c = ';' then some .start else if isTokenChar c then some .value else none
  | .quoted isEmpty, c =>
    if c = '"' ∧ !isEmpty then some .closed
    else if c.toNat < 0x20 ∨ 0x7E < c.toNat then none else some (.quoted false)
  | .closed, c => if c = ';' then some .start else if c = ' ' then some .closed else none

/-- The parameters may end here. -/
def isFinal : ParameterStage → Bool
  | .start | .valueStart | .value | .closed => true
  | _ => false

end ParameterStage

/-- The text behind the first semicolon consists of parameters. -/
def areParameters (text : List Char) : Bool :=
  match text.foldlM ParameterStage.next .start with
  | some stage => stage.isFinal
  | none => false

/-- The type, the subtype and its ending behind the last plus sign. -/
structure MediaType where
  type : List Char
  subtype : List Char
  ending : Option (List Char)
  deriving DecidableEq, Repr

/-- A subtype and its ending. A plus sign at the start is a character like others. -/
def splitSubtype : List Char → List Char × Option (List Char)
  | [] => ([], none)
  | first :: rest =>
    if rest.contains '+' then
      let ending := (rest.reverse.takeWhile (· ≠ '+')).reverse
      (first :: rest.take (rest.length - ending.length - 1), some ending)
    else (first :: rest, none)

/-- The media type that a text writes, in small letters. -/
def MediaType.ofText? (text : String) : Option MediaType := do
  let (type, rest) := cutAt '/' (text.toList.map Char.toLower)
  let (subtype, parameters) := cutAt ';' (← rest)
  if type.isEmpty || subtype.isEmpty || !type.all isTokenChar || !subtype.all isTokenChar then none
  else if (parameters.map areParameters).getD true then
    let (name, ending) := splitSubtype subtype
    some ⟨type, name, ending⟩
  else none

/-- The body is a document. -/
def MediaType.isDocument (media : MediaType) : Bool :=
  media.type == "application".toList &&
    (media.subtype == "json".toList || media.ending == some "json".toList)

example : ["application/json", "Application/JSON; charset=utf-8", "application/problem+json",
    "application/json;", "application/json; a=\"b c\" "].map
      (fun text => (MediaType.ofText? text).any MediaType.isDocument) =
    List.replicate 5 true := by decide +kernel
example : ["", "text/json", "application/jsonx", "application/json ; a=b", "application/+json",
    "application/json; a"].map
      (fun text => (MediaType.ofText? text).any MediaType.isDocument) =
    List.replicate 6 false := by decide +kernel

end HomeVoice.Api
