import HomeVoice.Classifier.Keywords
import HomeVoice.Device

/-!
# The location that a descriptor suggests

Five attributes are asked one after the other, and the first that gives a location wins: the area
of the device, the area of what it belongs to, its identifier, its name and the name of what it
belongs to. An area is a location by itself, the others only by a keyword.
-/

namespace HomeVoice.Classifier

/-- The attribute that gave a location. -/
inductive LocationSource where
  | directArea | parentArea | identifierKeyword | nameKeyword | parentNameKeyword
  deriving DecidableEq, Repr

def LocationSource.token : LocationSource → String
  | .directArea => "direct_area"
  | .parentArea => "parent_area"
  | .identifierKeyword => "identifier_keyword"
  | .nameKeyword => "name_keyword"
  | .parentNameKeyword => "parent_name_keyword"

/-- The location that an area is: its name, or what its name is an alias of. -/
def areaLocation (area : String) : Option Location :=
  let name := normalizeName (area.map fun c => if c = '_' then ' ' else c)
  Name.ofText? ((areaAliases.lookup name).getD name)

/-- The location that a keyword in a text suggests. -/
def keywordLocation (text : String) : Option Location := do
  let line ← locationKeywords.find? fun line => containsAny [haystack text] line.2
  Name.ofText? line.1

/-- The attributes in the order in which they are asked, with how each gives a location. -/
def strategies (raw : Descriptor) : List (LocationSource × Option Location) :=
  [(.directArea, raw.area.bind areaLocation),
   (.parentArea, raw.parentArea.bind areaLocation),
   (.identifierKeyword, raw.stableId.bind keywordLocation),
   (.nameKeyword, raw.displayName.bind keywordLocation),
   (.parentNameKeyword, raw.parentName.bind keywordLocation)]

/-- The location that a descriptor suggests, and the attribute that gave it. -/
def location (raw : Descriptor) : Option (Location × LocationSource) :=
  (strategies raw).findSome? fun strategy => strategy.2.map (·, strategy.1)

example : [({ area := some "Wine_Cellar" } : Descriptor),
    { area := some "  ", stableId := some "light.office_desk" },
    { stableId := some "switch.plug" }].map
      (fun raw => (location raw).map fun found => (found.1.text, found.2)) =
    [some ("wine cellar", .directArea), some ("office", .identifierKeyword), none] := by
  decide +kernel

end HomeVoice.Classifier
