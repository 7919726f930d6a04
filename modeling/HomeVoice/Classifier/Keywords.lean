import HomeVoice.Text.Case

/-!
# The keywords of the classifier

Keywords are looked for as parts of a text in lower case in which the separators of identifiers
have become spaces. Where a table pairs keywords with an answer, its order counts: the first line
that hits wins.
-/

namespace HomeVoice.Classifier

/-- The text in which keywords are looked for. -/
def haystack (text : String) : String :=
  String.ofList ((Text.lower text.toList).map fun c => if c = '_' ∨ c = '.' then ' ' else c)

/-- A piece of text occurs in another one. -/
def occurs (piece : List Char) : List Char → Bool
  | [] => piece.isEmpty
  | c :: rest => piece.isPrefixOf (c :: rest) || occurs piece rest

/-- One of the keywords occurs in one of the texts. -/
def containsAny (texts keywords : List String) : Bool :=
  texts.any fun text => keywords.any fun keyword => occurs keyword.toList text.toList

/-- Names of areas that mean another location. -/
def areaAliases : List (String × String) :=
  [("living", "living room"),
   ("livingroom", "living room"),
   ("family room", "living room"),
   ("master bedroom", "bedroom"),
   ("master", "bedroom"),
   ("main bedroom", "bedroom"),
   ("bed room", "bedroom"),
   ("ensuite", "bathroom"),
   ("en suite", "bathroom"),
   ("toilet", "bathroom"),
   ("kitchenette", "kitchen"),
   ("hall", "hallway"),
   ("corridor", "hallway"),
   ("study", "office")]

/-- Locations with their keywords. Bathrooms come before bedrooms, lest a master bathroom be taken
for a bedroom. -/
def locationKeywords : List (String × List String) :=
  [("bathroom", ["bathroom", "ensuite", "en suite", "shower", "toilet"]),
   ("bedroom", ["bedroom", "bed room", "master"]),
   ("kitchen", ["kitchen", "kitchenette"]),
   ("living room", ["living room", "livingroom", "living", "family room"]),
   ("lounge", ["lounge", "sitting room"]),
   ("dining room", ["dining"]),
   ("office", ["office", "study"]),
   ("hallway", ["hallway", "corridor", "landing", "entrance"]),
   ("nursery", ["nursery", "kids room"]),
   ("garage", ["garage"]),
   ("garden", ["garden", "patio", "terrace", "backyard"])]

/-- Platforms whose devices are all of one type. -/
def platformTypes : List (String × String) :=
  [("light", "lights"), ("climate", "heating"), ("water_heater", "heating"), ("fan", "fan")]

/-- Platforms of things that are only switched on and off. -/
def switchPlatforms : List String := ["switch", "input_boolean"]

def mediaPlatforms : List String := ["media_player"]

def coverPlatforms : List String := ["cover"]

def lightingKeywords : List String :=
  ["light", "lamp", "bulb", "led", "chandelier", "sconce", "spotlight"]

def displayKeywords : List String := ["tv", "television", "telly", "projector", "display"]

def audioKeywords : List String :=
  ["speaker", "audio", "music", "radio", "stereo", "soundbar", "sonos", "amp"]

/-- Covers that are no blinds. -/
def nonBlindKeywords : List String := ["garage", "door", "gate", "shutter"]

example : haystack "light.Living_Room" = "light living room" := by decide +kernel
example : containsAny ["ceiling lamp"] lightingKeywords = true ∧
    containsAny ["kettle plug"] lightingKeywords = false := by decide +kernel

end HomeVoice.Classifier
