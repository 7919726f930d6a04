import HomeVoice.Classifier.Keywords
import HomeVoice.Device

/-!
# The device type that a descriptor suggests

The platform decides, with the help of the identifier, the name and the class of the device. A
thing that is only switched on and off is left to the user unless a keyword says that it is a lamp.
-/

namespace HomeVoice.Classifier

/-- The keywords by which media players are told apart. -/
def mediaKeywords : List (List String × String) :=
  [(displayKeywords, "tv"), (audioKeywords, "music")]

/-- The name of the type of a device on a platform, by its texts: the identifier, the name and the
class. -/
def typeName (platform id name deviceClass : String) : Option String :=
  match platformTypes.lookup platform with
  | some type => some type
  | none =>
    if switchPlatforms.contains platform then
      if containsAny [id, name] lightingKeywords then some "lights" else none
    else if mediaPlatforms.contains platform then
      match mediaKeywords.find? fun line => containsAny [id, name, deviceClass] line.1 with
      | some line => some line.2
      | none => some "music"
    else if coverPlatforms.contains platform then
      some (if containsAny [id, name] nonBlindKeywords then "switch" else "blinds")
    else none

/-- An attribute as the text in which keywords are looked for. -/
def attributeText (value : Option String) : String := haystack (value.getD "")

/-- The device type that a descriptor suggests. -/
def deviceType (raw : Descriptor) : Option DeviceType := do
  let platform ← raw.platform
  let name ← typeName platform (attributeText raw.stableId) (attributeText raw.displayName)
    (attributeText raw.deviceClass)
  Name.ofText? name

example : [({ stableId := some "switch.desk", displayName := some "Desk Lamp" } : Descriptor),
    { stableId := some "switch.kettle" }, { stableId := some "0x1", domain := some "climate" }].map
      (fun raw => (deviceType raw).map (·.text)) =
    [some "lights", none, some "heating"] := by decide +kernel

end HomeVoice.Classifier
