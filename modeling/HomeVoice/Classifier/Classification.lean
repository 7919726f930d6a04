import HomeVoice.Classifier.DeviceType
import HomeVoice.Classifier.Location

/-!
# What the classifier makes of a descriptor

Type and location are guessed independently of each other, and each guess may be missing.
-/

namespace HomeVoice

/-- What a descriptor suggests. -/
structure Classification where
  deviceType : Option DeviceType
  place : Option (Location × Classifier.LocationSource)
  deriving DecidableEq, Repr

namespace Classification

/-- Classify a descriptor. -/
def ofDescriptor (raw : Descriptor) : Classification :=
  ⟨Classifier.deviceType raw, Classifier.location raw⟩

def location (classification : Classification) : Option Location :=
  classification.place.map Prod.fst

def source (classification : Classification) : Option Classifier.LocationSource :=
  classification.place.map Prod.snd

/-- Both guesses are there. -/
def isComplete (classification : Classification) : Bool :=
  classification.deviceType.isSome && classification.place.isSome

end Classification

end HomeVoice
