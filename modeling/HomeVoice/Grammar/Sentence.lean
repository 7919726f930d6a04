import HomeVoice.Grammar.Artifact

/-!
# Sentences

A sentence is a command in the one form in which it is decoded: a compact object of texts, with the
keys in a fixed order and a value only where the action asks for one.
-/

namespace HomeVoice

/-- What to do, where, and how much of it. -/
structure Sentence where
  pair : Pair
  action : Action
  value : Option Nat
  deriving DecidableEq, Repr

namespace Sentence

/-- The text of a sentence. -/
def text (sentence : Sentence) : List Char :=
  "\x7b\"deviceType\":\"".toList ++ sentence.pair.deviceType.text.toList
    ++ "\",\"action\":\"".toList ++ sentence.action.token.toList
    ++ "\",\"location\":\"".toList ++ sentence.pair.location.text.toList
    ++ (match sentence.value with
      | none => []
      | some value => "\",\"value\":\"".toList ++ (toString value).toList)
    ++ "\"\x7d".toList

/-- The sentence has a value of the list for its action, and none if its action takes none. -/
def ValuedBy (options : GrammarOptions) (sentence : Sentence) : Prop :=
  match sentence.action.valueKind with
  | none => sentence.value = none
  | some kind => ∃ value ∈ options.values kind, sentence.value = some value

/-- A device stands under the pair, and its type in the registry knows the action. -/
structure AdmittedBy (registry : Registry) (artifact : Artifact) (sentence : Sentence) : Prop where
  indexed : ∃ id, artifact.pairIndex.get? sentence.pair = some id
  spoken : ∃ actions, registry.vocabulary sentence.pair.deviceType = some actions ∧
    sentence.action ∈ actions
  valued : sentence.ValuedBy artifact.options

end Sentence

end HomeVoice
