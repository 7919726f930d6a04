import HomeVoice.Proofs.Grammar.Influence
import HomeVoice.Proofs.Registry.Same

/-!
# Registries that are the same give the same grammar

Validation and generation look at a device but for the signs of the zeros among its bounds. So of
registries that are the same either none gives a grammar or both give grammars that are the same.
-/

namespace HomeVoice

open Time (Timestamp)

namespace Registry.Same

variable {first second : Registry}

/-- What can be addressed in a registry is in the essences of its devices. -/
theorem agrees (same : first.Same second) : first.Agrees ValueRange.essence second where
  addressees id := by
    have seen (found : Option Device) : found.bind (Device.addressee ValueRange.essence) =
        (found.map Device.essence).bind fun essence =>
          essence.1.address.map fun pair => (pair, essence.1.id, essence.2) := by
      cases found <;> rfl
    rw [seen, seen, same.get?]
  vocabularies _ pair _ := same.vocabulary pair.deviceType

/-- What one registry gives another one gives, too, if it is the same. -/
theorem generate (same : first.Same second) {options : GrammarOptions} {time : Timestamp}
    {artifact : Artifact} (made : first.generate options time = .ok artifact) :
    ∃ other, second.generate options time = .ok other ∧ (other == artifact) = true := by
  obtain ⟨clear, inhabited, sections, read, rfl⟩ := generate_ok made
  rw [same.agrees.conflicts] at clear
  rw [same.agrees.addressed_isEmpty] at inhabited
  rw [same.agrees.grammarSections] at read
  refine ⟨_, generate_eq clear inhabited read options time, ?_⟩
  show instBEqArtifact.beq _ _ = true
  simp only [instBEqArtifact.beq, Bool.and_eq_true, SortedMap.beq_iff @ValueRange.beq_iff,
    SortedMap.same_iff_eq, beq_iff_eq, same.version, same.agrees.pairIndex,
    same.agrees.valueRanges, and_self]

end Registry.Same

end HomeVoice
