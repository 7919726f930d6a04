import HomeVoice.Config.Environment
import HomeVoice.Proofs.Outcome
import Mathlib.Data.List.TakeWhile

/-!
# Where the service listens

A configuration that can be used says where to listen. An address of the environment with a port
that can be read is taken as it is, whatever else says where to listen. Without such an address
host and port are found each by itself: in the variable, in the file or by default. In between
stands an address whose port cannot be read: its host is taken and its port is not.
-/

namespace HomeVoice

section Texts

variable {text host rest : String} {port : UInt16}

/-- An address is cut at its last colon. -/
theorem splitAddress?_eq_some_iff :
    splitAddress? text = some (host, rest) ↔ text = host ++ ":" ++ rest ∧ ':' ∉ rest.toList := by
  unfold splitAddress?
  dsimp only
  constructor
  · intro cut
    split at cut
    next c front found =>
      cases cut
      have stopped := List.head?_dropWhile_not (· ≠ ':') text.toList.reverse
      have colon : c = ':' := by
        rw [found] at stopped
        simpa using stopped
      have whole := @List.takeWhile_append_dropWhile _ (· ≠ ':') text.toList.reverse
      rw [found, colon] at whole
      constructor
      · apply String.toList_inj.mp
        have forwards := congrArg List.reverse whole
        rw [List.reverse_append, List.reverse_cons, List.reverse_reverse] at forwards
        simpa using forwards.symm
      · intro member
        rw [String.toList_ofList, List.mem_reverse] at member
        simpa using List.mem_takeWhile_imp member
    · cases cut
  · rintro ⟨rfl, plain⟩
    have backwards : (host ++ ":" ++ rest).toList.reverse =
        rest.toList.reverse ++ ':' :: host.toList.reverse := by
      simp
    have behind : ∀ c ∈ rest.toList.reverse, decide (c ≠ ':') = true := by
      intro c member
      refine decide_eq_true fun colon => plain ?_
      exact colon ▸ List.mem_reverse.mp member
    rw [backwards, List.dropWhile_append_of_pos behind, List.takeWhile_append_of_pos behind]
    simp

theorem splitAddress?_eq_none_iff : splitAddress? text = none ↔ ':' ∉ text.toList := by
  constructor
  · intro uncut member
    unfold splitAddress? at uncut
    dsimp only at uncut
    split at uncut
    · cases uncut
    next all =>
      have colon := List.dropWhile_eq_nil_iff.mp all ':' (List.mem_reverse.mpr member)
      simp at colon
  · intro plain
    cases cut : splitAddress? text with
    | none => rfl
    | some parts =>
      obtain ⟨same, _⟩ := splitAddress?_eq_some_iff.mp cut
      refine absurd ?_ plain
      rw [same]
      simp

/-- A port is written with digits, of which any number may be leading zeros, and fits into 16 bits;
a plus sign may stand in front. -/
theorem portOfText?_eq_some_iff :
    portOfText? text = some port ↔ ∃ digits, (text.toList = digits ∨ text.toList = '+' :: digits) ∧
      digits ≠ [] ∧ digits.all Char.isDigit = true ∧
        Decimal.natOfDigits digits = port.toNat := by
  have numbered {digits : List Char} :
      (if digits ≠ [] ∧ digits.all Char.isDigit ∧ Decimal.natOfDigits digits < UInt16.size then
        some (UInt16.ofNat (Decimal.natOfDigits digits)) else none) = some port ↔
      digits ≠ [] ∧ digits.all Char.isDigit = true ∧ Decimal.natOfDigits digits = port.toNat := by
    rw [Option.ite_none_right_eq_some, and_assoc, and_assoc, Option.some.injEq]
    refine and_congr_right fun _ => and_congr_right fun _ => ?_
    constructor
    · rintro ⟨small, rfl⟩
      exact (UInt16.toNat_ofNat_of_lt small).symm
    · intro same
      rw [same]
      exact ⟨port.toNat_lt, UInt16.ofNat_toNat⟩
  unfold portOfText?
  dsimp only
  split
  next signed digits shape =>
    rw [numbered, shape]
    constructor
    · intro read
      exact ⟨digits, .inr rfl, read⟩
    · rintro ⟨others, rfl | same, given, all, value⟩
      · simp at all
      · cases same
        exact ⟨given, all, value⟩
  next unsigned =>
    rw [numbered]
    constructor
    · intro read
      exact ⟨_, .inl rfl, read⟩
    · rintro ⟨others, rfl | same, read⟩
      · exact read
      · exact absurd same (unsigned others)

/-- There is no colon in a port. -/
theorem colon_notMem_of_portOfText? (read : portOfText? text = some port) : ':' ∉ text.toList := by
  obtain ⟨digits, shape, _, all, _⟩ := portOfText?_eq_some_iff.mp read
  have plain : ':' ∉ digits := by
    intro member
    exact absurd (List.all_eq_true.mp all _ member) (by decide)
  rcases shape with shape | shape <;> simp [shape, plain]

end Texts

namespace ConfigFile

open Toml (sectionOf)

/-- The settings of the section `server`. -/
def server : ConfigFile → List (String × Toml.Value)
  | .content text =>
    ((Toml.read? text).bind (sectionOf · "server" ["host", "port"])).getD []
  | _ => []

/-- The host that the file sets. -/
def host? (file : ConfigFile) : Option String :=
  (file.server.lookup "host").bind Toml.Value.text?

/-- The port that the file sets. -/
def port? (file : ConfigFile) : Option UInt16 :=
  (file.server.lookup "port").bind Toml.Value.word16?

end ConfigFile

theorem Toml.setting_eq_some {α : Type} {members : List (String × Value)} {name : String}
    {read : Value → Option α} {default result : α}
    (found : setting members name read default = some result) :
    result = ((members.lookup name).bind read).getD default := by
  unfold setting at found
  cases listed : members.lookup name with
  | none =>
    rw [listed] at found
    exact (Option.some.inj found).symm
  | some value =>
    rw [listed] at found
    have taken : read value = some result := found
    rw [Option.bind_some, taken, Option.getD_some]

namespace Config

variable {file : ConfigFile} {environment : Environment} {config : Config}

/-- What a file does not set has its default. -/
theorem server_of_ofFile (described : ofFile file = .ok config) :
    config.host = file.host?.getD ({} : Config).host ∧
      config.port = file.port?.getD ({} : Config).port := by
  cases file with
  | absent =>
    cases described
    exact ⟨rfl, rfl⟩
  | unreadable => cases described
  | content text =>
    unfold ofFile at described
    dsimp only at described
    cases made : ofText? text with
    | none =>
      rw [made] at described
      cases described
    | some found =>
      rw [made] at described
      cases described
      obtain ⟨members, read, made⟩ := Option.bind_eq_some_iff.mp made
      obtain ⟨server, listed, made⟩ := Option.bind_eq_some_iff.mp made
      -- The other sections.
      iterate 5 obtain ⟨_, _, made⟩ := Option.bind_eq_some_iff.mp made
      obtain ⟨host, setHost, made⟩ := Option.bind_eq_some_iff.mp made
      obtain ⟨port, setPort, made⟩ := Option.bind_eq_some_iff.mp made
      iterate 7 obtain ⟨_, _, made⟩ := Option.bind_eq_some_iff.mp made
      have settings : (ConfigFile.content text).server = server := by
        simp only [ConfigFile.server, read, Option.bind_some, listed, Option.getD_some]
      unfold ConfigFile.host? ConfigFile.port?
      rw [settings, ← Toml.setting_eq_some setHost, ← Toml.setting_eq_some setPort]
      cases made
      exact ⟨rfl, rfl⟩

/-- What every configuration is like that is used. -/
structure IsUsable (config : Config) : Prop where
  port : config.port ≠ 0
  percentStep : 1 ≤ config.options.percentStep.toNat ∧ config.options.percentStep.toNat ≤ 100
  temperatureStep :
    1 ≤ config.options.temperatureStep.toNat ∧ config.options.temperatureStep.toNat ≤ 100
  timeout : config.timeout ≠ 0

theorem isStep_iff {step : UInt32} : isStep step = true ↔ 1 ≤ step.toNat ∧ step.toNat ≤ 100 := by
  have positive : step ≠ 0 ↔ 1 ≤ step.toNat := by
    rw [Ne, ← UInt32.toNat_inj, UInt32.toNat_zero]
    omega
  have scale : GrammarOptions.lastValue = 100 := rfl
  rw [isStep, Bool.and_eq_true, decide_eq_true_iff, decide_eq_true_iff, positive, scale]

theorem fault?_eq_none_iff : config.fault? = none ↔ config.IsUsable := by
  have usable : config.IsUsable ↔ config.port ≠ 0 ∧ isStep config.options.percentStep = true ∧
      isStep config.options.temperatureStep = true ∧ config.timeout ≠ 0 := by
    simp only [isStep_iff]
    constructor
    · intro usable
      exact ⟨usable.port, usable.percentStep, usable.temperatureStep, usable.timeout⟩
    · rintro ⟨port, percentStep, temperatureStep, timeout⟩
      exact ⟨port, percentStep, temperatureStep, timeout⟩
  rw [usable, fault?]
  grind

/-- A configuration is what the environment makes of that of the file, if it can be used. -/
theorem load_eq_ok_iff : load file environment = .ok config ↔
    ∃ described, ofFile file = .ok described ∧ config = environment.override described ∧
      config.IsUsable := by
  unfold load
  rw [bind_eq_ok]
  refine exists_congr fun described => and_congr_right fun _ => ?_
  rw [← fault?_eq_none_iff]
  dsimp only
  cases fault : (environment.override described).fault? with
  | some fault' =>
    refine iff_of_false nofun ?_
    rintro ⟨rfl, usable⟩
    rw [fault] at usable
    cases usable
  | none =>
    constructor
    · rintro ⟨⟩
      exact ⟨rfl, fault⟩
    · rintro ⟨rfl, _⟩
      rfl

/-- The host that is found without an address: in its variable, in the file or by default. -/
def ownHost (file : ConfigFile) (environment : Environment) : String :=
  environment.host.getD (file.host?.getD ({} : Config).host)

/-- The port that is found without an address. A variable that is no port counts as missing. -/
def ownPort (file : ConfigFile) (environment : Environment) : UInt16 :=
  (environment.port.bind portOfText?).getD (file.port?.getD ({} : Config).port)

/-- Where host and port come from. -/
inductive ListensAt (file : ConfigFile) (environment : Environment) (config : Config) : Prop where
  | bound {host rest : String} {port : UInt16}
      (given : environment.bind = some (host ++ ":" ++ rest)) (read : portOfText? rest = some port)
      (hosted : config.host = host) (ported : config.port = port)
      (address : config.address = host ++ ":" ++ toString port.toNat)
  /-- The port of the address cannot be read, and only the host of it is taken. -/
  | halved {host rest : String} (given : environment.bind = some (host ++ ":" ++ rest))
      (last : ':' ∉ rest.toList) (unread : portOfText? rest = none)
      (hosted : config.host = host) (ported : config.port = ownPort file environment)
  | separate (plain : ∀ text, environment.bind = some text → ':' ∉ text.toList)
      (hosted : config.host = ownHost file environment)
      (ported : config.port = ownPort file environment)

/-- An address of the environment is taken as a whole or not at all. -/
def AllOrNothing (file : ConfigFile) (environment : Environment) (config : Config) : Prop :=
  (∃ host rest port, environment.bind = some (host ++ ":" ++ rest) ∧
    portOfText? rest = some port ∧ config.address = host ++ ":" ++ toString port.toNat) ∨
  config.host = ownHost file environment ∧ config.port = ownPort file environment

theorem listensAt_override {described : Config} (made : ofFile file = .ok described) :
    (environment.override described).ListensAt file environment := by
  obtain ⟨hosted, ported⟩ := server_of_ofFile made
  cases cut : environment.bind.bind splitAddress? with
  | none =>
    refine .separate ?_ ?_ ?_
    · intro text given
      rw [given, Option.bind_some] at cut
      exact splitAddress?_eq_none_iff.mp cut
    · show environment.host?.getD described.host = _
      rw [Environment.host?, cut, hosted, ownHost]
    · show environment.port?.getD described.port = _
      rw [Environment.port?, cut, ported, ownPort]
  | some parts =>
    obtain ⟨host, rest⟩ := parts
    obtain ⟨text, given, parted⟩ := Option.bind_eq_some_iff.mp cut
    obtain ⟨rfl, last⟩ := splitAddress?_eq_some_iff.mp parted
    have taken : (environment.override described).host = host := by
      show environment.host?.getD described.host = _
      rw [Environment.host?, cut, Option.getD_some]
    cases read : portOfText? rest with
    | some port =>
      have numbered : (environment.override described).port = port := by
        show environment.port?.getD described.port = _
        rw [Environment.port?, cut]
        simp [read]
      exact .bound given read taken numbered (by rw [address, taken, numbered])
    | none =>
      refine .halved given last read taken ?_
      show environment.port?.getD described.port = _
      rw [Environment.port?, cut, ported, ownPort]
      simp [read]

/-- Every configuration that is used listens where its file and its environment say, and its port,
steps and timeout can be used. -/
theorem listensAt_of_load (loaded : load file environment = .ok config) :
    config.ListensAt file environment ∧ config.IsUsable := by
  obtain ⟨described, made, rfl, usable⟩ := load_eq_ok_iff.mp loaded
  exact ⟨listensAt_override made, usable⟩

section Mistyped

/-- A file for one machine only. -/
def loopback : ConfigFile := .content "[server]\nhost = '127.0.0.1'\nport = 8080\n"

/-- A port with a digit too many. -/
def mistyped : Environment := { bind := some "10.0.0.7:80800", port := some "+09090" }

theorem listensAt_of_load_mistyped :
    ∃ config, load loopback mistyped = .ok config ∧ config.ListensAt loopback mistyped ∧
      config.IsUsable ∧ config.address = "10.0.0.7:9090" := by
  have found : (load loopback mistyped).toOption.map address = some "10.0.0.7:9090" := by
    decide +kernel
  obtain ⟨config, loaded, address⟩ := exists_of_toOption_map found
  obtain ⟨listens, usable⟩ := listensAt_of_load loaded
  exact ⟨config, loaded, listens, usable, address⟩

/-- Half of an address is taken. -/
theorem not_allOrNothing_mistyped :
    ∃ config, load loopback mistyped = .ok config ∧ ¬ config.AllOrNothing loopback mistyped := by
  have found : (load loopback mistyped).toOption.map host = some "10.0.0.7" := by decide +kernel
  obtain ⟨config, loaded, host⟩ := exists_of_toOption_map found
  refine ⟨config, loaded, ?_⟩
  rintro (⟨front, rest, port, given, read, _⟩ | ⟨own, _⟩)
  · have cut : splitAddress? "10.0.0.7:80800" = some (front, rest) :=
      splitAddress?_eq_some_iff.mpr ⟨Option.some.inj given, colon_notMem_of_portOfText? read⟩
    have unread : (splitAddress? "10.0.0.7:80800").bind (portOfText? ·.2) = none := by
      decide +kernel
    rw [cut, Option.bind_some, read] at unread
    cases unread
  · have apart : ownHost loopback mistyped ≠ "10.0.0.7" := by decide +kernel
    exact apart (own.symm.trans host)

end Mistyped

end Config

end HomeVoice
