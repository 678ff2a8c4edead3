import Mathlib.Data.List.TakeWhile
import Mathlib.Logic.Function.Basic
import TypeRepair.Program.Basic
import TypeRepair.Program.Machine
import TypeRepair.Proofs.Procedure.Extension

/-!
# Where settings come from

What a host has for a configuration file decides whether there is a configuration at all, whatever
else is given. From then on each setting goes its own way, and of the keys only that of the selected
provider matters.

* `isUsableKey_iff`: a key is usable unless it is blank throughout.
* `runOptions_eq_settle`, `result_settle`: the start of the program is decided by what was found.
* `resolve_withEnvironment`: the settings by their sources.
* `settings_by_precedence`: the faults, the settings, what they do not depend on, and what mends a
  missing key.
-/

namespace TypeRepair.Settings

open Host Procedure

/-! ## Keys -/

/-- A text of characters with the property White_Space only. -/
def Blank (text : String) : Prop :=
  ∀ c ∈ text.toList, Text.isBlank c = true

instance (text : String) : Decidable (Blank text) :=
  decidable_of_iff (text.toList.all Text.isBlank = true) List.all_eq_true

theorem trim_eq_nil_iff {cs : List Char} : Text.trim cs = [] ↔ ∀ c ∈ cs, Text.isBlank c = true := by
  have hStart : Text.trimStart cs = [] ↔ ∀ c ∈ cs, Text.isBlank c = true :=
    List.dropWhile_eq_nil_iff
  constructor
  · intro h
    rw [← hStart]
    have hBlank : ∀ c ∈ Text.trimStart cs, Text.isBlank c = true := by
      rw [Text.trim, Text.trimEnd, List.reverse_eq_nil_iff, List.dropWhile_eq_nil_iff] at h
      exact fun c hc => h c (List.mem_reverse.mpr hc)
    -- What is left begins with a character that is not blank.
    have hHead := List.head?_dropWhile_not Text.isBlank cs
    rw [← Text.trimStart] at hHead
    cases hLeft : Text.trimStart cs with
    | nil => rfl
    | cons c rest =>
      rw [hLeft] at hHead hBlank
      exact absurd (hBlank c List.mem_cons_self) (by simpa using hHead)
  · intro h
    rw [Text.trim, hStart.mpr h]
    rfl

theorem isUsableKey_iff {key : String} : isUsableKey key = true ↔ ¬Blank key := by
  rw [isUsableKey, bne_iff_ne, Ne, trim_eq_nil_iff, Blank]

/-! ## Sources -/

/-- What a host has for a configuration file. -/
inductive Found
  | absent
  /-- There is something that cannot be read, or is not UTF-8. -/
  | unreadable (fault : SystemFault)
  /-- There is a text that describes no configuration. -/
  | malformed
  | valid (file : Configuration)
deriving DecidableEq

/-- What is set by the file, which is nothing if there is no file. -/
def Found.file? : Found → Option Configuration
  | absent => some .empty
  | valid file => some file
  | unreadable _ | malformed => none

/-- What a host has for a configuration file in a state. -/
def found {σ : Type} (handler : Handler calls σ) (state : σ) : Found :=
  match handler (.pathExists configurationFile) state with
  | (false, _) => .absent
  | (true, next) =>
    match (handler (.read configurationFile) next).1 with
    | .error fault => .unreadable fault
    | .ok bytes =>
      match Text.decode? bytes with
      | none => .unreadable .notUtf8
      | some text =>
        match Configuration.read? text with
        | none => .malformed
        | some file => .valid file

/-- Loads the configuration and resolves the settings. -/
def settle (environment : String → Option String) (overrides : Overrides) :
    Action (Except Fault Settings) := do
  match ← load environment with
  | .error fault => return .error fault
  | .ok configuration => return resolve configuration overrides

/-- The program settles what it goes by first, and ends if it cannot. -/
theorem runOptions_eq_settle (surroundings : Program.Surroundings) (options : CommandLine.Options) :
    Program.runOptions surroundings options = (do
      Host.note .configurationLoading
      match ← settle surroundings.environment options.overrides with
      | .error fault => return .failure (.settings fault)
      | .ok settings => Program.runWith surroundings options settings) := by
  simp only [Program.runOptions, settle, bind_eq, pure_eq, bind_assoc]
  refine congrArg _ (funext fun _ => congrArg _ (funext fun loaded => ?_))
  cases loaded <;> rfl

theorem result_settle {σ : Type} (handler : Handler calls σ) (state : σ)
    (environment : String → Option String) (overrides : Overrides) :
    ((settle environment overrides).run handler state).result =
      match found handler state with
      | .absent => resolve (Configuration.empty.withEnvironment environment) overrides
      | .unreadable fault => .error (.unreadable fault)
      | .malformed => .error .malformed
      | .valid file => resolve (file.withEnvironment environment) overrides := by
  rcases hExists : handler (.pathExists configurationFile) state with ⟨_ | _, next⟩
  · simp [settle, load, found, Host.pathExists, hExists]
  · rcases hRead : handler (.read configurationFile) next with ⟨fault | bytes, after⟩
    · simp [settle, load, found, readText, Host.pathExists, Host.read, hExists, hRead]
    · cases hText : Text.decode? bytes with
      | none =>
        simp [settle, load, found, readText, Host.pathExists, Host.read, hExists, hRead, hText]
      | some text =>
        cases hFile : Configuration.read? text <;>
          simp [settle, load, found, readText, Host.pathExists, Host.read, hExists, hRead, hText,
            hFile]

theorem result_settle_of_file {σ : Type} {handler : Handler calls σ} {state : σ}
    {file : Configuration} (h : (found handler state).file? = some file)
    (environment : String → Option String) (overrides : Overrides) :
    ((settle environment overrides).run handler state).result =
      resolve (file.withEnvironment environment) overrides := by
  rw [result_settle]
  cases hFound : found handler state <;> rw [hFound] at h <;> cases h <;> rfl

/-- Without a configuration nothing else matters. -/
theorem settle_eq_unreadable_iff {σ : Type} {handler : Handler calls σ} {state : σ}
    {environment : String → Option String} {overrides : Overrides} {fault : SystemFault} :
    ((settle environment overrides).run handler state).result = .error (.unreadable fault) ↔
      found handler state = .unreadable fault := by
  rw [result_settle]
  cases found handler state <;> simp [resolve_error_iff]

theorem settle_eq_malformed_iff {σ : Type} {handler : Handler calls σ} {state : σ}
    {environment : String → Option String} {overrides : Overrides} :
    ((settle environment overrides).run handler state).result = .error .malformed ↔
      found handler state = .malformed := by
  rw [result_settle]
  cases found handler state <;> simp [resolve_error_iff]

theorem apiKey_withEnvironment (file : Configuration) (environment : String → Option String)
    (provider : Provider) :
    (file.withEnvironment environment).apiKey provider =
      (file.apiKey provider <|> environment provider.keyVariable) := by
  cases provider <;> rfl

/-! ## Settings by their sources -/

/-- The key of a provider: what the file sets, blank or not, else what the environment holds. -/
def effectiveKey (file : Configuration) (environment : String → Option String)
    (provider : Provider) : Option String :=
  file.apiKey provider <|> environment provider.keyVariable

/-- The settings with a key. -/
def settingsWith (file : Configuration) (overrides : Overrides) (key : String) : Settings where
  maxRetries := (overrides.maxRetries <|> file.maxRetries).getD 3
  tsconfigPath := (overrides.tsconfigPath <|> file.tsconfigPath).getD "tsconfig.json"
  provider := (overrides.provider <|> file.provider).getD .anthropic
  credentials := ⟨key, overrides.model <|> file.model⟩

section Sources

variable (file : Configuration) (environment : String → Option String) (overrides : Overrides)

theorem resolve_withEnvironment :
    resolve (file.withEnvironment environment) overrides =
      match (effectiveKey file environment (selectProvider file overrides)).filter isUsableKey with
      | none => .error (.missingKey (selectProvider file overrides))
      | some key => .ok (settingsWith file overrides key) := by
  rw [effectiveKey, ← apiKey_withEnvironment]
  rfl

theorem filter_isUsableKey_eq_none_iff {key : Option String} :
    key.filter isUsableKey = none ↔ ∀ text ∈ key, Blank text := by
  rw [Option.filter_eq_none_iff]
  simp only [isUsableKey_iff, not_not, Option.mem_def]

theorem resolve_eq_missingKey_iff {missing : Provider} :
    resolve (file.withEnvironment environment) overrides = .error (.missingKey missing) ↔
      missing = selectProvider file overrides ∧
        ∀ text ∈ effectiveKey file environment missing, Blank text := by
  rw [resolve_withEnvironment]
  constructor
  · intro h
    split at h
    · rename_i hNone
      cases h
      exact ⟨rfl, filter_isUsableKey_eq_none_iff.mp hNone⟩
    · cases h
  · rintro ⟨rfl, hBlank⟩
    rw [filter_isUsableKey_eq_none_iff.mpr hBlank]

theorem resolve_eq_ok_iff {settings : Settings} :
    resolve (file.withEnvironment environment) overrides = .ok settings ↔
      ∃ text ∈ effectiveKey file environment (selectProvider file overrides),
        ¬Blank text ∧ settings = settingsWith file overrides text := by
  rw [resolve_withEnvironment]
  constructor
  · intro h
    split at h
    · cases h
    · rename_i key hSome
      cases h
      obtain ⟨hKey, hUsable⟩ := Option.filter_eq_some_iff.mp hSome
      exact ⟨key, hKey, isUsableKey_iff.mp hUsable, rfl⟩
  · rintro ⟨key, hKey, hUsable, rfl⟩
    rw [Option.filter_eq_some_iff.mpr ⟨hKey, isUsableKey_iff.mpr hUsable⟩]

end Sources

/-- Two files set the same, but for the key of the other provider. -/
structure SameFor (provider : Provider) (file other : Configuration) : Prop where
  maxRetries_eq : other.maxRetries = file.maxRetries
  tsconfigPath_eq : other.tsconfigPath = file.tsconfigPath
  provider_eq : other.provider = file.provider
  model_eq : other.model = file.model
  apiKey_eq : other.apiKey provider = file.apiKey provider

theorem resolve_congr {file other : Configuration} {environment around : String → Option String}
    {overrides : Overrides} (h : SameFor (selectProvider file overrides) file other)
    (hAround : around (selectProvider file overrides).keyVariable =
      environment (selectProvider file overrides).keyVariable) :
    resolve (other.withEnvironment around) overrides =
      resolve (file.withEnvironment environment) overrides := by
  have hProvider : selectProvider other overrides = selectProvider file overrides := by
    rw [selectProvider, selectProvider, h.provider_eq]
  have hKey : effectiveKey other around (selectProvider file overrides) =
      effectiveKey file environment (selectProvider file overrides) := by
    rw [effectiveKey, effectiveKey, h.apiKey_eq, hAround]
  have hSettings : settingsWith other overrides = settingsWith file overrides := by
    funext key
    rw [settingsWith, settingsWith, h.maxRetries_eq, h.tsconfigPath_eq, h.provider_eq, h.model_eq]
  rw [resolve_withEnvironment, resolve_withEnvironment, hProvider, hKey, hSettings]

/-- A variable for the missing key is looked at just if the file does not set the key. -/
theorem resolve_update {file : Configuration} {environment : String → Option String}
    {overrides : Overrides} {missing : Provider}
    (h : resolve (file.withEnvironment environment) overrides = .error (.missingKey missing))
    {value : String} (hValue : ¬Blank value) :
    let mended := Function.update environment missing.keyVariable (some value)
    (file.apiKey missing = none →
      resolve (file.withEnvironment mended) overrides = .ok (settingsWith file overrides value)) ∧
    (file.apiKey missing ≠ none →
      resolve (file.withEnvironment mended) overrides = .error (.missingKey missing)) := by
  intro mended
  obtain ⟨rfl, hBlank⟩ := (resolve_eq_missingKey_iff file environment overrides).mp h
  refine ⟨fun hUnset => ?_, fun hSet => ?_⟩
  · refine (resolve_eq_ok_iff file mended overrides).mpr ⟨value, ?_, hValue, rfl⟩
    rw [effectiveKey, hUnset]
    exact Function.update_self _ _ _
  · obtain ⟨key, hKey⟩ := Option.ne_none_iff_exists'.mp hSet
    refine (resolve_eq_missingKey_iff file mended overrides).mpr ⟨rfl, fun text hText => ?_⟩
    rw [effectiveKey, hKey] at hText hBlank
    exact hBlank text hText

/-- There are no settings if there is a configuration file that cannot be read or is malformed,
whatever else is given. If there is none or it can be read, the command line comes before the file
for every setting but the key. The key is that of the selected provider; the environment is asked
for it if the file does not set it, and it is missing if it is blank. The key of the other provider
does not matter anywhere. A variable for a missing key mends this if the file does not set the key,
and else changes nothing. -/
theorem settings_by_precedence {σ : Type} (handler : Handler calls σ) (state : σ)
    (environment : String → Option String) (overrides : Overrides) :
    let result := ((settle environment overrides).run handler state).result
    (∀ fault, result = .error (.unreadable fault) ↔ found handler state = .unreadable fault) ∧
    (result = .error .malformed ↔ found handler state = .malformed) ∧
    ∀ file, (found handler state).file? = some file →
      let provider := (overrides.provider <|> file.provider).getD .anthropic
      let key := file.apiKey provider <|> environment provider.keyVariable
      (∀ missing, result = .error (.missingKey missing) ↔
        missing = provider ∧ ∀ text ∈ key, Blank text) ∧
      (∀ settings, result = .ok settings ↔ ∃ text ∈ key, ¬Blank text ∧ settings =
        { maxRetries := (overrides.maxRetries <|> file.maxRetries).getD 3
          tsconfigPath := (overrides.tsconfigPath <|> file.tsconfigPath).getD "tsconfig.json"
          provider := provider
          credentials := ⟨text, overrides.model <|> file.model⟩ }) ∧
      (∀ {τ : Type} (elsewhere : Handler calls τ) (start : τ) (around : String → Option String)
        (other : Configuration), (found elsewhere start).file? = some other →
        SameFor provider file other →
        around provider.keyVariable = environment provider.keyVariable →
          ((settle around overrides).run elsewhere start).result = result) ∧
      (∀ missing, result = .error (.missingKey missing) → ∀ value, ¬Blank value →
        let mended := Function.update environment missing.keyVariable (some value)
        let again := ((settle mended overrides).run handler state).result
        (file.apiKey missing = none →
          ∃ settings, again = .ok settings ∧ settings.credentials.apiKey = value) ∧
        (file.apiKey missing ≠ none → again = result)) := by
  intro result
  refine ⟨fun fault => settle_eq_unreadable_iff, settle_eq_malformed_iff, fun file hFile => ?_⟩
  have hResult : result = resolve (file.withEnvironment environment) overrides :=
    result_settle_of_file hFile environment overrides
  intro provider key
  refine ⟨fun missing => ?_, fun settings => ?_, ?_, ?_⟩
  · rw [hResult, resolve_eq_missingKey_iff]
    constructor
    · rintro ⟨rfl, hBlank⟩
      exact ⟨rfl, hBlank⟩
    · rintro ⟨rfl, hBlank⟩
      exact ⟨rfl, hBlank⟩
  · rw [hResult]
    exact resolve_eq_ok_iff file environment overrides
  · intro τ elsewhere start around other hOther hSame hAround
    rw [hResult, result_settle_of_file hOther]
    exact resolve_congr hSame hAround
  · intro missing hMissing value hValue mended again
    have hAgain : again = resolve (file.withEnvironment mended) overrides :=
      result_settle_of_file hFile mended overrides
    obtain ⟨hUnset, hSet⟩ := resolve_update (hResult.symm.trans hMissing) hValue
    rw [hAgain, hMissing]
    exact ⟨fun h => ⟨_, hUnset h, rfl⟩, hSet⟩

-- A machine whose configuration file sets the key of one provider to a blank.
def blankKeyInFile : Machine Unit where
  disk := (Disk.empty ["w"]).withFile ".tsc-fixer.toml"
    (Text.encode "[fixer]\nmax_retries = 5\n[llm]\nanthropic_api_key = \" \"\n")
  outside := ()
  printed := ""

def unconnected : Outside Unit where
  execute _ _ _ state := (.error .notFound, state)
  send _ state := (.unanswered, state)

theorem blank_key_in_file_stays_missing :
    let environment := fun name => if name = "OPENAI_API_KEY" then some "k" else none
    let mended := Function.update environment "ANTHROPIC_API_KEY" (some "a")
    let run := fun environment overrides =>
      (unconnected.perform (settle environment overrides) blankKeyInFile).result
    run environment ⟨none, none, none, none⟩ = .error (.missingKey .anthropic) ∧
      run mended ⟨none, none, none, none⟩ = .error (.missingKey .anthropic) ∧
      run environment ⟨none, none, some .openAi, none⟩ =
        .ok ⟨5, "tsconfig.json", .openAi, ⟨"k", none⟩⟩ := by
  intro environment mended run
  have hFound : found unconnected.handler blankKeyInFile =
    .valid ⟨some 5, none, none, none, some " ", none⟩ := by decide +kernel
  have hFile : (found unconnected.handler blankKeyInFile).file? =
    some ⟨some 5, none, none, none, some " ", none⟩ := by rw [hFound]; rfl
  obtain ⟨-, -, hPlain⟩ := settings_by_precedence unconnected.handler blankKeyInFile environment
    ⟨none, none, none, none⟩
  obtain ⟨hMissing, -, -, hMended⟩ := hPlain _ hFile
  obtain ⟨-, -, hChosen⟩ := settings_by_precedence unconnected.handler blankKeyInFile environment
    ⟨none, none, some .openAi, none⟩
  obtain ⟨-, hSettings, -, -⟩ := hChosen _ hFile
  have hBlank : Blank " " := by decide
  have hFault : run environment ⟨none, none, none, none⟩ = .error (.missingKey .anthropic) :=
    (hMissing .anthropic).mpr ⟨rfl, by rintro _ ⟨⟩; exact hBlank⟩
  refine ⟨hFault, ?_, (hSettings _).mpr ⟨"k", rfl, by decide, rfl⟩⟩
  obtain ⟨-, hStays⟩ := hMended .anthropic hFault "a" (by decide)
  exact (hStays (by simp [Configuration.apiKey])).trans hFault

end TypeRepair.Settings
