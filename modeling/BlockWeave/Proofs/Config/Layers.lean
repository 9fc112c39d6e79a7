import BlockWeave.Config.Layers
import BlockWeave.Proofs.Config.Options
import BlockWeave.Proofs.Document.Basic
import BlockWeave.Proofs.Failure

/-!
# Layers of a configuration

What is loaded from the files of a configuration is laid over the defaults, and the options of
builds are made of the result if the library lets it pass. The defaults follow the schema, and the
mappings of all layers have distinct keys.
-/

namespace BlockWeave

namespace Libraries

/-- The mappings of a document that is read have distinct keys. -/
def ReadsDistinct (libraries : Libraries) : Prop :=
  ∀ text document, libraries.parse text = .ok document → document.value.WellKeyed

/-- What passes follows the schema. -/
def Validates (libraries : Libraries) : Prop :=
  ∀ config, libraries.validate config = .ok () → Config.check config = .ok ()

end Libraries

namespace Config

open Document (fields_ofFields fields_overlayEntries fields_renumberEntries)

namespace Loading

variable {α β : Type}

/-- Two steps, one after the other. -/
theorem run_bind (step : Loading α) (next : α → Loading β) (log : List LogEntry) :
    (step >>= next).run log =
      match step.run log with
      | (.ok a, log) => (next a).run log
      | (.error e, log) => (.error e, log) := by
  change ExceptT.bindCont next (step.run log).1 (step.run log).2 = _
  rcases step.run log with ⟨e | a, after⟩ <;> rfl

@[simp] theorem run_ofExcept (result : Except Error α) (log : List LogEntry) :
    (ofExcept result).run log = (result, log) := by
  cases result <;> rfl

end Loading

section Defaults

theorem startsBare_defaultExtensions : ∀ text ∈ defaultExtensions, StartsBare text := by
  simp [defaultExtensions, StartsBare]

/-- The defaults pass the check. -/
theorem check_defaults : check (.map defaults) = .ok () := by
  refine check_eq_ok_iff.2 ⟨_, rfl, ?_, ?_⟩
  · rintro _ ⟨⟩
    refine ⟨_, rfl, ?_⟩
    constructor
    · simp [defaultBuild]
    · simp [Fields.get?, defaultBuild]
    · simp [Fields.get?, defaultBuild]
    · simp [Fields.get?, defaultBuild]
    · simp [Fields.get?, defaultBuild]
    · rintro _ ⟨⟩
      exact ⟨defaultExtensions, startsBare_defaultExtensions, rfl⟩
  · rintro _ ⟨⟩
    exact ⟨_, rfl, by simp, by simp [Fields.get?]⟩

theorem wellKeyed_defaults : (Value.map defaults).WellKeyed := by
  simp [defaults, defaultBuild, Fields.Distinct]

end Defaults

section Documents

variable {disk : Disk} {sources : Sources} {entries : Entries}

theorem wellKeyed_nil : (Value.map []).WellKeyed :=
  .map List.Pairwise.nil (by simp)

/-- The mappings of a configuration file have distinct keys. -/
theorem wellKeyed_ofDocument {libraries : Libraries} (hreads : libraries.ReadsDistinct)
    {path : Text} {bytes : List UInt8} (h : ofDocument libraries path bytes = .ok entries) :
    (Value.map (Document.fields entries)).WellKeyed := by
  rw [ofDocument] at h
  split at h
  · cases h
  · split at h
    · cases h
    · cases h
    · cases h
      exact wellKeyed_nil
    next hparse =>
      cases h
      exact hreads _ _ hparse
    · cases h

theorem wellKeyed_readFile (hreads : sources.libraries.ReadsDistinct) {path : Text}
    (h : readFile disk sources path = .ok entries) :
    (Value.map (Document.fields entries)).WellKeyed := by
  obtain ⟨place, -, hrest⟩ := ok_of_bind h
  obtain ⟨bytes, -, hdocument⟩ := ok_of_bind hrest
  exact wellKeyed_ofDocument hreads hdocument

theorem wellKeyed_fileLayer (hreads : sources.libraries.ReadsDistinct)
    (h : fileLayer disk sources = .ok entries) :
    (Value.map (Document.fields entries)).WellKeyed := by
  rw [fileLayer] at h
  split at h
  · cases h
    exact wellKeyed_nil
  · obtain ⟨found, -, hread⟩ := ok_of_bind h
    split at hread
    · obtain ⟨read, hfile, hrenumber⟩ := ok_of_bind hread
      cases hrenumber
      rw [fields_renumberEntries]
      exact wellKeyed_readFile hreads hfile
    · cases hread

theorem wellKeyed_projectLayer (hreads : sources.libraries.ReadsDistinct)
    {log after : List LogEntry} (h : (projectLayer disk sources).run log = (.ok entries, after)) :
    (Value.map (Document.fields entries)).WellKeyed := by
  rw [projectLayer, Loading.run_bind, Loading.run_ofExcept] at h
  cases hfile : projectFile? disk sources with
  | error e =>
      rw [hfile] at h
      cases h
  | ok found =>
      rw [hfile] at h
      cases found with
      | none =>
          cases h
          exact wellKeyed_nil
      | some path =>
          simp only [Loading.run_bind, Loading.run_ofExcept] at h
          cases hread : readFile disk sources path with
          | error e =>
              rw [hread] at h
              cases h
          | ok read =>
              rw [hread] at h
              cases h
              rw [fields_renumberEntries]
              exact wellKeyed_readFile hreads hread

end Documents

/-- The options of settings that a library lets pass. -/
def effective (libraries : Libraries) (fields : Fields) : Except Error Options := do
  libraries.validate (.map fields)
  Options.ofConfig (.map fields) []

/-- The options of the configuration that is loaded. -/
def loadOptions (disk : Disk) (sources : Sources) : Loading Options := do
  let config ← load disk sources
  Loading.ofExcept (Options.ofConfig config [])

section Effective

variable {libraries : Libraries} {base : Fields} {options : Options}

/-- The settings that options are made of. -/
theorem of_effective (hvalid : libraries.Validates) (hkeys : (Value.map base).WellKeyed)
    (h : effective libraries base = .ok options) :
    check (.map base) = .ok () ∧
      options.removeList = Options.tagList (removeValue (setting? (.map base) "remove")) ∧
      (setting? (.map base) "binary_extensions").getD (.list (defaultExtensions.map .str)) =
        .list (options.binaryExtensions.map .str) := by
  obtain ⟨⟨⟩, hpass, hoptions⟩ := ok_of_bind h
  have hcheck := hvalid _ hpass
  obtain ⟨extensions, hextensions, heq⟩ := ofConfig_eq hkeys hcheck
  rw [heq] at hoptions
  cases hoptions
  refine ⟨hcheck, ?_, hextensions⟩
  rw [setting?_of_check hcheck]
  rfl

theorem exists_effective (hvalid : libraries.Validates) (hkeys : (Value.map base).WellKeyed)
    (h : libraries.validate (.map base) = .ok ()) :
    ∃ options, effective libraries base = .ok options := by
  obtain ⟨extensions, -, hoptions⟩ := ofConfig_eq hkeys (hvalid _ h)
  refine ⟨sectionOptions (buildFields (.map base)) extensions, ?_⟩
  rw [effective, h]
  exact hoptions

end Effective

/-- The options of a configuration without settings of an environment are those of its layers. -/
theorem run_loadOptions {disk : Disk} {sources : Sources} {log after : List LogEntry}
    {project file : Entries} (hclear : sources.environment.settings = [])
    (hproject : (projectLayer disk sources).run log = (.ok project, after))
    (hfile : fileLayer disk sources = .ok file) :
    (loadOptions disk sources).run log =
      (effective sources.libraries (Document.fields (Document.overlayEntries
        (Document.overlayEntries (Document.ofFields defaults) project) file)), after) := by
  have hlayers : (layers disk sources).run log = (.ok (Document.overlayEntries
      (Document.overlayEntries (Document.ofFields defaults) project) file), after) := by
    rw [layers, Loading.run_bind, hproject]
    simp only [Loading.run_bind, Loading.run_ofExcept, hfile]
    rw [Environment.overlay, hclear]
    rfl
  rw [loadOptions, Loading.run_bind, load, Loading.run_bind, hlayers]
  simp only [Loading.run_bind, Loading.run_ofExcept, effective]
  generalize sources.libraries.validate _ = outcome
  cases outcome <;> rfl

end Config
end BlockWeave
