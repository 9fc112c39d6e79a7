import BlockWeave.Proofs.Config.Layers
import Mathlib.Data.List.Basic

/-!
# Lists that append to the layers below

A list whose first item is the mark is meant to add its other items to the list of the layers
below it. The mark counts only where the value below is a list. The extensions of binary files
are a list in every layer that passes the check, so there the other items are added. The tags to
remove may be a text as well, and they are one in the defaults: over a text the list stays as it
is, and the mark becomes a tag.
-/

namespace BlockWeave

namespace Value

@[simp] theorem equal_str {v : Value} {text : String} : (Value.str text).equal v = true ↔
    v = .str text := by
  cases v <;> simp [equal, eq_comm]

theorem str_injective : Function.Injective Value.str := by
  intro a b h
  cases h
  rfl

theorem holds_texts {texts : List String} {item : Value} :
    holds (texts.map .str) item = true ↔ ∃ text ∈ texts, item = .str text := by
  simp [holds]

theorem overlayItems_mark (below rest : List Value) :
    overlayItems below (.str "+" :: rest) =
      below ++ rest.filter fun item => !holds below item := by
  have hmark : (Value.str "+").equal appendMark = true := equal_str.2 rfl
  rw [overlayItems, if_pos hmark]

theorem filter_not_holds (below texts : List String) :
    (texts.map Value.str).filter (fun item => !holds (below.map .str) item) =
      (texts.filter (· ∉ below)).map .str := by
  rw [List.filter_map]
  congr 1
  apply List.filter_congr
  intro text htext
  have hheld : holds (below.map .str) (.str text) = true ↔ text ∈ below := by
    simp [holds_texts]
  rw [Function.comp_apply, Bool.eq_iff_iff, Bool.not_eq_true', decide_eq_true_iff,
    ← Bool.not_eq_true, hheld]

/-- The items that are appended to texts are texts, when together they are. -/
theorem overlayItems_texts {below all : List String} {rest : List Value}
    (h : overlayItems (below.map .str) (.str "+" :: rest) = all.map .str) :
    ∃ texts : List String, rest = texts.map .str ∧ all = below ++ texts.filter (· ∉ below) := by
  rw [overlayItems_mark] at h
  have htexts : ∀ item ∈ rest, ∃ text, item = .str text := by
    intro item hitem
    -- An item that is left out is one of the texts below.
    by_cases hheld : holds (below.map .str) item = true
    · obtain ⟨text, -, htext⟩ := holds_texts.1 hheld
      exact ⟨text, htext⟩
    · have hmem : item ∈ all.map Value.str := by
        rw [← h]
        apply List.mem_append_right
        exact List.mem_filter.2 ⟨hitem, by simpa using hheld⟩
      obtain ⟨text, -, htext⟩ := List.mem_map.1 hmem
      exact ⟨text, htext.symm⟩
  obtain ⟨texts, rfl⟩ := Config.exists_texts htexts
  refine ⟨texts, rfl, ?_⟩
  apply List.map_injective_iff.2 str_injective
  rw [← h, filter_not_holds, List.map_append]

end Value

namespace Config

open Document (fields_ofFields fields_overlayEntries)
open Value (overlayFields)

/-- What becomes of a list that is to be appended to the options of the layers below. -/
structure Appends (base layer : Fields) (below above : Options) : Prop where
  /-- Extensions that are not there yet are added. -/
  extensions : ∀ rest,
    setting? (.map layer) "binary_extensions" = some (.list (.str "+" :: rest)) →
    ∃ texts : List String, rest = texts.map .str ∧
      above.binaryExtensions =
        below.binaryExtensions ++ texts.filter (· ∉ below.binaryExtensions)
  /-- Tags are added to a list if they are not in it as they are written. The list of the layers
  below is lost if it is a text. -/
  remove : ∀ rest, setting? (.map layer) "remove" = some (.list (.str "+" :: rest)) →
    ∃ texts : List String, rest = texts.map .str ∧
      ((∃ (old : List String) (tags : List Text),
          setting? (.map base) "remove" = some (.list (old.map .str)) ∧
          below.removeList = .ok tags ∧
          above.removeList =
            .ok (tags ++ tagsOf ((texts.filter (· ∉ old)).map String.toList)) ∧
          ((∀ text ∈ old ++ texts, text ≠ "" ∧ Text.strip text.toList = text.toList) →
            above.removeList = .ok (tags ++ (texts.map String.toList).filter (· ∉ tags)))) ∨
        ∃ s, setting? (.map base) "remove" = some (.str s) ∧
          above.removeList = .ok (['+'] :: tagsOf (texts.map String.toList)))

section Settings

variable {base layer : Fields}

/-- The options of builds that can be lists are set. -/
def Complete (fields : Fields) : Prop :=
  ∃ entries, fields.get? (.str "build") = some (.map entries) ∧
    ∀ name ∈ ["remove", "binary_extensions"], (Fields.get? entries (.str name)).isSome = true

theorem complete_defaults : Complete defaults :=
  ⟨defaultBuild, rfl, by decide⟩

theorem Complete.exists_setting (h : Complete base) {name : String}
    (hname : name ∈ ["remove", "binary_extensions"]) :
    ∃ value, setting? (.map base) name = some value := by
  obtain ⟨entries, hbuild, hentries⟩ := h
  obtain ⟨value, hvalue⟩ := Option.isSome_iff_exists.1 (hentries name hname)
  refine ⟨value, ?_⟩
  rw [setting?, Value.field?, hbuild]
  exact hvalue

/-- A layer that passes the check keeps the options set. -/
theorem Complete.overlay (h : Complete base) (hlayer : (Value.map layer).WellKeyed)
    (hcheck : check (.map (overlayFields base layer)) = .ok ()) :
    Complete (overlayFields base layer) := by
  obtain ⟨entries, hbuild, hentries⟩ := h
  have hget := Value.get?_overlayFields hlayer.keys base (.str "build")
  cases hupper : layer.get? (.str "build") with
  | none =>
      rw [hupper] at hget
      exact ⟨entries, hget.trans hbuild, hentries⟩
  | some value =>
      rw [hupper, hbuild] at hget
      obtain ⟨_, ⟨⟩, haccepted⟩ := check_eq_ok_iff.1 hcheck
      obtain ⟨all, hall, -⟩ := haccepted.build _ hget
      cases value with
      | map upper =>
          simp only [Value.overlay] at hget
          refine ⟨overlayFields entries upper, hget, ?_⟩
          intro name hname
          rw [Value.get?_overlayFields (hlayer.get? hupper).keys]
          split
          · rfl
          · exact hentries name hname
      | _ => simp [Value.overlay] at hall

/-- A setting of a layer stands over the one below it. -/
theorem setting?_overlayFields (h : Complete base) (hlayer : (Value.map layer).WellKeyed)
    {name : String} {value : Value} (hvalue : setting? (.map layer) name = some value) :
    setting? (.map (overlayFields base layer)) name =
      some (Value.overlay (setting? (.map base) name) value) := by
  obtain ⟨entries, hbuild, -⟩ := h
  obtain ⟨part, hupper, hpart⟩ := Option.bind_eq_some_iff.1 hvalue
  cases part with
  | map upper =>
      have hget := Value.get?_overlayFields hlayer.keys base (.str "build")
      have hinner := Value.get?_overlayFields (hlayer.get? hupper).keys entries (.str name)
      simp only [Value.field?] at hupper hpart
      rw [hupper, hbuild] at hget
      rw [hpart] at hinner
      simp only [setting?, Value.field?, hget, hbuild, Value.overlay, Option.bind_some]
      exact hinner
  | _ => cases hpart

/-- What is to be removed is a text or a list of texts. -/
theorem remove_cases {config value : Value} (hcheck : check config = .ok ())
    (hvalue : setting? config "remove" = some value) :
    (∃ text, value = .str text) ∨ ∃ texts : List String, value = .list (texts.map .str) := by
  rw [setting?_of_check hcheck] at hvalue
  exact (buildSection_of_check hcheck).remove value hvalue

end Settings

section Tags

theorem tagsOf_append (items more : List Text) :
    tagsOf (items ++ more) = tagsOf items ++ tagsOf more := by
  simp [tagsOf]

/-- Tags without blanks around them are taken as they are. -/
theorem tagsOf_plain {texts : List String}
    (h : ∀ text ∈ texts, text ≠ "" ∧ Text.strip text.toList = text.toList) :
    tagsOf (texts.map String.toList) = texts.map String.toList := by
  induction texts with
  | nil => rfl
  | cons text texts ih =>
      obtain ⟨hne, hstrip⟩ := h text List.mem_cons_self
      have hrest := ih fun other hother => h other (List.mem_cons_of_mem _ hother)
      have hnonempty : text.toList ≠ [] := by
        rwa [ne_eq, String.toList_eq_nil_iff]
      simp only [tagsOf, List.map_cons, hstrip] at hrest ⊢
      rw [List.filter_cons_of_pos (by simpa using hnonempty), hrest]

theorem filter_toList {texts old : List String} :
    (texts.filter (· ∉ old)).map String.toList =
      (texts.map String.toList).filter (· ∉ old.map String.toList) := by
  rw [List.filter_map]
  congr 1
  apply List.filter_congr
  intro text htext
  have hmem : text.toList ∈ old.map String.toList ↔ text ∈ old :=
    List.mem_map_of_injective fun _ _ => String.toList_inj.1
  simp only [Function.comp_apply, hmem]

end Tags

section Layer

variable {libraries : Libraries} {base layer : Fields} {below above : Options} {rest : List Value}

/-- Extensions are a list below every layer, so further ones are appended. -/
theorem extensions_append (hvalid : libraries.Validates)
    (hbase : (Value.map base).WellKeyed) (hlayer : (Value.map layer).WellKeyed)
    (hcomplete : Complete base) (hbelow : effective libraries base = .ok below)
    (habove : effective libraries (overlayFields base layer) = .ok above)
    (hrest : setting? (.map layer) "binary_extensions" = some (.list (.str "+" :: rest))) :
    ∃ texts : List String, rest = texts.map .str ∧
      above.binaryExtensions =
        below.binaryExtensions ++ texts.filter (· ∉ below.binaryExtensions) := by
  have hname : "binary_extensions" ∈ ["remove", "binary_extensions"] := by decide
  obtain ⟨value, hvalue⟩ := hcomplete.exists_setting hname
  have hold := (of_effective hvalid hbase hbelow).2.2
  have hnew := (of_effective hvalid (hbase.overlay_layer hlayer) habove).2.2
  have hset := setting?_overlayFields hcomplete hlayer hrest
  rw [hvalue, Option.getD_some] at hold
  rw [hvalue, hold] at hset
  simp only [Value.overlay] at hset
  rw [hset, Option.getD_some] at hnew
  exact Value.overlayItems_texts (Value.list.inj hnew)

/-- Over a text nothing is appended. -/
theorem remove_over_text (hlayer : (Value.map layer).WellKeyed) (hcomplete : Complete base)
    (hcheck : check (.map (overlayFields base layer)) = .ok ())
    (hnew : above.removeList =
      Options.tagList (removeValue (setting? (.map (overlayFields base layer)) "remove")))
    {s : String} (hold : setting? (.map base) "remove" = some (.str s))
    (hrest : setting? (.map layer) "remove" = some (.list (.str "+" :: rest))) :
    ∃ texts : List String, rest = texts.map .str ∧
      above.removeList = .ok (['+'] :: tagsOf (texts.map String.toList)) := by
  have hset := setting?_overlayFields hcomplete hlayer hrest
  rw [hold] at hset
  simp only [Value.overlay] at hset
  obtain ⟨_, ⟨⟩⟩ | ⟨all, hall⟩ := remove_cases hcheck hset
  cases all with
  | nil => cases hall
  | cons first texts =>
      obtain ⟨hfirst, htexts⟩ := List.cons.inj (Value.list.inj hall)
      cases hfirst
      refine ⟨texts, htexts, ?_⟩
      rw [hnew, hset, hall, tagList_removeValue (.list ("+" :: texts))]
      rfl

/-- Over a list the items that are not in it are appended. -/
theorem remove_over_texts (hlayer : (Value.map layer).WellKeyed) (hcomplete : Complete base)
    (hcheck : check (.map (overlayFields base layer)) = .ok ())
    (hnew : above.removeList =
      Options.tagList (removeValue (setting? (.map (overlayFields base layer)) "remove")))
    {old : List String} (hold : setting? (.map base) "remove" = some (.list (old.map .str)))
    (hrest : setting? (.map layer) "remove" = some (.list (.str "+" :: rest))) :
    ∃ texts : List String, rest = texts.map .str ∧
      above.removeList = .ok (tagsOf (old.map String.toList) ++
        tagsOf ((texts.filter (· ∉ old)).map String.toList)) := by
  have hset := setting?_overlayFields hcomplete hlayer hrest
  rw [hold] at hset
  simp only [Value.overlay] at hset
  obtain ⟨_, ⟨⟩⟩ | ⟨all, hall⟩ := remove_cases hcheck hset
  obtain ⟨texts, rfl, rfl⟩ := Value.overlayItems_texts (Value.list.inj hall)
  refine ⟨texts, rfl, ?_⟩
  rw [hnew, hset, hall, tagList_removeValue (.list _), List.map_append, tagsOf_append]

/-- Tags without blanks around them are compared as they count. -/
theorem tagsOf_append_plain {old texts : List String}
    (h : ∀ text ∈ old ++ texts, text ≠ "" ∧ Text.strip text.toList = text.toList) :
    tagsOf (old.map String.toList) ++ tagsOf ((texts.filter (· ∉ old)).map String.toList) =
      tagsOf (old.map String.toList) ++
        (texts.map String.toList).filter (· ∉ tagsOf (old.map String.toList)) := by
  have hold := tagsOf_plain fun text htext => h text (List.mem_append_left _ htext)
  have hnew : tagsOf ((texts.filter (· ∉ old)).map String.toList) =
      (texts.filter (· ∉ old)).map String.toList := by
    apply tagsOf_plain
    intro text htext
    exact h text (List.mem_append_right _ (List.mem_filter.1 htext).1)
  rw [hnew, filter_toList, hold]

/-- A layer that appends, over layers that pass the check. -/
theorem appends_of_effective (hvalid : libraries.Validates)
    (hbase : (Value.map base).WellKeyed) (hlayer : (Value.map layer).WellKeyed)
    (hcomplete : Complete base) (hbelow : effective libraries base = .ok below)
    (habove : effective libraries (overlayFields base layer) = .ok above) :
    Appends base layer below above := by
  constructor
  · exact fun rest => extensions_append hvalid hbase hlayer hcomplete hbelow habove
  · intro rest hrest
    obtain ⟨hcheck, hold, -⟩ := of_effective hvalid hbase hbelow
    obtain ⟨hcheck', hnew, -⟩ := of_effective hvalid (hbase.overlay_layer hlayer) habove
    obtain ⟨value, hvalue⟩ := hcomplete.exists_setting List.mem_cons_self
    obtain ⟨s, rfl⟩ | ⟨old, rfl⟩ := remove_cases hcheck hvalue
    · obtain ⟨texts, htexts, htags⟩ := remove_over_text hlayer hcomplete hcheck' hnew hvalue hrest
      exact ⟨texts, htexts, Or.inr ⟨s, hvalue, htags⟩⟩
    · obtain ⟨texts, htexts, htags⟩ := remove_over_texts hlayer hcomplete hcheck' hnew hvalue hrest
      rw [hvalue, tagList_removeValue (.list old)] at hold
      refine ⟨texts, htexts, Or.inl ⟨old, _, hvalue, hold, htags, ?_⟩⟩
      intro hplain
      rw [htags, tagsOf_append_plain hplain]

end Layer

/-- The options of a stack of configuration files, and what a list that appends comes to in its
layers. The layers are the defaults, the file of the project and the file that was asked for. -/
theorem loadOptions_appends {disk : Disk} {sources : Sources} {log after : List LogEntry}
    {project file : Entries} (hreads : sources.libraries.ReadsDistinct)
    (hvalid : sources.libraries.Validates) (hclear : sources.environment.settings = [])
    (hproject : (projectLayer disk sources).run log = (.ok project, after))
    (hfile : fileLayer disk sources = .ok file) :
    (loadOptions disk sources).run log =
      (effective sources.libraries (Document.fields (Document.overlayEntries
        (Document.overlayEntries (Document.ofFields defaults) project) file)), after) ∧
    (∀ below above, effective sources.libraries defaults = .ok below →
      effective sources.libraries (Document.fields
        (Document.overlayEntries (Document.ofFields defaults) project)) = .ok above →
      Appends defaults (Document.fields project) below above) ∧
    ∀ below above,
      effective sources.libraries (Document.fields
        (Document.overlayEntries (Document.ofFields defaults) project)) = .ok below →
      effective sources.libraries (Document.fields (Document.overlayEntries
        (Document.overlayEntries (Document.ofFields defaults) project) file)) = .ok above →
      Appends (Document.fields (Document.overlayEntries (Document.ofFields defaults) project))
        (Document.fields file) below above := by
  have hkeys := wellKeyed_projectLayer hreads hproject
  refine ⟨run_loadOptions hclear hproject hfile, ?_, ?_⟩
  · intro below above hbelow habove
    rw [fields_overlayEntries, fields_ofFields] at habove
    exact appends_of_effective hvalid wellKeyed_defaults hkeys complete_defaults hbelow habove
  · intro below above hbelow habove
    rw [fields_overlayEntries, fields_overlayEntries, fields_ofFields] at habove
    rw [fields_overlayEntries, fields_ofFields] at hbelow ⊢
    have hbase := wellKeyed_defaults.overlay_layer hkeys
    have hcomplete := complete_defaults.overlay hkeys (of_effective hvalid hbase hbelow).1
    exact appends_of_effective hvalid hbase (wellKeyed_fileLayer hreads hfile) hcomplete hbelow
      habove

namespace Project

/-- A text that appends to both lists. -/
def source : Text :=
  "build:\n  remove: [+, a]\n  binary_extensions: [+, b]".toList

/-- The layer that it writes. -/
def layer : Fields := [
  (.str "build", .map [
    (.str "remove", .list [.str "+", .str "a"]),
    (.str "binary_extensions", .list [.str "+", .str "b"])])]

/-- A reader that knows this text, and the schema itself. -/
def libraries : Libraries where
  parse text := if text = source then .ok (.ofValue (.map layer)) else .error .malformedData
  validate := check
  compile _ := .error .malformedData

def path : Text := "/.jdists.yaml".toList

def disk : Disk := { nodes := [(path, .file (Utf8.encode source))] }

def sources : Sources := { directory := ['/'], root := ['/'], libraries }

def log : List LogEntry :=
  [.debug .configuration ("Loading project config " ++ String.ofList path)]

theorem readsDistinct : libraries.ReadsDistinct := by
  intro text document h
  simp only [libraries] at h
  split at h
  · cases h
    simp [layer, Fields.Distinct]
  · cases h

theorem validates : libraries.Validates :=
  fun _ h => h

theorem projectFile?_eq : projectFile? disk sources = .ok (some path) := by
  rfl

theorem decode?_source : Utf8.decode? (Utf8.encode source) = some source := by
  with_unfolding_all decide

theorem readFile_eq : readFile disk sources path = .ok (Document.ofFields layer) := by
  have hdocument : readFile disk sources path =
      ofDocument libraries path (Utf8.encode source) := by rfl
  rw [hdocument, ofDocument, decode?_source]
  simp only [libraries, if_true]
  rw [Document.ofValue]

theorem run_projectLayer :
    (projectLayer disk sources).run [] = (.ok (Document.ofFields layer), log) := by
  rw [projectLayer, Loading.run_bind, Loading.run_ofExcept, projectFile?_eq]
  simp only [Loading.run_bind, Loading.run_ofExcept, readFile_eq]
  rfl

theorem startsBare_extensions : ∀ text ∈ defaultExtensions ++ ["b"], StartsBare text := by
  intro text htext
  rcases List.mem_append.1 htext with htext | htext
  · exact startsBare_defaultExtensions text htext
  · rw [List.mem_singleton.1 htext]
    exact ⟨'b', [], rfl, by decide⟩

theorem check_layer : check (.map (overlayFields defaults layer)) = .ok () := by
  have hlayers : overlayFields defaults layer = [
      (.str "build", .map [
        (.str "clean", .bool true),
        (.str "remove", .list [.str "+", .str "a"]),
        (.str "trigger", .str "release"),
        (.str "encoding", .str "utf-8"),
        (.str "binary_extensions", .list ((defaultExtensions ++ ["b"]).map .str))]),
      (.str "logging", .map [(.str "level", .str "WARNING")])] := by rfl
  rw [hlayers]
  refine check_eq_ok_iff.2 ⟨_, rfl, ?_, ?_⟩
  · rintro _ ⟨⟩
    refine ⟨_, rfl, ?_⟩
    constructor
    · simp
    · simp [Fields.get?]
    · rintro _ ⟨⟩
      exact Or.inr ⟨["+", "a"], rfl⟩
    · simp [Fields.get?]
    · simp [Fields.get?]
    · rintro _ ⟨⟩
      exact ⟨_, startsBare_extensions, rfl⟩
  · rintro _ ⟨⟩
    exact ⟨_, rfl, by simp, by simp [Fields.get?]⟩

theorem settings_eq : sources.environment.settings = [] := by
  simp [Environment.settings, sources]

theorem fileLayer_eq : fileLayer disk sources = .ok [] := by
  rfl

theorem wellKeyed_layers : (Value.map (overlayFields defaults layer)).WellKeyed := by
  have hlayer := wellKeyed_projectLayer readsDistinct run_projectLayer
  rw [fields_ofFields] at hlayer
  exact wellKeyed_defaults.overlay_layer hlayer

/-- The options of the defaults, and those of the project. -/
theorem exists_options : ∃ below above,
    effective libraries defaults = .ok below ∧
    effective libraries (overlayFields defaults layer) = .ok above := by
  obtain ⟨below, hbelow⟩ := exists_effective validates wellKeyed_defaults check_defaults
  obtain ⟨above, habove⟩ := exists_effective validates wellKeyed_layers check_layer
  exact ⟨below, above, hbelow, habove⟩

end Project

theorem loadOptions_appends_project : ∃ below above,
    Project.libraries.ReadsDistinct ∧ Project.libraries.Validates ∧
    effective Project.libraries defaults = .ok below ∧
    (loadOptions Project.disk Project.sources).run [] = (.ok above, Project.log) ∧
    Appends defaults Project.layer below above ∧
    above.binaryExtensions = below.binaryExtensions ++ ["b"] := by
  obtain ⟨hload, happends, -⟩ := loadOptions_appends Project.readsDistinct Project.validates
    Project.settings_eq Project.run_projectLayer Project.fileLayer_eq
  simp only [fields_overlayEntries, fields_ofFields] at hload happends
  obtain ⟨below, above, hbelow, habove⟩ := Project.exists_options
  have happend := happends below above hbelow habove
  refine ⟨below, above, Project.readsDistinct, Project.validates, hbelow,
    hload.trans (by rw [← habove]; rfl), happend, ?_⟩
  obtain ⟨texts, htexts, heq⟩ := happend.extensions [.str "b"] rfl
  have hdefault : below.binaryExtensions = defaultExtensions :=
    List.map_injective_iff.2 Value.str_injective
      (Value.list.inj (of_effective Project.validates wellKeyed_defaults hbelow).2.2).symm
  have hb : texts = ["b"] := List.map_injective_iff.2 Value.str_injective htexts.symm
  rw [heq, hdefault, hb]
  decide

/-- The mark becomes a tag to remove, and the tags of the defaults are lost. -/
theorem mark_becomes_tag : ∃ below above,
    effective Project.libraries defaults = .ok below ∧
    below.removeList = .ok ["debug".toList, "test".toList] ∧
    (loadOptions Project.disk Project.sources).run [] = (.ok above, Project.log) ∧
    above.removeList = .ok [['+'], ['a']] := by
  obtain ⟨below, above, hbelow, habove⟩ := Project.exists_options
  have hload := run_loadOptions Project.settings_eq Project.run_projectLayer Project.fileLayer_eq
  simp only [fields_overlayEntries, fields_ofFields] at hload
  refine ⟨below, above, hbelow, ?_, hload.trans (by rw [← habove]; rfl), ?_⟩
  · rw [(of_effective Project.validates wellKeyed_defaults hbelow).2.1]
    rfl
  · rw [(of_effective Project.validates Project.wellKeyed_layers habove).2.1]
    rfl

end Config
end BlockWeave
