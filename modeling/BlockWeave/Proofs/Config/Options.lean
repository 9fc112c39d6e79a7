import BlockWeave.Config.Defaults
import BlockWeave.Options
import BlockWeave.Proofs.Config.Schema

/-!
# Options of an accepted configuration

A configuration that passes the check makes options, and these keep what it sets: every key
of its section of the builds is an option, and every option has the value that is set there, or
its default.

## Implementation notes

Mappings with distinct keys are assumed (`Value.WellKeyed`), as documents have them. Of two
entries with one key the check would look at the first, and the options would take the last.
-/

namespace BlockWeave.Config

/-- The value that a configuration sets an option of builds to. -/
def setting? (config : Value) (name : String) : Option Value :=
  (config.field? "build").bind fun entries => entries.field? name

/-- The entries of the section of the builds. -/
def buildFields (config : Value) : Fields :=
  match config.field? "build" with
  | some (.map entries) => entries
  | _ => []

/-- The tags that items write: without the blanks around them, and without empty ones. -/
def tagsOf (items : List Text) : List Text :=
  (items.map Text.strip).filter (· ≠ [])

/-- The items that a setting says to remove. An empty text stands for the default, and so does
no setting; an empty list removes nothing. -/
inductive RemoveItems : Option Value → List Text → Prop
  | absent : RemoveItems none ["debug".toList, "test".toList]
  | empty : RemoveItems (some (.str "")) ["debug".toList, "test".toList]
  | text {s : String} (h : s ≠ "") : RemoveItems (some (.str s)) (Text.splitOn ',' s.toList)
  | list (texts : List String) :
      RemoveItems (some (.list (texts.map .str))) (texts.map String.toList)

section Section

variable {config : Value}

/-- The sections of a configuration that passes the check. -/
theorem buildSection_of_check (h : check config = .ok ()) : BuildSection (buildFields config) := by
  obtain ⟨fields, rfl, haccepted⟩ := check_eq_ok_iff.1 h
  rw [buildFields]
  split
  next entries hentries =>
    obtain ⟨_, ⟨⟩, hsection⟩ := haccepted.build _ hentries
    exact hsection
  next => constructor <;> simp [Fields.get?]

theorem setting?_of_check (h : check config = .ok ()) (name : String) :
    setting? config name = (buildFields config).get? (.str name) := by
  obtain ⟨fields, rfl, haccepted⟩ := check_eq_ok_iff.1 h
  rw [setting?, buildFields]
  cases hbuild : (Value.map fields).field? "build" with
  | none => rfl
  | some value =>
      obtain ⟨entries, rfl, -⟩ := haccepted.build value hbuild
      rfl

theorem distinct_buildFields (hkeys : config.WellKeyed) : (buildFields config).Distinct := by
  rw [buildFields]
  split
  next entries hentries => exact (hkeys.field? hentries).keys
  next => exact List.Pairwise.nil

/-- The options that can be set in a configuration are options that can be given as data. -/
theorem BuildSection.isOption {fields : Fields} (h : BuildSection fields) {field : Key × Value}
    (hfield : field ∈ fields) : ∃ name ∈ Options.names, field.1 = .str name := by
  obtain ⟨name, hname, hkey⟩ := h.known field hfield
  refine ⟨name, ?_, hkey⟩
  have hsubset : ["clean", "remove", "trigger", "encoding", "binary_extensions"] ⊆
      Options.names := by decide
  exact hsubset hname

theorem BuildSection.any_names {fields : Fields} (h : BuildSection fields) {field : Key × Value}
    (hfield : field ∈ fields) :
    Options.names.any (fun name => field.1.same (.str name)) = true := by
  obtain ⟨name, hname, hkey⟩ := h.isOption hfield
  exact List.any_eq_true.2 ⟨name, hname, by simp [hkey]⟩

/-- The options are made of the section of the builds alone. -/
theorem ofConfig_eq_ofSettings (hkeys : config.WellKeyed) (h : check config = .ok ()) :
    Options.ofConfig config [] = Options.ofSettings (buildFields config) := by
  have hknown : (buildFields config).filter (fun entry =>
      Options.names.any fun name => entry.1.same (.str name)) = buildFields config :=
    List.filter_eq_self.2 fun field hfield => (buildSection_of_check h).any_names hfield
  have hlist : Fields.ofList ((buildFields config).filter (fun entry =>
      Options.names.any fun name => entry.1.same (.str name)) ++ []) = buildFields config := by
    rw [hknown, List.append_nil, Fields.ofList_eq_self (distinct_buildFields hkeys)]
  obtain ⟨fields, rfl, haccepted⟩ := check_eq_ok_iff.1 h
  cases hbuild : (Value.map fields).field? "build" with
  | none =>
      rw [Options.ofConfig, buildFields, hbuild]
      rfl
  | some value =>
      obtain ⟨entries, rfl, -⟩ := haccepted.build value hbuild
      have hfields : buildFields (.map fields) = entries := by rw [buildFields, hbuild]
      rw [hfields] at hlist ⊢
      -- An empty section counts as none.
      cases entries with
      | nil =>
          rw [Options.ofConfig, hbuild]
          rfl
      | cons entry entries =>
          rw [Options.ofConfig, hbuild]
          exact congrArg Options.ofSettings hlist

end Section

section Settings

variable {fields : Fields}

theorem extensionOf_of_startsBare {text : String} (h : StartsBare text) :
    Options.extensionOf text = text := by
  obtain ⟨first, rest, htext, hfirst⟩ := h
  have hkept : text.toList.dropWhile (· == '.') = text.toList := by
    simp [htext, hfirst]
  rw [Options.extensionOf, hkept, String.ofList_toList]

/-- Extensions are taken as they are when none starts with a period. -/
theorem extensionList_of_startsBare {texts : List String} (h : ∀ text ∈ texts, StartsBare text) :
    Options.extensionList (.list (texts.map .str)) = .ok texts := by
  change (texts.map Value.str).mapM _ = _
  induction texts with
  | nil => rfl
  | cons text texts ih =>
      have hrest := ih fun other hother => h other (List.mem_cons_of_mem _ hother)
      rw [List.map_cons, List.mapM_cons, hrest]
      exact congrArg (fun first => Except.ok (first :: texts))
        (extensionOf_of_startsBare (h text List.mem_cons_self))

theorem map_extensionOf_default :
    defaultExtensions.map Options.extensionOf = defaultExtensions := by
  decide

/-- The value that stands for what is to be removed. -/
def removeValue (given : Option Value) : Value :=
  let remove := given.getD (.str "debug,test")
  if remove.equal .null || remove.equal (.str "") then .str "debug,test" else remove

/-- The options with the settings of a section of the builds. -/
def sectionOptions (fields : Fields) (extensions : List String) : Options where
  clean := (fields.get? (.str "clean")).getD (.bool true)
  remove := removeValue (fields.get? (.str "remove"))
  trigger := (fields.get? (.str "trigger")).getD (.str "release")
  binaryExtensions := extensions
  encoding := (fields.get? (.str "encoding")).getD (.str "utf-8")

/-- The options that a section of the builds makes. -/
theorem ofSettings_eq (h : BuildSection fields) :
    ∃ extensions : List String,
      (fields.get? (.str "binary_extensions")).getD (.list (defaultExtensions.map .str)) =
        .list (extensions.map .str) ∧
      Options.ofSettings fields = .ok (sectionOptions fields extensions) := by
  have hall : fields.all (fun setting => Options.names.any fun name => setting.1.same (.str name)) =
      true :=
    List.all_eq_true.2 fun field hfield => h.any_names hfield
  -- A test for binary files is no setting, though it is an option.
  have hbinary : fields.get? (.str "is_binary") = none := by
    apply Fields.get?_eq_none_iff.2
    intro field hfield
    obtain ⟨name, hname, hkey⟩ := h.known field hfield
    rw [hkey]
    rintro ⟨⟩
    revert hname
    decide
  have htrigger : ((fields.get? (.str "trigger")).getD (.str "release")).truthy = true := by
    cases hgiven : fields.get? (.str "trigger") with
    | none => decide
    | some value =>
        obtain ⟨text, hne, rfl⟩ := h.trigger value hgiven
        simpa [Value.truthy] using hne
  cases hgiven : fields.get? (.str "binary_extensions") with
  | none =>
      refine ⟨defaultExtensions, rfl, ?_⟩
      rw [Options.ofSettings, Options.apply]
      simp only [hall, htrigger, hbinary, hgiven, if_true]
      exact congrArg (fun extensions => Except.ok (sectionOptions fields extensions))
        map_extensionOf_default
  | some value =>
      obtain ⟨texts, hbare, rfl⟩ := h.binaryExtensions value hgiven
      refine ⟨texts, rfl, ?_⟩
      rw [Options.ofSettings, Options.apply]
      simp only [hall, htrigger, hbinary, hgiven, if_true, extensionList_of_startsBare hbare]
      rfl

end Settings

section Remove

/-- A section of the builds says which tags are removed. -/
theorem exists_removeItems {fields : Fields} (h : BuildSection fields) :
    ∃ items, RemoveItems (fields.get? (.str "remove")) items := by
  cases hgiven : fields.get? (.str "remove") with
  | none => exact ⟨_, .absent⟩
  | some value =>
      rcases h.remove value hgiven with ⟨text, rfl⟩ | ⟨texts, rfl⟩
      · by_cases hempty : text = ""
        · subst hempty
          exact ⟨_, .empty⟩
        · exact ⟨_, .text hempty⟩
      · exact ⟨_, .list texts⟩

theorem tagList_text (s : String) :
    Options.tagList (.str s) = .ok (tagsOf (Text.splitOn ',' s.toList)) := rfl

theorem tagList_texts (texts : List String) :
    Options.tagList (.list (texts.map .str)) = .ok (tagsOf (texts.map String.toList)) := by
  have hitems : Options.itemTexts (.list (texts.map .str)) = .ok texts := by
    rw [Options.itemTexts, List.map_map]
    exact congrArg Except.ok (List.map_id texts)
  simp only [Options.tagList, hitems]
  rfl

theorem tagList_removeValue {given : Option Value} {items : List Text}
    (h : RemoveItems given items) :
    Options.tagList (removeValue given) = .ok (tagsOf items) := by
  cases h with
  | absent => rfl
  | empty => rfl
  | @text s hne =>
      have hvalue : removeValue (some (.str s)) = .str s := by
        simp [removeValue, Value.equal, hne]
      rw [hvalue, tagList_text]
  | list texts =>
      have hvalue : removeValue (some (.list (texts.map .str))) = .list (texts.map .str) := by
        simp [removeValue, Value.equal]
      rw [hvalue, tagList_texts]

end Remove

/-- The options that a configuration makes. -/
theorem ofConfig_eq {config : Value} (hkeys : config.WellKeyed) (h : check config = .ok ()) :
    ∃ extensions : List String,
      (setting? config "binary_extensions").getD (.list (defaultExtensions.map .str)) =
        .list (extensions.map .str) ∧
      Options.ofConfig config [] = .ok (sectionOptions (buildFields config) extensions) := by
  rw [setting?_of_check h, ofConfig_eq_ofSettings hkeys h]
  exact ofSettings_eq (buildSection_of_check h)

/-- A configuration that passes the check is honoured. It makes options, with a list of tags to
remove, and these as data are what the configuration sets or, where it sets nothing, the
defaults; every key of its section of the builds is the name of an option. -/
theorem ofConfig_honours {config : Value} (hkeys : config.WellKeyed)
    (haccepted : check config = .ok ()) :
    ∃ options items, Options.ofConfig config [] = .ok options ∧
      RemoveItems (setting? config "remove") items ∧ options.removeList = .ok (tagsOf items) ∧
      options.toValue = .ok (.map [
        (.str "clean", (setting? config "clean").getD (.bool true)),
        (.str "remove", .list ((tagsOf items).map fun tag => .str (String.ofList tag))),
        (.str "trigger", (setting? config "trigger").getD (.str "release")),
        (.str "binary_extensions", (setting? config "binary_extensions").getD
          (.list (defaultExtensions.map .str))),
        (.str "encoding", (setting? config "encoding").getD (.str "utf-8"))]) ∧
      ∀ value, config.field? "build" = some value → ∃ fields, value = .map fields ∧
        ∀ field ∈ fields, ∃ name ∈ Options.names, field.1 = .str name := by
  obtain ⟨extensions, hextensions, hoptions⟩ := ofConfig_eq hkeys haccepted
  obtain ⟨items, hitems⟩ := exists_removeItems (buildSection_of_check haccepted)
  have htags : (sectionOptions (buildFields config) extensions).removeList = .ok (tagsOf items) :=
    tagList_removeValue hitems
  refine ⟨sectionOptions (buildFields config) extensions, items, hoptions, ?_, htags, ?_, ?_⟩
  · rwa [setting?_of_check haccepted]
  · rw [hextensions]
    simp only [setting?_of_check haccepted, Options.toValue, htags]
    rfl
  · intro value hvalue
    obtain ⟨fields, rfl, hfields⟩ := check_eq_ok_iff.1 haccepted
    obtain ⟨entries, rfl, hentries⟩ := hfields.build value hvalue
    exact ⟨entries, rfl, fun field hfield => hentries.isOption hfield⟩

namespace Sample

/-- A configuration with some settings of builds, and an entry that is none of the program's. -/
def config : Value := .map [
  (.str "build", .map [
    (.str "remove", .str " a ,, b"),
    (.str "binary_extensions", .list [.str "x."]),
    (.str "clean", .bool false)]),
  (.int 1, .null)]

theorem wellKeyed : config.WellKeyed := by
  simp [config, Fields.Distinct, Key.code]

theorem accepted : check config = .ok () := by
  refine check_eq_ok_iff.2 ⟨_, rfl, ?_, ?_⟩
  · rintro _ ⟨⟩
    refine ⟨_, rfl, ?_⟩
    constructor
    · simp
    · simp [Fields.get?]
    · simp [Fields.get?]
    · simp [Fields.get?]
    · simp [Fields.get?]
    · rintro _ ⟨⟩
      exact ⟨["x."], by simp [StartsBare], rfl⟩
  · rintro _ ⟨⟩

end Sample

theorem ofConfig_honours_sample : Sample.config.WellKeyed ∧ check Sample.config = .ok () ∧
    ∃ options, Options.ofConfig Sample.config [] = .ok options ∧
      options.removeList = .ok [['a'], ['b']] ∧
      options.toValue = .ok (.map [
        (.str "clean", .bool false),
        (.str "remove", .list [.str "a", .str "b"]),
        (.str "trigger", .str "release"),
        (.str "binary_extensions", .list [.str "x."]),
        (.str "encoding", .str "utf-8")]) := by
  refine ⟨Sample.wellKeyed, Sample.accepted, ?_⟩
  obtain ⟨options, items, hoptions, hitems, hremove, hvalue, -⟩ :=
    ofConfig_honours Sample.wellKeyed Sample.accepted
  have hgiven : setting? Sample.config "remove" = some (.str " a ,, b") := by rfl
  rw [hgiven] at hitems
  generalize hs : " a ,, b" = s at hitems
  cases hitems with
  | empty => exact absurd hs (by decide)
  | text hne =>
      subst hs
      exact ⟨options, hoptions, hremove, hvalue⟩

end BlockWeave.Config
