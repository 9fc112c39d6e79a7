import BlockWeave.Disk
import BlockWeave.Marker.Attributes
import BlockWeave.Options

/-!
# Failures of data and failures of the build

Some failures are about the build itself: blocks in progress, records, and how deeply
texts are nested. All others are about the data that an operation gets: paths, files,
character sets, attributes. An operation on data has failures of the second kind only.
-/

namespace BlockWeave

/-- A failure of the build itself. -/
def Error.isInternal : Error → Bool
  | .circular .. | .alreadyResolved _ | .recordExists _ | .chainOutOfOrder .. | .chainEmpty
  | .depthExceeded => true
  | _ => false

/-- A result that may fail, but not for the build itself. -/
def External {α : Type} (result : Except Error α) : Prop :=
  ∀ e, result = .error e → e.isInternal = false

section Operations

variable {α β : Type}

theorem external_ok (a : α) : External (.ok a : Except Error α) := by
  intro e h
  cases h

theorem external_error {e : Error} (h : e.isInternal = false) :
    External (.error e : Except Error α) := by
  intro e' he
  exact Except.error.inj he ▸ h

/-- Two operations in a row fail with the first one or with the second one. -/
theorem error_of_bind {result : Except Error α} {next : α → Except Error β} {e : Error}
    (h : (result >>= next) = .error e) :
    result = .error e ∨ ∃ a, result = .ok a ∧ next a = .error e := by
  cases result with
  | error e' => exact Or.inl (congrArg Except.error (Except.error.inj h))
  | ok a => exact Or.inr ⟨a, rfl, h⟩

/-- Two operations in a row succeed with both of them. -/
theorem ok_of_bind {result : Except Error α} {next : α → Except Error β} {b : β}
    (h : (result >>= next) = .ok b) : ∃ a, result = .ok a ∧ next a = .ok b := by
  cases result with
  | error e => cases h
  | ok a => exact ⟨a, rfl, h⟩

namespace External

variable {result : Except Error α}

theorem bind {next : α → Except Error β} (h : External result)
    (hnext : ∀ a, External (next a)) : External (result >>= next) := by
  cases result with
  | error e => exact external_error (h e rfl)
  | ok a => exact hnext a

theorem map (h : External result) (f : α → β) : External (result.map f) :=
  h.bind fun a => external_ok (f a)

theorem mapM {f : α → Except Error β} (h : ∀ a, External (f a)) (items : List α) :
    External (items.mapM f) := by
  induction items with
  | nil => exact external_ok []
  | cons item items ih =>
      rw [List.mapM_cons]
      refine (h item).bind fun b => ?_
      exact ih.bind fun bs => external_ok (b :: bs)

/-- No failure of the build is the failure of such a result. -/
theorem ne_error (h : External result) {e : Error} (he : e.isInternal = true) :
    result ≠ .error e := by
  intro hresult
  rw [h e hresult] at he
  cases he

end External
end Operations

section Data

theorem external_resolve (base path : Text) : External (Path.resolve base path) := by
  intro e h
  simp only [Path.resolve] at h
  generalize (if Path.isAbsolute path = true then Path.parts path
    else Path.parts base ++ Path.parts path) = joined at h
  split at h
  · cases h
    rfl
  · cases h

theorem external_charset (options : Options) : External options.charset := by
  rw [Options.charset]
  split
  · split
    · exact external_ok _
    · exact external_error rfl
  · exact external_error rfl

theorem external_fileCharset (options : Options) : External options.fileCharset := by
  rw [Options.fileCharset]
  split
  · exact external_ok _
  · exact external_charset options

theorem external_decode (charset : Charset) (bytes : List UInt8) :
    External (charset.decode bytes) := by
  rw [Charset.decode]
  split
  · exact external_ok _
  · exact external_error rfl

theorem external_toText {charset : Except Error Charset} (h : External charset)
    (content : Content) : External (content.toText charset) := by
  cases content with
  | text text => exact external_ok text
  | bytes bytes =>
      simp only [Content.toText]
      cases charset with
      | ok set =>
          simp only
          split
          · exact external_ok _
          · exact external_decode set bytes
      | error e =>
          simp only
          split
          · exact external_ok _
          · exact external_error (h e rfl)

theorem external_encode (charset : Charset) (text : Text) : External (charset.encode text) := by
  rw [Charset.encode]
  split
  · exact external_ok _
  · exact external_error rfl

theorem external_toBytes {charset : Except Error Charset} (h : External charset)
    (content : Content) : External (content.toBytes charset) := by
  cases content with
  | text text => exact h.bind fun set => external_encode set text
  | bytes bytes => exact external_ok bytes

theorem external_removeList (options : Options) : External options.removeList := by
  have hitems (value : Value) : External (Options.itemTexts value) := by
    rw [Options.itemTexts.eq_def]
    split
    · exact external_ok _
    · exact external_ok _
    · exact external_ok _
    · exact external_error rfl
  rw [Options.removeList, Options.tagList.eq_def]
  split
  · exact external_ok _
  · exact external_ok _
  · exact ((hitems _).map _).bind fun _ => external_ok _

end Data

section Disk

variable (disk : Disk)

theorem external_checkPath (path : Text) : External (Disk.checkPath path) := by
  rw [Disk.checkPath]
  split
  · exact external_error rfl
  · split
    · exact external_error rfl
    · exact external_ok ()

theorem external_descend (above parts : List Text) : External (disk.descend above parts) := by
  induction parts generalizing above with
  | nil => exact external_ok above
  | cons part rest ih =>
      rw [Disk.descend]
      split
      · exact external_error rfl
      · exact external_error rfl
      · split
        · exact external_error rfl
        · exact ih _

theorem external_find (path : Text) : External (disk.find path) := by
  refine (external_checkPath path).bind fun _ => ?_
  refine (external_descend disk [] _).bind fun _ => ?_
  split
  · exact external_ok _
  · exact external_error rfl

theorem external_exists? (path : Text) : External (disk.exists? path) := by
  rw [Disk.exists?]
  split
  · exact external_ok _
  · exact external_error rfl
  · exact external_ok _

theorem external_isFile? (path : Text) : External (disk.isFile? path) := by
  rw [Disk.isFile?]
  split
  · exact external_ok _
  · exact external_ok _
  · exact external_error rfl
  · exact external_ok _

theorem external_readBytes (path : Text) : External (disk.readBytes path) := by
  rw [Disk.readBytes]
  split
  · exact external_ok _
  · exact external_error rfl
  next e he => exact external_error (external_find disk path e he)

theorem external_readText (options : Options) (path : Text) :
    External (disk.readText options.fileCharset path) := by
  refine (external_readBytes disk path).bind fun _ => ?_
  exact (external_fileCharset options).bind fun set => external_decode set _

theorem external_makeBelow (above : List Text) (made : Bool) (parts : List Text) :
    External (disk.makeBelow above made parts).1 := by
  fun_induction Disk.makeBelow disk above made parts with
  | case1 disk above => exact external_ok above
  | case2 disk above made rest ih => exact ih
  | case3 disk above made part rest _ _ => exact external_error rfl
  | case4 disk above made part rest _ _ path hnode ih => exact ih
  | case5 disk above made part rest _ _ path bytes hnode =>
      refine external_error ?_
      split <;> rfl
  | case6 disk above made part rest _ _ path hnode ih => exact ih

theorem external_makeParent (path : Text) : External (disk.makeParent path).1 := by
  rw [Disk.makeParent]
  split
  next e he => exact external_error (external_checkPath _ e he)
  · exact external_makeBelow disk [] false _

theorem external_scratchPath (target : Text) : External (disk.scratchPath target) := by
  simp only [Disk.scratchPath]
  split
  · exact external_error rfl
  · refine (external_checkPath _).bind fun _ => ?_
    split
    · exact external_error rfl
    · exact external_ok _

theorem external_rename (source target : Text) : External (disk.rename source target) := by
  rw [Disk.rename]
  split
  · exact external_error rfl
  · exact external_error rfl
  · exact external_ok _

theorem external_fill (path : Text) (bytes : List UInt8) : External (disk.fill path bytes).1 := by
  rw [Disk.fill]
  split
  · exact external_ok ()
  · split
    · exact external_ok ()
    · exact external_error rfl

theorem external_replaceFile (target : Text) (bytes : List UInt8) :
    External (disk.replaceFile target bytes).1 := by
  simp only [Disk.replaceFile]
  split
  next e he => exact external_error (external_scratchPath disk target e he)
  next scratch _ =>
    have hfill := external_fill (disk.put scratch (.file [])) scratch bytes
    split
    next e staged he => exact external_error (hfill e (by rw [he]))
    · split
      · exact external_ok ()
      next e he => exact external_error (external_rename _ _ _ e he)

/-- Writing a file fails for the path, for what is in the way, or for its characters. -/
theorem external_write {charset : Except Error Charset} (h : External charset) (target : Text)
    (content : Content) : External (disk.write charset target content).1 := by
  have hparent := external_makeParent disk target
  rw [Disk.write]
  split
  next e other he => exact external_error (hparent e (by rw [he]))
  · split
    next _ _ e he => exact external_error (external_toBytes h content e he)
    · split
      · exact external_error rfl
      · split
        next e he => exact external_error (external_checkPath _ e he)
        · exact external_replaceFile _ _ _
    · exact external_error rfl

end Disk

section Markers

theorem external_readEntity? {s rest : Text} {chars : Except Error Text}
    (h : Text.readEntity? s = some (chars, rest)) : External chars := by
  have hdecimal (digits : Text) : External (Text.decimalCode digits) := by
    simp only [Text.decimalCode]
    split
    · exact external_error rfl
    · exact external_ok _
  simp only [Text.readEntity?.eq_def] at h
  repeat' split at h
  all_goals cases h
  all_goals first
    | exact (hdecimal _).map _
    | exact external_ok _

theorem external_decodeEntities (text : Text) : External (Text.decodeEntities text) := by
  fun_induction Text.decodeEntities text with
  | case1 => exact external_ok []
  | case2 s chars rest hread hshorter ih =>
      refine (external_readEntity? hread).bind fun _ => ?_
      exact ih.bind fun _ => external_ok _
  | case3 s chars rest hread hlonger ih => exact ih.map _
  | case4 s hread ih => exact ih.map _
  | case5 c s hc ih => exact ih.map _

/-- Attributes are refused for what they write. -/
theorem external_parse (directory attrText : Text) :
    External (Attributes.parse directory attrText) := by
  have hfile (value : Option Text) : External (Attributes.resolveFile directory value) := by
    rw [Attributes.resolveFile.eq_def]
    split
    · exact external_ok none
    · split
      · exact external_ok none
      · exact (external_resolve directory _).map some
  have hitems : External (Attributes.decodeItems attrText) := by
    refine External.bind (External.mapM (fun assignment => ?_) _) fun _ => external_ok _
    exact (external_decodeEntities assignment.value).bind fun _ => external_ok _
  refine hitems.bind fun items => ?_
  refine (hfile _).bind fun _ => ?_
  exact (hfile _).bind fun _ => external_ok _

end Markers
end BlockWeave
