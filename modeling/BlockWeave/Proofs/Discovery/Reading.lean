import BlockWeave.Proofs.Discovery.Fresh
import BlockWeave.Proofs.Discovery.Nesting
import BlockWeave.Proofs.Failure
import BlockWeave.Proofs.Weaving.Relation
import Mathlib.Logic.Function.Basic
import Mathlib.Logic.Relation

/-!
# What a step of discovery does

A file is taken as missing, as bytes or as text (`Reading`); this depends on the options
and the disk alone. From it follow the record of the file, what is found in it, and the
files that it refers to. A step of the walk then changes the table at a single key
(`Steps`), and where it fails, reading a file or its attributes has failed.
-/

namespace BlockWeave.Discovery

open Relation

/-- What a file is taken as. -/
inductive Reading where
  /-- There is no such file. -/
  | missing
  /-- The file is kept as bytes. -/
  | binary
  /-- The file is text, tidied if the options say so. -/
  | text (source : Text)
  deriving Repr, DecidableEq

/-- How a file is read. -/
def reading (options : Options) (disk : Disk) (path : Text) : Except Error Reading := do
  if ← disk.exists? path then
    if ← options.treatsAsBinary path then return .binary
    else
      let content ← disk.readText options.fileCharset path
      return .text (if options.tidies then Text.tidy content else content)
  else return .missing

namespace Reading

/-- The record of a file. -/
def record (path : Text) : Reading → Record
  | missing => { key := .ofFile path, isFile := true, source := some [] }
  | binary => { key := .ofFile path, isFile := true, isBinary := true }
  | text source => { key := .ofFile path, isFile := true, source := some source }

/-- What is found in a file: files without text are leaves. -/
def found (path : Text) (trigger : Option Text) : Reading → List (Except Error Finding)
  | missing | binary => []
  | text source => findings path trigger 0 source

@[simp] theorem record_key (path : Text) (taken : Reading) :
    (taken.record path).key = .ofFile path := by
  cases taken <;> rfl

end Reading

/-- A file refers to another one: a marker of its forest is a reference with a `file`
attribute that names no variant. -/
def Refers (options : Options) (disk : Disk) (file target : Text) : Prop :=
  ∃ source marker attributes value, reading options disk file = .ok (.text source) ∧
    Marks file options.activeTrigger 0 source marker attributes ∧
    marker.tag ∈ referenceTags ∧ attributes.file = some value ∧ isVariantName value = false ∧
    Path.resolve (Path.parent file) value = .ok target

/-- A file can be reached from one of the paths. -/
def Reached (options : Options) (disk : Disk) (paths : List Text) (file : Text) : Prop :=
  ∃ path ∈ paths, ReflTransGen (Refers options disk) path file

/-- What is found in a file, if it can be read. -/
def foundIn (options : Options) (disk : Disk) (file : Text) : List (Except Error Finding) :=
  match reading options disk file with
  | .ok taken => taken.found file options.activeTrigger
  | .error _ => []

/-- The file that a finding refers to. -/
def Finding.target? (finding : Finding) : Option Text :=
  if finding.tag ∈ referenceTags then finding.occurrence.attributes.filePath else none

theorem Finding.asks_eq (finding : Finding) :
    finding.asks = (finding.target?.map Task.visit).toList := by
  simp only [asks, target?, List.contains_iff_mem]
  split
  next path hpath => split <;> simp [hpath]
  next hpath => simp [hpath]

/-- The `file` attribute names a file, which is read in the directory at hand, unless it is
empty or the name of a variant. -/
theorem filePath_eq_some_iff {directory attrText target : Text} {attributes : Attributes}
    (h : Attributes.parse directory attrText = .ok attributes) :
    attributes.filePath = some target ↔ ∃ value, attributes.file = some value ∧
      isVariantName value = false ∧ Path.resolve directory value = .ok target := by
  obtain ⟨items, hitems⟩ : ∃ items, attributes.items = items ∧
      Attributes.resolveFile directory (items.get? Attributes.fileName) =
        .ok attributes.filePath := by
    simp only [Attributes.parse, bind, Except.bind] at h
    split at h
    · cases h
    next items _ =>
      split at h
      · cases h
      next filePath hfile =>
        split at h
        · cases h
        · cases h
          exact ⟨items, rfl, hfile⟩
  obtain ⟨rfl, hfile⟩ := hitems
  simp only [Attributes.file, Attributes.given?, Attributes.get?]
  cases hvalue : attributes.items.get? Attributes.fileName with
  | none =>
      rw [hvalue] at hfile
      have hnone : attributes.filePath = none := (Except.ok.inj hfile).symm
      simp [hnone]
  | some value =>
      rw [hvalue, Attributes.resolveFile] at hfile
      split at hfile
      next hno =>
        have hnone : attributes.filePath = none := (Except.ok.inj hfile).symm
        rcases hno with rfl | hvariant
        · simp [hnone]
        · simp [hnone, hvariant]
      next hyes =>
        obtain ⟨hne, hvariant⟩ := not_or.1 hyes
        cases hpath : Path.resolve directory value with
        | error e =>
            rw [hpath] at hfile
            cases hfile
        | ok path =>
            rw [hpath] at hfile
            have hsome : attributes.filePath = some path := (Except.ok.inj hfile).symm
            simp [hsome, hne, hvariant, hpath, Option.filter_some]

section Found

variable {options : Options} {disk : Disk} {file target : Text}

/-- Only text files have findings: the markers of their forests. -/
theorem mem_foundIn_iff {finding : Finding} :
    .ok finding ∈ foundIn options disk file ↔
      ∃ source marker attributes, reading options disk file = .ok (.text source) ∧
        Marks file options.activeTrigger 0 source marker attributes ∧
        finding = ⟨file, marker.tag, marker.occurrence attributes⟩ := by
  simp only [foundIn]
  cases reading options disk file with
  | error e => simp
  | ok taken =>
      cases taken with
      | missing => simp [Reading.found]
      | binary => simp [Reading.found]
      | text source => simp [Reading.found, mem_findings_iff]

theorem foundIn_text {source : Text} (h : reading options disk file = .ok (.text source)) :
    foundIn options disk file = findings file options.activeTrigger 0 source := by
  simp only [foundIn, h, Reading.found]

theorem exists_parse_of_error_mem_foundIn {e : Error}
    (h : .error e ∈ foundIn options disk file) :
    ∃ attrText, Attributes.parse (Path.parent file) attrText = .error e := by
  simp only [foundIn] at h
  split at h
  next taken _ =>
    cases taken with
    | missing => cases h
    | binary => cases h
    | text source => exact exists_parse_of_error_mem h
  · cases h

theorem file_of_mem_foundIn {finding : Finding} (h : .ok finding ∈ foundIn options disk file) :
    finding.file = file := by
  obtain ⟨_, _, _, _, _, rfl⟩ := mem_foundIn_iff.1 h
  rfl

/-- What is found in a file says nothing about the blocks of another one. -/
theorem occurrenceIn?_of_mem_foundIn {other tag : Text} (hne : other ≠ file)
    {found : Except Error Finding} (h : found ∈ foundIn options disk file) :
    occurrenceIn? ⟨other, tag⟩ found = none := by
  by_contra hsome
  obtain ⟨occurrence, hoccurs⟩ := Option.ne_none_iff_exists'.1 hsome
  obtain rfl := occurrenceIn?_eq_some_iff.1 hoccurs
  exact hne (file_of_mem_foundIn h)

theorem tag_ne_nil_of_mem_foundIn {finding : Finding}
    (h : .ok finding ∈ foundIn options disk file) : finding.tag ≠ [] := by
  obtain ⟨_, _, _, _, hmarks, rfl⟩ := mem_foundIn_iff.1 h
  obtain ⟨_, _, _, _, htag⟩ := hmarks.exists_place
  exact htag

/-- A file refers to the files that its findings refer to. -/
theorem refers_iff :
    Refers options disk file target ↔
      ∃ finding, .ok finding ∈ foundIn options disk file ∧ finding.target? = some target := by
  constructor
  · rintro ⟨source, marker, attributes, value, hreading, hmarks, htag, hvalue⟩
    refine ⟨_, mem_foundIn_iff.2 ⟨source, marker, attributes, hreading, hmarks, rfl⟩, ?_⟩
    rw [Finding.target?, if_pos htag]
    exact (filePath_eq_some_iff hmarks.live.parse).2 ⟨value, hvalue⟩
  · rintro ⟨finding, hfound, htarget⟩
    obtain ⟨source, marker, attributes, hreading, hmarks, rfl⟩ := mem_foundIn_iff.1 hfound
    rw [Finding.target?] at htarget
    split at htarget
    next htag =>
      obtain ⟨value, hvalue⟩ := (filePath_eq_some_iff hmarks.live.parse).1 htarget
      exact ⟨source, marker, attributes, value, hreading, hmarks, htag, hvalue⟩
    · cases htarget

end Found

section Step

variable {run after : Run} {task : Task} {more : List Task}

/-- A file that can be read gets its record, and what is found in it is work to do. -/
theorem readFile_eq (run : Run) (path : Text) :
    ∃ log, readFile run { key := .ofFile path, isFile := true } path =
      match reading run.session.options run.disk path with
      | .ok taken =>
          (.ok ((foundIn run.session.options run.disk path).map .note),
            { run.store (taken.record path) with log })
      | .error e => (.error e, { run with log }) := by
  simp only [readFile, foundIn, reading, bind, Except.bind]
  cases hexists : run.disk.exists? path with
  | error e => exact ⟨run.log, rfl⟩
  | ok known =>
      cases known with
      | false => exact ⟨_, rfl⟩
      | true =>
          cases hbinary : run.session.options.treatsAsBinary path with
          | error e => exact ⟨run.log, rfl⟩
          | ok isBinary =>
              cases isBinary with
              | true => exact ⟨_, rfl⟩
              | false =>
                  simp only [Run.note]
                  cases hread : run.disk.readText run.session.options.fileCharset path with
                  | error e => exact ⟨_, rfl⟩
                  | ok content => exact ⟨_, rfl⟩

/-- A file without a record gets one first, and then the one that it is read with. -/
theorem visit_eq {path : Text} (h : run.session.record? (.ofFile path) = none) :
    ∃ log, visit run path =
      match reading run.session.options run.disk path with
      | .ok taken =>
          (.ok ((foundIn run.session.options run.disk path).map .note),
            { (run.store { key := .ofFile path, isFile := true }).store (taken.record path) with
              log })
      | .error e =>
          (.error e, { run.store { key := .ofFile path, isFile := true } with log }) := by
  rw [visit_new h]
  exact readFile_eq (run.store { key := .ofFile path, isFile := true }) path

/-- The steps of a walk that succeed. Each changes the table at one key at most. -/
inductive Steps (run : Run) : Task → List Task → Run → Prop
  /-- A file that is known is passed over. -/
  | known {path record} (hrecord : run.session.record? (.ofFile path) = some record) :
      Steps run (.visit path) [] run
  /-- Another file is read and gets its record. -/
  | read {path taken after} (hnew : run.session.record? (.ofFile path) = none)
      (hreading : reading run.session.options run.disk path = .ok taken)
      (hsetting : SameSetting after run)
      (hrecords : after.session.record? =
        Function.update run.session.record? (.ofFile path) (some (taken.record path))) :
      Steps run (.visit path) ((foundIn run.session.options run.disk path).map .note) after
  /-- A finding goes to the record of its block, and the file that it refers to is asked
  for. -/
  | noted {finding after} (hsetting : SameSetting after run)
      (hrecords : after.session.record? =
        Function.update run.session.record? ⟨finding.file, finding.tag⟩
          (some (((run.session.record? ⟨finding.file, finding.tag⟩).getD
            { key := ⟨finding.file, finding.tag⟩ }).addOccurrence finding.occurrence))) :
      Steps run (.note (.ok finding)) (finding.target?.map Task.visit).toList after

theorem record?_store (session : Session) (record : Record) :
    (session.store record).record? =
      Function.update session.record? record.key (some record) := by
  funext key
  by_cases hkey : record.key = key
  · subst hkey
    rw [Session.record?_store_self, Function.update_self]
  · rw [Session.record?_store_of_ne session hkey, Function.update_of_ne (Ne.symm hkey)]

/-- Of two records that are stored under one key, the second one stays. -/
theorem record?_store_store (session : Session) {record other : Record}
    (h : record.key = other.key) :
    ((session.store record).store other).record? =
      Function.update session.record? other.key (some other) := by
  rw [record?_store, record?_store, h, Function.update_idem]

theorem steps_visit {path : Text} (h : visit run path = (.ok more, after)) :
    Steps run (.visit path) more after := by
  cases hrecord : run.session.record? (.ofFile path) with
  | some record =>
      rw [visit_known hrecord] at h
      cases h
      exact .known hrecord
  | none =>
      obtain ⟨log, hvisit⟩ := visit_eq hrecord
      rw [hvisit] at h
      cases hreading : reading run.session.options run.disk path with
      | error e =>
          rw [hreading] at h
          cases h
      | ok taken =>
          rw [hreading] at h
          cases h
          refine .read hrecord hreading ⟨rfl, rfl, rfl, rfl⟩ ?_
          have hstore := @record?_store_store run.session { key := .ofFile path, isFile := true } _
            (taken.record_key path).symm
          rw [taken.record_key path] at hstore
          exact hstore

theorem steps_noteFinding (hfresh : run.session.Fresh) {finding : Finding}
    (h : noteFinding run finding = (.ok more, after)) :
    Steps run (.note (.ok finding)) more after := by
  cases hrecord : run.session.record? ⟨finding.file, finding.tag⟩ with
  | some record =>
      have hkey : record.key = ⟨finding.file, finding.tag⟩ :=
        (hfresh.records _ record hrecord).key_eq
      rw [noteFinding_known hrecord, Finding.asks_eq] at h
      cases h
      refine .noted ⟨rfl, rfl, rfl, rfl⟩ ?_
      rw [hrecord, Option.getD_some, ← hkey]
      exact record?_store run.session (record.addOccurrence finding.occurrence)
  | none =>
      rw [noteFinding_new hrecord, Finding.asks_eq] at h
      cases h
      refine .noted ⟨rfl, rfl, rfl, rfl⟩ ?_
      rw [hrecord, Option.getD_none]
      exact record?_store_store run.session rfl

/-- A step that succeeds is one of these. -/
theorem step_steps (hfresh : run.session.Fresh) (h : step run task = (.ok more, after)) :
    Steps run task more after := by
  cases task with
  | visit path => exact steps_visit h
  | note finding =>
      cases finding with
      | error e => cases h
      | ok finding => exact steps_noteFinding hfresh h

/-- A step leaves the options, the processors, the variants and the disk alone, also where
it fails. -/
theorem step_setting {result : Except Error (List Task)} (h : step run task = (result, after)) :
    SameSetting after run := by
  cases task with
  | visit path =>
      rw [step] at h
      cases hrecord : run.session.record? (.ofFile path) with
      | some record =>
          rw [visit_known hrecord] at h
          cases h
          exact SameSetting.refl run
      | none =>
          obtain ⟨log, hvisit⟩ := visit_eq hrecord
          rw [hvisit] at h
          split at h <;> cases h <;> exact ⟨rfl, rfl, rfl, rfl⟩
  | note finding =>
      cases finding with
      | error e =>
          cases h
          exact SameSetting.refl run
      | ok finding =>
          rw [step] at h
          cases hrecord : run.session.record? ⟨finding.file, finding.tag⟩ with
          | some record =>
              rw [noteFinding_known hrecord] at h
              cases h
              exact ⟨rfl, rfl, rfl, rfl⟩
          | none =>
              rw [noteFinding_new hrecord] at h
              cases h
              exact ⟨rfl, rfl, rfl, rfl⟩

theorem walk_setting {tasks : List Task} {result : Except Error Unit}
    (h : walk run tasks = (result, after)) : SameSetting after run := by
  fun_induction walk run tasks with
  | case1 run =>
      cases h
      exact SameSetting.refl _
  | case2 run task tasks e failed hstep =>
      cases h
      exact step_setting hstep
  | case3 run task tasks more mid hstep ih => exact (ih h).trans (step_setting hstep)

/-- A step fails only where a file or the attributes of a marker cannot be read: a record
that is made is never there already. -/
theorem step_error {e : Error} (h : step run task = (.error e, after)) :
    (∃ path, task = .visit path ∧ reading run.session.options run.disk path = .error e) ∨
      task = .note (.error e) := by
  cases task with
  | visit path =>
      rw [step] at h
      cases hrecord : run.session.record? (.ofFile path) with
      | some record =>
          rw [visit_known hrecord] at h
          cases h
      | none =>
          obtain ⟨log, hvisit⟩ := visit_eq hrecord
          rw [hvisit] at h
          cases hreading : reading run.session.options run.disk path with
          | error e' =>
              rw [hreading] at h
              cases h
              exact Or.inl ⟨path, rfl, hreading⟩
          | ok taken =>
              rw [hreading] at h
              cases h
  | note finding =>
      cases finding with
      | error e' =>
          cases h
          exact Or.inr rfl
      | ok finding =>
          rw [step] at h
          cases hrecord : run.session.record? ⟨finding.file, finding.tag⟩ with
          | some record =>
              rw [noteFinding_known hrecord] at h
              cases h
          | none =>
              rw [noteFinding_new hrecord] at h
              cases h

end Step

/-- Whether a file is binary fails only where the caller's own test does. -/
theorem treatsAsBinary_error {options : Options} {path : Text} {e : Error}
    (h : options.treatsAsBinary path = .error e) :
    ∃ test, options.isBinary = some test ∧ test path = .error e := by
  simp only [Options.treatsAsBinary] at h
  split at h
  · cases h
  · split at h
    next test hsome => exact ⟨test, hsome, h⟩
    · cases h

/-- A file cannot be read for its path, its bytes or its character set, or because the
caller's own test for binary files fails. -/
theorem reading_error {options : Options} {disk : Disk} {path : Text} {e : Error}
    (h : reading options disk path = .error e) :
    e.isInternal = false ∨ ∃ test, options.isBinary = some test ∧ test path = .error e := by
  rcases error_of_bind h with hexists | ⟨known, -, hknown⟩
  · exact Or.inl (external_exists? disk path e hexists)
  · split at hknown
    · rcases error_of_bind hknown with htest | ⟨isBinary, -, hread⟩
      · exact Or.inr (treatsAsBinary_error htest)
      · split at hread
        · cases hread
        · rcases error_of_bind hread with htext | ⟨content, -, hdone⟩
          · exact Or.inl (external_readText disk options path e htext)
          · cases hdone
    · cases hknown

end BlockWeave.Discovery
