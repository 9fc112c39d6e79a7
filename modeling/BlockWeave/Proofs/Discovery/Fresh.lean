import BlockWeave.Builder
import BlockWeave.Processor.Standard
import BlockWeave.Proofs.Weave.Basic

/-!
# Freshly loaded sessions

Discovery creates records and adds to them, but resolves nothing: after any number of
loads every record is unvisited and has no content, and no block is in progress.
-/

namespace BlockWeave

/-- What discovery has found about a block, without how far its resolution has come. -/
def Record.found (record : Record) : Record :=
  { record with content := none, state := .unvisited }

@[simp] theorem Record.found_key (record : Record) : record.found.key = record.key := rfl

/-- A record that stands under its key and has not been visited. -/
structure Record.New (key : BlockKey) (record : Record) : Prop where
  key_eq : record.key = key
  state_eq : record.state = .unvisited
  content_eq : record.content = none

/-- A session in which no block has been visited. -/
structure Session.Fresh (session : Session) : Prop where
  records : ∀ key record, session.record? key = some record → record.New key
  chain : session.chain = []

namespace Session

theorem record?_store_self (session : Session) (record : Record) :
    (session.store record).record? record.key = some record := by
  simp [record?, store]

theorem record?_store_of_ne (session : Session) {record : Record} {key : BlockKey}
    (h : record.key ≠ key) : (session.store record).record? key = session.record? key := by
  simp [record?, store, h]

/-- What stands under a key after a record has been stored is this record, or what stood
there before. -/
theorem record?_store_cases {session : Session} {record other : Record} {key : BlockKey}
    (h : (session.store record).record? key = some other) :
    (record.key = key ∧ other = record) ∨
      (record.key ≠ key ∧ session.record? key = some other) := by
  by_cases hkey : record.key = key
  · subst hkey
    rw [record?_store_self] at h
    exact Or.inl ⟨rfl, (Option.some.inj h).symm⟩
  · rw [record?_store_of_ne session hkey] at h
    exact Or.inr ⟨hkey, h⟩

theorem Fresh.store {session : Session} (h : session.Fresh) {record : Record}
    (hnew : record.New record.key) : (session.store record).Fresh := by
  refine ⟨?_, h.chain⟩
  intro key other hother
  rcases record?_store_cases hother with ⟨rfl, rfl⟩ | ⟨-, hother⟩
  · exact hnew
  · exact h.records key other hother

end Session

namespace Discovery

/-- A text file is kept, tidied if the options ask for it, and its findings are work to do. -/
theorem readFile_text {run : Run} {path content : Text}
    (hbinary : run.session.options.treatsAsBinary path = .ok false)
    (hread : run.disk.readText run.session.options.fileCharset path = .ok content)
    (record : Record) :
    readFile run record path =
      let source := if run.session.options.tidies then Text.tidy content else content
      (.ok ((findings path run.session.options.activeTrigger 0 source).map .note),
        (run.note (.debug .discovery ("load " ++ String.ofList path))).store
          { record with source := some source }) := by
  have hnoted : ∀ entry, (run.note entry).disk = run.disk := fun _ => rfl
  simp only [readFile, Disk.exists?_of_readText hread, hbinary, hnoted, hread]

/-- A new file is recorded with its text where that text is tidy. -/
theorem visit_tidied (run : Run) {path source : Text} {found : List (Except Error Finding)}
    (hnew : run.session.record? (.ofFile path) = none)
    (hbinary : run.session.options.treatsAsBinary path = .ok false)
    (hread : run.disk.readText run.session.options.fileCharset path = .ok source)
    (htidy : Text.tidy source = source)
    (hfindings : findings path run.session.options.activeTrigger 0 source = found) :
    visit run path =
      (.ok (found.map .note),
        ((run.store { key := .ofFile path, isFile := true }).note
          (.debug .discovery ("load " ++ String.ofList path))).store
            { key := .ofFile path, isFile := true, source := some source }) := by
  have hsource := @readFile_text (run.store { key := .ofFile path, isFile := true }) path source
    hbinary hread { key := .ofFile path, isFile := true }
  simp only [htidy, ite_self] at hsource
  rw [visit_new hnew, hsource, ← hfindings]
  rfl

/-- Reading a file stores a new record, or nothing. -/
theorem readFile_fresh {run : Run} (h : run.session.Fresh) {record : Record} {path : Text}
    (hnew : record.New record.key) : (readFile run record path).2.session.Fresh := by
  have hsource (source : Option Text) : ({ record with source } : Record).New record.key :=
    ⟨rfl, hnew.state_eq, hnew.content_eq⟩
  have hbinary : ({ record with isBinary := true } : Record).New record.key :=
    ⟨rfl, hnew.state_eq, hnew.content_eq⟩
  simp only [readFile]
  split
  · exact h
  · exact h.store (hsource (some []))
  · split
    · exact h
    · exact h.store hbinary
    · split
      · exact h
      next content _ => exact h.store (hsource _)

/-- A piece of work visits no block. -/
theorem step_fresh {run : Run} (h : run.session.Fresh) (task : Task) :
    (step run task).2.session.Fresh := by
  cases task with
  | visit path =>
      rw [step]
      cases hrecord : run.session.record? (.ofFile path) with
      | some record =>
          rw [visit_known hrecord]
          exact h
      | none =>
          have hnew : Record.New (.ofFile path) { key := .ofFile path, isFile := true } :=
            ⟨rfl, rfl, rfl⟩
          rw [visit_new hrecord]
          exact readFile_fresh (h.store hnew) hnew
  | note finding =>
      cases finding with
      | error e => exact h
      | ok finding =>
          rw [step]
          cases hrecord : run.session.record? ⟨finding.file, finding.tag⟩ with
          | some record =>
              have hr := h.records _ record hrecord
              have hadded : (record.addOccurrence finding.occurrence).New record.key :=
                ⟨rfl, hr.state_eq, hr.content_eq⟩
              rw [noteFinding_known hrecord]
              exact h.store hadded
          | none =>
              have hnew (occurrences : List Occurrence) : Record.New ⟨finding.file, finding.tag⟩
                  { key := ⟨finding.file, finding.tag⟩, occurrences } := ⟨rfl, rfl, rfl⟩
              rw [noteFinding_new hrecord]
              exact (h.store (hnew [])).store (hnew [finding.occurrence])

/-- Work that succeeds is followed by the work that it asks for. -/
theorem walk_cons {run after : Run} {task : Task} {more : List Task}
    (h : step run task = (.ok more, after)) (tasks : List Task) :
    walk run (task :: tasks) = walk after (more ++ tasks) := by
  rw [walk]
  split
  next he =>
    rw [h] at he
    cases he
  next he =>
    rw [h] at he
    cases he
    rfl

theorem walk_fresh {run : Run} (h : run.session.Fresh) (tasks : List Task) :
    (walk run tasks).2.session.Fresh := by
  fun_induction walk run tasks with
  | case1 run => exact h
  | case2 run task tasks e after hstep =>
      have hafter := step_fresh h task
      rwa [hstep] at hafter
  | case3 run task tasks more after hstep ih =>
      have hafter := step_fresh h task
      rw [hstep] at hafter
      exact ih hafter

end Discovery

/-- Runs of a new session in which files have been loaded, one after the other, and
nothing else has been done. -/
inductive Loaded : Run → Prop
  | start (builder : Builder) (options : Options) (disk : Disk) (log : List LogEntry) :
      Loaded { session := builder.newSession options, disk, log }
  | load {run after : Run} {path : Text} (h : Loaded run)
      (hload : (Discovery.load path).run run = (.ok (), after)) : Loaded after

/-- Loading files visits no block. -/
theorem Loaded.fresh {run : Run} (h : Loaded run) : run.session.Fresh := by
  induction h with
  | start builder options disk log =>
      refine ⟨fun key record hr => ?_, rfl⟩
      simp [Builder.newSession, Session.record?, Table.get?] at hr
  | @load run after path _ hload ih =>
      have hwalk := Discovery.walk_fresh ih [.visit path]
      have hafter : (Discovery.walk run [.visit path]).2 = after := by
        have := congrArg Prod.snd hload
        simpa [Discovery.load, Action.perform] using this
      exact hafter ▸ hwalk

namespace Pair

/-- A file that includes another one twice. -/
def outer : Text := ['/', 'a']

/-- The file that is included. -/
def inner : Text := ['/', 'b']

/-- The marker that stands for the inner file. -/
def marker : Text := "/*<include file=\"b\"/>*/".toList

/-- A marker of the outer file as an occurrence of a block. -/
def occurrenceAt (offset : Int) : Occurrence where
  offset := offset
  attributes := {
    items := [(Attributes.fileName, ['b'])]
    filePath := some inner
    exportPath := none }
  body := []

/-- A disk with the two files. -/
def disk : Disk :=
  { nodes := [(outer, .file (Utf8.encode (marker ++ marker))), (inner, .file [121])] }

/-- A builder that knows the processors that need no library. -/
def builder : Builder := { registry := Registry.encodings }

/-- A run on this disk in which some records have been made and some files have been
read. -/
def run (records : List Record) (read : List Text) : Run where
  session := {
    builder.newSession {} with
    records := records.map fun record => (record.key, record) }
  disk := disk
  log := read.map fun path => .debug .discovery ("load " ++ String.ofList path)

def outerRecord : Record :=
  { key := .ofFile outer, isFile := true, source := some (marker ++ marker) }

def markerRecord (offsets : List Int) : Record :=
  { key := ⟨outer, includeTag⟩, occurrences := offsets.map occurrenceAt }

def innerRecord : Record := { key := .ofFile inner, isFile := true, source := some ['y'] }

/-- The run in which the outer file has been loaded, and the inner one with it. -/
def loaded : Run :=
  run [outerRecord, markerRecord [0, 23], innerRecord] [outer, inner]

section

open Discovery

/-- The work that notes a marker of the outer file. -/
def noted (offset : Int) : Task :=
  .note (.ok ⟨outer, includeTag, occurrenceAt offset⟩)

theorem visit_outer :
    visit (run [] []) outer = (.ok [noted 0, noted 23], run [outerRecord] [outer]) := by
  have hread : disk.readText ({} : Options).fileCharset outer = .ok (marker ++ marker) := by
    with_unfolding_all rfl
  have htidy : Text.tidy (marker ++ marker) = marker ++ marker := by with_unfolding_all rfl
  have hfindings : findings outer ({} : Options).activeTrigger 0 (marker ++ marker) =
      [.ok ⟨outer, includeTag, occurrenceAt 0⟩, .ok ⟨outer, includeTag, occurrenceAt 23⟩] := by
    with_unfolding_all rfl
  exact visit_tidied (run [] []) rfl rfl hread htidy hfindings

theorem visit_inner :
    visit (run [outerRecord, markerRecord [0]] [outer]) inner =
      (.ok [], run [outerRecord, markerRecord [0], innerRecord] [outer, inner]) := by
  have hread : disk.readText ({} : Options).fileCharset inner = .ok ['y'] := by
    with_unfolding_all rfl
  have htidy : Text.tidy ['y'] = ['y'] := by with_unfolding_all rfl
  have hfindings : findings inner ({} : Options).activeTrigger 0 ['y'] = [] := by
    with_unfolding_all rfl
  exact visit_tidied (run [outerRecord, markerRecord [0]] [outer]) rfl rfl hread htidy hfindings

theorem load_outer : (load outer).run (run [] []) = (.ok (), loaded) := by
  have hvisit : step (run [] []) (.visit outer) =
      (.ok [noted 0, noted 23], run [outerRecord] [outer]) := visit_outer
  have hfirst : step (run [outerRecord] [outer]) (noted 0) =
      (.ok [.visit inner], run [outerRecord, markerRecord [0]] [outer]) := by
    rfl
  have hinner : step (run [outerRecord, markerRecord [0]] [outer]) (.visit inner) =
      (.ok [], run [outerRecord, markerRecord [0], innerRecord] [outer, inner]) := visit_inner
  have hsecond : step (run [outerRecord, markerRecord [0], innerRecord] [outer, inner])
      (noted 23) = (.ok [.visit inner], loaded) := by
    rfl
  have hknown : step loaded (.visit inner) = (.ok [], loaded) := by
    rfl
  rw [load, Weave.run_perform, Action.perform, walk_cons hvisit]
  simp only [List.cons_append, List.nil_append]
  rw [walk_cons hfirst, List.singleton_append, walk_cons hinner, List.nil_append,
    walk_cons hsecond, List.singleton_append, walk_cons hknown, List.nil_append, walk]

end

theorem loaded_loaded : Loaded loaded :=
  Loaded.load (Loaded.start builder {} disk []) load_outer

end Pair
end BlockWeave
