import BlockWeave.Proofs.Discovery.Fresh
import BlockWeave.Proofs.Include.FileSet
import BlockWeave.Proofs.Weaving.Relation
import Mathlib.Data.List.Basic

/-!
# Loading files that include each other

Loading a file of a directory reads every file that can be reached from it. The walk
keeps an invariant: a file that a known file refers to is known or asked for by the work
to do. When no work is left, all files that can be reached are known.
-/

namespace BlockWeave.Include

open Discovery Relation

/-- A directory, by the parts of its path. -/
structure Directory where
  parts : List Text
  isPart : ∀ part ∈ parts, Path.IsPart part

namespace Directory

/-- The path of a file in a directory. -/
def path (directory : Directory) (name : Text) : Text :=
  Path.absolute (directory.parts ++ [name])

variable (directory : Directory) {name other : Text}

theorem parent_path (h : IsFileName name) :
    Path.parent (directory.path name) = Path.absolute directory.parts :=
  Path.parent_absolute directory.isPart h.isPart

theorem path_inj (h : IsFileName name) (h' : IsFileName other)
    (he : directory.path name = directory.path other) : name = other := by
  have hparts := Path.absolute_inj (Path.isPart_concat directory.isPart h.isPart)
    (Path.isPart_concat directory.isPart h'.isPart) he
  simpa using hparts

/-- A name without a period has no extension. -/
theorem extension_path (h : IsFileName name) : Path.extension (directory.path name) = [] := by
  have hname : Path.name (directory.path name) = name := by
    rw [Path.name, path, Path.parts_absolute (Path.isPart_concat directory.isPart h.isPart)]
    simp
  have hperiod : ∀ c ∈ name.reverse, (c != '.') = true := by
    intro c hc
    have hmem : c ∈ name := List.mem_reverse.1 hc
    rw [bne_iff_ne]
    rintro rfl
    exact h.notMem rfl hmem
  rw [Path.extension, hname, List.takeWhile_eq_self_iff.2 hperiod]
  simp

end Directory

/-- The options of a build that leaves plain text and included files alone. -/
structure Literally (options : Options) : Prop where
  tidies : options.tidies = false
  isBinary : options.isBinary = none
  removes : ∃ removed, options.removeList = .ok removed ∧ includeTag ∉ removed

/-- A directory holds the files of a set, and none of the other files that they refer
to. -/
structure Holds (directory : Directory) (set : FileSet) (options : Options) (disk : Disk) :
    Prop where
  files : ∀ name pieces, set.files.get? name = some pieces →
    disk.readText options.fileCharset (directory.path name) = .ok (sourceOf pieces)
  missing : ∀ name target, set.Refers name target → set.files.get? target = none →
    disk.exists? (directory.path target) = .ok false

/-- A file of the set, or one that some file refers to. -/
def FileSet.Named (set : FileSet) (name : Text) : Prop :=
  (∃ pieces, set.files.get? name = some pieces) ∨ ∃ other, set.Refers other name

theorem FileSet.Named.isFileName {set : FileSet} {name : Text} (h : set.Named name) :
    IsFileName name := by
  rcases h with ⟨pieces, hfile⟩ | ⟨other, hrefers⟩
  · exact set.isFileName name pieces hfile
  · exact FileSet.isFileName_of_refers hrefers

/-- The record of a file that has been loaded. -/
def fileRecord (directory : Directory) (set : FileSet) (name : Text) : Record where
  key := .ofFile (directory.path name)
  isFile := true
  source := some (sourceOf (set.pieces name))

/-- Work that leads to a file. -/
def Asks (path : Text) : Task → Prop
  | .visit other => other = path
  | .note (.error _) => False
  | .note (.ok finding) =>
      finding.tag = includeTag ∧ finding.occurrence.attributes.filePath = some path

/-- The finding of a marker that includes a file of its own directory. -/
def findingAt (directory : Directory) (file : Text) (place : Text × Int) : Finding where
  file := file
  tag := includeTag
  occurrence := {
    offset := place.2
    attributes := includeAttributes directory.parts place.1
    body := [] }

theorem asks_findingAt (directory : Directory) (file name : Text) (offset : Int) :
    Asks (directory.path name) (.note (.ok (findingAt directory file (name, offset)))) :=
  ⟨rfl, rfl⟩

/-- The markers of a file are those of its pieces. -/
theorem markers_sourceOf {pieces : List Piece} (hproper : ∀ piece ∈ pieces, piece.Proper)
    (offset : Int) :
    ∃ places : List (Text × Int),
      markers offset (sourceOf pieces) = places.map (fun place => includeMarker place.1 place.2) ∧
        ∀ name, (∃ place, (name, place) ∈ places) ↔ .file name ∈ pieces := by
  induction pieces generalizing offset with
  | nil => exact ⟨[], by simp [sourceOf, markers_nil], by simp⟩
  | cons piece pieces ih =>
      have hfirst := hproper piece (by simp)
      have hrest : ∀ other ∈ pieces, other.Proper := fun other ho => hproper other (by simp [ho])
      have hsource : sourceOf (piece :: pieces) = piece.text ++ sourceOf pieces := by
        simp [sourceOf]
      cases piece with
      | literal text =>
          obtain ⟨places, hmarkers, hplaces⟩ := ih hrest (offset + text.length)
          refine ⟨places, ?_, fun name => by simp [hplaces]⟩
          rw [hsource, Piece.text, markers_plain hfirst, hmarkers]
      | file target =>
          obtain ⟨places, hmarkers, hplaces⟩ := ih hrest (offset + (includeText target).length)
          refine ⟨(target, offset) :: places, ?_, fun name => ?_⟩
          · rw [hsource, Piece.text, markers_includeText hfirst, hmarkers, List.map_cons]
          · rw [List.mem_cons, ← hplaces, Piece.file.injEq]
            constructor
            · rintro ⟨place, hmem⟩
              rcases List.mem_cons.1 hmem with he | hmem
              · exact Or.inl (congrArg Prod.fst he)
              · exact Or.inr ⟨place, hmem⟩
            · rintro (rfl | ⟨place, hmem⟩)
              · exact ⟨offset, by simp⟩
              · exact ⟨place, by simp [hmem]⟩

theorem findings_nil (file : Text) (trigger : Option Text) (offset : Int) :
    findings file trigger offset [] = [] := by
  rw [findings]
  simp [markers_nil]

/-- What is found in a file of a directory are the files that it refers to. -/
theorem findings_sourceOf (directory : Directory) {name : Text} (hname : IsFileName name)
    {pieces : List Piece} (hproper : ∀ piece ∈ pieces, piece.Proper) (trigger : Option Text)
    (offset : Int) :
    ∃ places : List (Text × Int),
      findings (directory.path name) trigger offset (sourceOf pieces) =
        places.map (fun place => .ok (findingAt directory (directory.path name) place)) ∧
      ∀ target, (∃ place, (target, place) ∈ places) ↔ .file target ∈ pieces := by
  obtain ⟨places, hmarkers, hplaces⟩ := markers_sourceOf hproper offset
  refine ⟨places, ?_, hplaces⟩
  rw [findings, List.flatMap_subtype fun marker _ => rfl, List.unattach_attach, hmarkers,
    List.flatMap_map, directory.parent_path hname, List.map_eq_flatMap]
  refine List.flatMap_congr fun place hplace => ?_
  have htarget : IsFileName place.1 :=
    hproper _ ((hplaces place.1).1 ⟨place.2, hplace⟩)
  simp only [parse_includeMarker directory.isPart htarget, includeAttributes.excludes]
  simp only [includeMarker, findings_nil, findingAt]
  rfl

section Walk

variable {directory : Directory} {set : FileSet}

/-- A file without an extension is read as text. -/
theorem treatsAsBinary_path {options : Options} (hoptions : Literally options) {name : Text}
    (hname : IsFileName name) : options.treatsAsBinary (directory.path name) = .ok false := by
  simp only [Options.treatsAsBinary, directory.extension_path hname, hoptions.isBinary]
  simp

/-- The record of a file that is about to be read. -/
def newRecord (path : Text) : Record where
  key := .ofFile path
  isFile := true

/-- A file that does not exist is empty. -/
theorem readFile_missing {run : Run} {record : Record} {path : Text}
    (h : run.disk.exists? path = .ok false) :
    readFile run record path =
      (.ok [], (run.note (.warning .discovery
        ("File \"" ++ String.ofList path ++ "\" not exists."))).store
          { record with source := some [] }) := by
  simp only [readFile, h]

/-- A text file is kept as it is where no text is tidied. -/
theorem readFile_untidied {run : Run} {record : Record} {path content : Text}
    (htidies : run.session.options.tidies = false)
    (hbinary : run.session.options.treatsAsBinary path = .ok false)
    (hread : run.disk.readText run.session.options.fileCharset path = .ok content) :
    readFile run record path =
      (.ok ((findings path run.session.options.activeTrigger 0 content).map .note),
        (run.note (.debug .discovery ("load " ++ String.ofList path))).store
          { record with source := some content }) := by
  simpa [htidies] using readFile_text hbinary hread record

/-- What a step of the walk leads to: the file that it was for is known, or still asked
for, and nothing else is known but what was known before. A file that gets known asks for
all files that it refers to. -/
structure Progress (directory : Directory) (set : FileSet) (name : Text) (run after : Run)
    (more : List Task) : Prop where
  setting : SameSetting after run
  keeps : ∀ path record, run.session.record? (.ofFile path) = some record →
    after.session.record? (.ofFile path) = some record
  adds : ∀ path record, after.session.record? (.ofFile path) = some record →
    run.session.record? (.ofFile path) = some record ∨
      path = directory.path name ∧ record = fileRecord directory set name ∧
        ∀ target, set.Refers name target → ∃ task ∈ more, Asks (directory.path target) task
  answers : (after.session.record? (.ofFile (directory.path name))).isSome ∨
    ∃ task ∈ more, Asks (directory.path name) task
  named : ∀ task ∈ more, ∃ target, set.Named target ∧ Asks (directory.path target) task

/-- A file that gets known asks for the files that it refers to. -/
theorem progress_store {name : Text} {run after : Run} {more : List Task}
    (hsession : after.session =
      (run.session.store (newRecord (directory.path name))).store (fileRecord directory set name))
    (hdisk : after.disk = run.disk)
    (hnew : run.session.record? (.ofFile (directory.path name)) = none)
    (hasks : ∀ target, set.Refers name target → ∃ task ∈ more, Asks (directory.path target) task)
    (hnamed : ∀ task ∈ more, ∃ target, set.Named target ∧ Asks (directory.path target) task) :
    Progress directory set name run after more := by
  have hself : after.session.record? (.ofFile (directory.path name)) =
      some (fileRecord directory set name) := by
    rw [hsession]
    exact Session.record?_store_self _ (fileRecord directory set name)
  have hother {path : Text} (hpath : directory.path name ≠ path) :
      after.session.record? (.ofFile path) = run.session.record? (.ofFile path) := by
    have hne : BlockKey.ofFile (directory.path name) ≠ .ofFile path := by
      simpa [BlockKey.ofFile] using hpath
    rw [hsession, Session.record?_store_of_ne _ (by simpa [fileRecord] using hne),
      Session.record?_store_of_ne _ (by simpa [newRecord] using hne)]
  constructor
  case setting =>
    constructor
    · rw [hsession]
      rfl
    · rw [hsession]
      rfl
    · rw [hsession]
      rfl
    · exact hdisk
  case keeps =>
    intro path record hr
    have hpath : directory.path name ≠ path := by
      rintro rfl
      rw [hnew] at hr
      cases hr
    exact (hother hpath).trans hr
  case adds =>
    intro path record hr
    by_cases hpath : directory.path name = path
    · subst hpath
      obtain rfl := Option.some.inj (hself.symm.trans hr)
      exact Or.inr ⟨rfl, rfl, hasks⟩
    · exact Or.inl ((hother hpath).symm.trans hr)
  case answers => exact Or.inl (Option.isSome_iff_exists.2 ⟨_, hself⟩)
  case named => exact hnamed

/-- A step that stores no record of a file. -/
theorem progress_of_same {name : Text} {run after : Run} {more : List Task}
    (hsetting : SameSetting after run)
    (hsame : ∀ path, after.session.record? (.ofFile path) = run.session.record? (.ofFile path))
    (hanswers : (after.session.record? (.ofFile (directory.path name))).isSome ∨
      ∃ task ∈ more, Asks (directory.path name) task)
    (hnamed : ∀ task ∈ more, ∃ target, set.Named target ∧ Asks (directory.path target) task) :
    Progress directory set name run after more :=
  ⟨hsetting, fun path _ hr => (hsame path).trans hr,
    fun path _ hr => Or.inl ((hsame path).symm.trans hr), hanswers, hnamed⟩

/-- A file is visited: it is read if it is not known yet. -/
theorem step_visit {run : Run} (hoptions : Literally run.session.options)
    (hholds : Holds directory set run.session.options run.disk) {name : Text}
    (hname : set.Named name) :
    ∃ more after, step run (.visit (directory.path name)) = (.ok more, after) ∧
      Progress directory set name run after more := by
  cases hrecord : run.session.record? (.ofFile (directory.path name)) with
  | some record =>
      refine ⟨[], run, visit_known hrecord, ?_⟩
      exact progress_of_same (SameSetting.refl run) (fun _ => rfl) (Or.inl (by simp [hrecord]))
        (by simp)
  | none =>
      have hvisit : step run (.visit (directory.path name)) =
          readFile (run.store (newRecord (directory.path name)))
            (newRecord (directory.path name)) (directory.path name) := visit_new hrecord
      rw [hvisit]
      cases hfile : set.files.get? name with
      | none =>
          obtain ⟨other, hrefers⟩ : ∃ other, set.Refers other name := by
            rcases hname with ⟨pieces, hfound⟩ | hrefers
            · rw [hfile] at hfound
              cases hfound
            · exact hrefers
          have hpieces : set.pieces name = [] := by simp [FileSet.pieces, hfile]
          refine ⟨[], _, readFile_missing (hholds.missing other name hrefers hfile), ?_⟩
          refine progress_store ?_ rfl hrecord (fun target h => ?_) (by simp)
          · rw [fileRecord, hpieces]
            rfl
          · simp [FileSet.Refers, hpieces] at h
      | some pieces =>
          have hpieces : set.pieces name = pieces := by simp [FileSet.pieces, hfile]
          obtain ⟨places, hfindings, hplaces⟩ := findings_sourceOf directory hname.isFileName
            (set.proper name pieces hfile) run.session.options.activeTrigger 0
          refine ⟨_, _, readFile_untidied hoptions.tidies
            (treatsAsBinary_path hoptions hname.isFileName) (hholds.files name pieces hfile), ?_⟩
          refine progress_store ?_ rfl hrecord (fun target htarget => ?_)
            fun task htask => ?_
          · rw [fileRecord, hpieces]
            rfl
          · rw [FileSet.Refers, hpieces, ← hplaces] at htarget
            obtain ⟨place, hplace⟩ := htarget
            refine ⟨_, List.mem_map_of_mem (hfindings ▸ List.mem_map_of_mem hplace), ?_⟩
            exact asks_findingAt directory _ target place
          · obtain ⟨finding, hfinding, rfl⟩ := List.mem_map.1 htask
            rw [Run.store, Session.store, hfindings] at hfinding
            obtain ⟨⟨target, place⟩, hplace, rfl⟩ := List.mem_map.1 hfinding
            have hrefers : set.Refers name target := by
              rw [FileSet.Refers, hpieces, ← hplaces]
              exact ⟨place, hplace⟩
            exact ⟨target, Or.inr ⟨name, hrefers⟩, asks_findingAt directory _ target place⟩

/-- Noting an occurrence of a block changes the record of no file. -/
theorem step_noted {run : Run} (hfresh : run.session.Fresh) {finding : Finding}
    (hkey : ∀ path, (⟨finding.file, finding.tag⟩ : BlockKey) ≠ .ofFile path) :
    ∃ after, step run (.note (.ok finding)) = (.ok finding.asks, after) ∧ SameSetting after run ∧
      ∀ path, after.session.record? (.ofFile path) = run.session.record? (.ofFile path) := by
  rw [step]
  cases hrecord : run.session.record? ⟨finding.file, finding.tag⟩ with
  | some record =>
      have hsame : record.key = ⟨finding.file, finding.tag⟩ :=
        (hfresh.records _ record hrecord).key_eq
      refine ⟨_, noteFinding_known hrecord, ⟨rfl, rfl, rfl, rfl⟩, fun path => ?_⟩
      exact Session.record?_store_of_ne _ (hsame ▸ hkey path)
  | none =>
      refine ⟨_, noteFinding_new hrecord, ⟨rfl, rfl, rfl, rfl⟩, fun path => ?_⟩
      exact (Session.record?_store_of_ne _ (hkey path)).trans
        (Session.record?_store_of_ne _ (hkey path))

/-- A finding is noted, and the file that it refers to is asked for. -/
theorem step_note {run : Run} (hfresh : run.session.Fresh) {name : Text}
    (hname : set.Named name) {finding : Finding}
    (hasks : Asks (directory.path name) (.note (.ok finding))) :
    ∃ more after, step run (.note (.ok finding)) = (.ok more, after) ∧
      Progress directory set name run after more := by
  obtain ⟨htag, hpath⟩ := hasks
  have hkey (path : Text) : (⟨finding.file, finding.tag⟩ : BlockKey) ≠ .ofFile path := by
    rw [htag]
    simp [BlockKey.ofFile, includeTag]
  have hvisit : finding.asks = [.visit (directory.path name)] := by
    simp only [Finding.asks, hpath, htag]
    rfl
  obtain ⟨after, hstep, hsetting, hsame⟩ := step_noted hfresh hkey
  refine ⟨_, after, hstep, progress_of_same hsetting hsame ?_ fun task htask => ?_⟩
  · exact Or.inr ⟨.visit (directory.path name), by simp [hvisit], rfl⟩
  · rw [hvisit] at htask
    rw [List.mem_singleton.1 htask]
    exact ⟨name, hname, rfl⟩

theorem asks_unique {path other : Text} {task : Task} (h : Asks path task) (h' : Asks other task) :
    path = other := by
  cases task with
  | visit target => exact h.symm.trans h'
  | note finding =>
      cases finding with
      | error e => exact h.elim
      | ok finding => exact Option.some.inj (h.2.symm.trans h'.2)

/-- A file is known, or asked for by the work to do. -/
def Asked (run : Run) (tasks : List Task) (path : Text) : Prop :=
  (run.session.record? (.ofFile path)).isSome ∨ ∃ task ∈ tasks, Asks path task

theorem Asked.step {run after : Run} {task : Task} {tasks more : List Task} {name path : Text}
    (h : Asked run (task :: tasks) path) (hasks : Asks (directory.path name) task)
    (hprogress : Progress directory set name run after more) :
    Asked after (more ++ tasks) path := by
  rcases h with hknown | ⟨other, hother, hpath⟩
  · obtain ⟨record, hr⟩ := Option.isSome_iff_exists.1 hknown
    exact Or.inl (Option.isSome_iff_exists.2 ⟨record, hprogress.keeps path record hr⟩)
  · rcases List.mem_cons.1 hother with rfl | hother
    · obtain rfl := asks_unique hpath hasks
      rcases hprogress.answers with hknown | ⟨next, hnext, hn⟩
      · exact Or.inl hknown
      · exact Or.inr ⟨next, by simp [hnext], hn⟩
    · exact Or.inr ⟨other, by simp [hother], hpath⟩

/-- The invariant of the walk over the files of a directory. -/
structure Loading (directory : Directory) (set : FileSet) (entry : Text) (start run : Run)
    (tasks : List Task) : Prop where
  fresh : run.session.Fresh
  setting : SameSetting run start
  records : ∀ name, IsFileName name → ∀ record,
    run.session.record? (.ofFile (directory.path name)) = some record →
      record = fileRecord directory set name
  entry : Asked run tasks (directory.path entry)
  closed : ∀ name target, set.Refers name target →
    (run.session.record? (.ofFile (directory.path name))).isSome →
      Asked run tasks (directory.path target)
  named : ∀ task ∈ tasks, ∃ name, set.Named name ∧ Asks (directory.path name) task

namespace Loading

variable {entry name : Text} {start run after : Run} {task : Task} {tasks more : List Task}

/-- A step of the walk keeps the invariant. -/
theorem step (h : Loading directory set entry start run (task :: tasks)) (hname : set.Named name)
    (hasks : Asks (directory.path name) task)
    (hprogress : Progress directory set name run after more) (hfresh : after.session.Fresh) :
    Loading directory set entry start after (more ++ tasks) := by
  constructor
  case fresh => exact hfresh
  case setting => exact hprogress.setting.trans h.setting
  case records =>
    intro other hother record hr
    rcases hprogress.adds _ record hr with hr | ⟨hpath, hrecord, -⟩
    · exact h.records other hother record hr
    · obtain rfl := directory.path_inj hother hname.isFileName hpath
      exact hrecord
  case entry => exact h.entry.step hasks hprogress
  case closed =>
    intro other target hrefers hknown
    obtain ⟨record, hr⟩ := Option.isSome_iff_exists.1 hknown
    rcases hprogress.adds _ record hr with hr | ⟨hpath, -, hmore⟩
    · exact (h.closed other target hrefers (Option.isSome_iff_exists.2 ⟨record, hr⟩)).step hasks
        hprogress
    · have hother : set.Named other := Or.inl (FileSet.exists_of_refers hrefers)
      obtain rfl := directory.path_inj hother.isFileName hname.isFileName hpath
      obtain ⟨next, hnext, hn⟩ := hmore target hrefers
      exact Or.inr ⟨next, by simp [hnext], hn⟩
  case named =>
    intro next hnext
    rcases List.mem_append.1 hnext with hnext | hnext
    · exact hprogress.named next hnext
    · exact h.named next (by simp [hnext])

/-- Every step of the walk succeeds. -/
theorem exists_step (hoptions : Literally start.session.options)
    (hholds : Holds directory set start.session.options start.disk)
    (h : Loading directory set entry start run (task :: tasks)) :
    ∃ more after, Discovery.step run task = (.ok more, after) ∧
      Loading directory set entry start after (more ++ tasks) := by
  obtain ⟨name, hname, hasks⟩ := h.named task (by simp)
  have hstep : ∃ more after, Discovery.step run task = (.ok more, after) ∧
      Progress directory set name run after more := by
    rw [← h.setting.options] at hoptions hholds
    rw [← h.setting.disk] at hholds
    cases task with
    | visit path =>
        obtain rfl : path = directory.path name := hasks
        exact step_visit hoptions hholds hname
    | note finding =>
        cases finding with
        | error e => exact hasks.elim
        | ok finding => exact step_note h.fresh hname hasks
  obtain ⟨more, after, hstep, hprogress⟩ := hstep
  have hfresh := step_fresh h.fresh task
  rw [hstep] at hfresh
  exact ⟨more, after, hstep, h.step hname hasks hprogress hfresh⟩

/-- The walk succeeds, and no work is left. -/
theorem walk (hoptions : Literally start.session.options)
    (hholds : Holds directory set start.session.options start.disk)
    (h : Loading directory set entry start run tasks) :
    ∃ after, Discovery.walk run tasks = (.ok (), after) ∧
      Loading directory set entry start after [] := by
  fun_induction Discovery.walk run tasks with
  | case1 run => exact ⟨run, rfl, h⟩
  | case2 run task tasks e after hstep =>
      obtain ⟨more, other, hok, -⟩ := h.exists_step hoptions hholds
      rw [hstep] at hok
      cases hok
  | case3 run task tasks more after hstep ih =>
      obtain ⟨others, other, hok, hnext⟩ := h.exists_step hoptions hholds
      rw [hstep] at hok
      cases hok
      exact ih hnext

end Loading

/-- After a file has been loaded, all files that can be reached from it are known. -/
theorem load_reaches {start : Run} (hempty : start.session.records = [])
    (hchain : start.session.chain = []) (hoptions : Literally start.session.options)
    (hholds : Holds directory set start.session.options start.disk) {entry : Text}
    (hentry : set.Named entry) :
    ∃ after, (Discovery.load (directory.path entry)).run start = (.ok (), after) ∧
      after.session.Fresh ∧ SameSetting after start ∧
      ∀ name, ReflTransGen set.Refers entry name →
        after.session.record? (.ofFile (directory.path name)) =
          some (fileRecord directory set name) := by
  have hnone (key : BlockKey) : start.session.record? key = none := by
    simp [Session.record?, hempty, Table.get?]
  have hstart : Loading directory set entry start start [.visit (directory.path entry)] := by
    constructor
    case fresh =>
      refine ⟨?_, hchain⟩
      intro key record hr
      simp [hnone] at hr
    case setting => exact SameSetting.refl start
    case records =>
      intro name _ record hr
      simp [hnone] at hr
    case entry => exact Or.inr ⟨_, List.mem_singleton_self _, rfl⟩
    case closed =>
      intro name target _ hknown
      simp [hnone] at hknown
    case named =>
      intro task htask
      rw [List.mem_singleton.1 htask]
      exact ⟨entry, hentry, rfl⟩
  obtain ⟨after, hwalk, hafter⟩ := hstart.walk hoptions hholds
  have hknown {path : Text} (hasked : Asked after [] path) :
      (after.session.record? (.ofFile path)).isSome := by
    rcases hasked with hknown | ⟨task, htask, -⟩
    · exact hknown
    · simp at htask
  have hreached {name : Text} (hreach : ReflTransGen set.Refers entry name) : set.Named name ∧
      (after.session.record? (.ofFile (directory.path name))).isSome := by
    induction hreach with
    | refl => exact ⟨hentry, hknown hafter.entry⟩
    | tail _ hrefers ih =>
        exact ⟨Or.inr ⟨_, hrefers⟩, hknown (hafter.closed _ _ hrefers ih.2)⟩
  refine ⟨after, ?_, hafter.fresh, hafter.setting, fun name hreach => ?_⟩
  · rw [Discovery.load, Weave.run_perform, Action.perform, hwalk]
  · obtain ⟨hname, hsome⟩ := hreached hreach
    obtain ⟨record, hr⟩ := Option.isSome_iff_exists.1 hsome
    rw [hr, hafter.records name hname.isFileName record hr]

end Walk

end BlockWeave.Include
