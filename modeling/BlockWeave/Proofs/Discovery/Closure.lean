import BlockWeave.Proofs.Discovery.Reading

/-!
# Loading reaches a closure

Loading files makes a record for every file that can be reached from them, and for every
block of these files. The walk keeps an invariant (`Walking`): what is known has been
reached, what a known file refers to is known or asked for, and the occurrences of a block
that have been noted, followed by those that the work to do will note, are the occurrences
in the file. When no work is left, the table depends on the reached files alone.
-/

namespace BlockWeave.Discovery

open Relation

/-- The occurrence of a block that a task will note. -/
def Task.occurrenceIn? (key : BlockKey) : Task → Option Occurrence
  | .visit _ => none
  | .note found => Discovery.occurrenceIn? key found

/-- The occurrences of a block that the work to do will note. -/
def awaited (key : BlockKey) (tasks : List Task) : List Occurrence :=
  tasks.filterMap (Task.occurrenceIn? key)

theorem awaited_append (key : BlockKey) (tasks more : List Task) :
    awaited key (tasks ++ more) = awaited key tasks ++ awaited key more :=
  List.filterMap_append

theorem awaited_notes (key : BlockKey) (found : List (Except Error Finding)) :
    awaited key (found.map .note) = occurrencesIn key found := by
  simp only [awaited, occurrencesIn, List.filterMap_map]
  rfl

theorem awaited_visits (key : BlockKey) (target : Option Text) :
    awaited key (target.map Task.visit).toList = [] := by
  cases target <;> rfl

theorem awaited_note (key : BlockKey) (finding : Finding) (tasks : List Task) :
    awaited key (.note (.ok finding) :: tasks) =
      (if ⟨finding.file, finding.tag⟩ = key then [finding.occurrence] else []) ++
        awaited key tasks := by
  simp only [awaited, List.filterMap_cons, Task.occurrenceIn?, Discovery.occurrenceIn?]
  split <;> simp_all

/-- The record of a block with some occurrences; a block that does not occur has none. -/
def blockRecord? (key : BlockKey) : List Occurrence → Option Record
  | [] => none
  | occurrences => some { key, occurrences }

/-- The next occurrence goes behind those of the record. -/
theorem blockRecord?_concat (key : BlockKey) (noted : List Occurrence) (occurrence : Occurrence) :
    blockRecord? key (noted ++ [occurrence]) =
      some (((blockRecord? key noted).getD { key }).addOccurrence occurrence) := by
  cases noted <;> rfl

/-- The file that a task leads to. -/
def Task.target? : Task → Option Text
  | .visit path => some path
  | .note (.ok finding) => finding.target?
  | .note (.error _) => none

/-- A file has a record. -/
def Known (run : Run) (path : Text) : Prop :=
  (run.session.record? (.ofFile path)).isSome

/-- A file that gets a record becomes known, and no other file does. -/
theorem known_update_iff {run after : Run} {path file : Text} {record : Record}
    (h : after.session.record? =
      Function.update run.session.record? (.ofFile path) (some record)) :
    Known after file ↔ file = path ∨ Known run file := by
  rw [Known, h, Known]
  by_cases hpath : file = path
  · simp [hpath]
  · have hkey : BlockKey.ofFile file ≠ .ofFile path := by simpa [BlockKey.ofFile] using hpath
    simp [Function.update_of_ne hkey, hpath]

/-- A file is known, or some work leads to it. -/
def Due (run : Run) (tasks : List Task) (path : Text) : Prop :=
  Known run path ∨ ∃ task ∈ tasks, task.target? = some path

theorem Due.step {run after : Run} {task : Task} {tasks more : List Task} {path : Text}
    (h : Due run (task :: tasks) path) (hknown : Known run path → Known after path)
    (hhead : task.target? = some path → Due after more path) :
    Due after (more ++ tasks) path := by
  rcases h with hold | ⟨other, hother, htarget⟩
  · exact Or.inl (hknown hold)
  · rcases List.mem_cons.1 hother with rfl | hother
    · rcases hhead htarget with hnew | ⟨next, hnext, htarget⟩
      · exact Or.inl hnew
      · exact Or.inr ⟨next, List.mem_append_left _ hnext, htarget⟩
    · exact Or.inr ⟨other, List.mem_append_right _ hother, htarget⟩

theorem due_nil {run : Run} {path : Text} (h : Due run [] path) : Known run path := by
  rcases h with hknown | ⟨task, htask, -⟩
  · exact hknown
  · cases htask

/-- The invariant of a walk from some paths. -/
structure Walking (options : Options) (disk : Disk) (paths : List Text) (run : Run)
    (tasks : List Task) : Prop where
  fresh : run.session.Fresh
  options_eq : run.session.options = options
  disk_eq : run.disk = disk
  /-- Files that are known have been reached, and have been read. -/
  files : ∀ path record, run.session.record? (.ofFile path) = some record →
    Reached options disk paths path ∧
      ∃ taken, reading options disk path = .ok taken ∧ record = taken.record path
  /-- Blocks stand in files that are known. -/
  homes : ∀ key, (run.session.record? key).isSome → Known run key.file
  /-- What has been noted about a block and what is awaited are its occurrences. -/
  blocks : ∀ file tag, tag ≠ [] → Known run file →
    ∃ noted, run.session.record? ⟨file, tag⟩ = blockRecord? ⟨file, tag⟩ noted ∧
      noted ++ awaited ⟨file, tag⟩ tasks = occurrencesIn ⟨file, tag⟩ (foundIn options disk file)
  /-- Files that are asked for have been reached. -/
  visits : ∀ path, .visit path ∈ tasks → Reached options disk paths path
  /-- What is to be noted has been found in a file that is known. -/
  notes : ∀ found, .note found ∈ tasks →
    ∃ file, Known run file ∧ found ∈ foundIn options disk file
  /-- Malformed attributes of a file that is known are still to be noted. -/
  errors : ∀ file e, Known run file → .error e ∈ foundIn options disk file →
    .note (.error e) ∈ tasks
  /-- The paths are known or asked for. -/
  roots : ∀ path ∈ paths, Due run tasks path
  /-- What a known file refers to is known or asked for. -/
  closed : ∀ file target, Known run file → Refers options disk file target →
    Due run tasks target

namespace Walking

variable {options : Options} {disk : Disk} {paths : List Text} {run after : Run} {task : Task}
  {tasks more : List Task}

theorem reached (h : Walking options disk paths run tasks) {path : Text} (hknown : Known run path) :
    Reached options disk paths path := by
  obtain ⟨record, hrecord⟩ := Option.isSome_iff_exists.1 hknown
  exact (h.files path record hrecord).1

/-- Nothing is awaited of a file that is not known. -/
theorem awaited_eq_nil (h : Walking options disk paths run tasks) {file : Text}
    (hnew : ¬ Known run file) (tag : Text) : awaited ⟨file, tag⟩ tasks = [] := by
  rw [awaited, List.filterMap_eq_nil_iff]
  intro task htask
  cases task with
  | visit path => rfl
  | note found =>
      obtain ⟨home, hhome, hfound⟩ := h.notes _ htask
      refine occurrenceIn?_of_mem_foundIn ?_ hfound
      rintro rfl
      exact hnew hhome

/-- A file that is read is followed by the work to note what is found in it. -/
theorem read_blocks {path : Text} {record : Record}
    (h : Walking options disk paths run (.visit path :: tasks)) (hnew : ¬ Known run path)
    (hrecords : after.session.record? =
      Function.update run.session.record? (.ofFile path) (some record))
    {file tag : Text} (htag : tag ≠ []) (hfile : Known after file) :
    ∃ noted, after.session.record? ⟨file, tag⟩ = blockRecord? ⟨file, tag⟩ noted ∧
      noted ++ awaited ⟨file, tag⟩ ((foundIn options disk path).map .note ++ tasks) =
        occurrencesIn ⟨file, tag⟩ (foundIn options disk file) := by
  have hkey : (⟨file, tag⟩ : BlockKey) ≠ .ofFile path := by simp [BlockKey.ofFile, htag]
  rw [hrecords, Function.update_of_ne hkey, awaited_append, awaited_notes]
  by_cases hpath : file = path
  · -- Nothing of the file has been noted or is awaited before it is read.
    subst hpath
    have hnone : run.session.record? ⟨file, tag⟩ = none := by
      by_contra hsome
      exact hnew (h.homes _ (Option.isSome_iff_ne_none.2 hsome))
    have hawaited : awaited ⟨file, tag⟩ tasks = [] := h.awaited_eq_nil hnew tag
    exact ⟨[], hnone, by rw [hawaited, List.append_nil, List.nil_append]⟩
  · obtain ⟨noted, hnoted, hall⟩ := h.blocks file tag htag
      (((known_update_iff hrecords).1 hfile).resolve_left hpath)
    have hsilent : occurrencesIn ⟨file, tag⟩ (foundIn options disk path) = [] := by
      rw [occurrencesIn, List.filterMap_eq_nil_iff]
      exact fun found hfound => occurrenceIn?_of_mem_foundIn hpath hfound
    refine ⟨noted, hnoted, ?_⟩
    rw [hsilent, List.nil_append]
    exact hall

/-- A file that is known is passed over. -/
theorem known_step {path : Text} (h : Walking options disk paths run (.visit path :: tasks))
    (hknown : Known run path) : Walking options disk paths run tasks := by
  have hdue {other : Text} (hother : Due run (.visit path :: tasks) other) :
      Due run tasks other := by
    have hstep : Due run ([] ++ tasks) other := hother.step id ?_
    · exact hstep
    · intro htarget
      obtain rfl := Option.some.inj htarget
      exact Or.inl hknown
  constructor
  case fresh => exact h.fresh
  case options_eq => exact h.options_eq
  case disk_eq => exact h.disk_eq
  case files => exact h.files
  case homes => exact h.homes
  case blocks => exact h.blocks
  case visits =>
    intro other hother
    exact h.visits other (List.mem_cons_of_mem _ hother)
  case notes =>
    intro found hfound
    exact h.notes found (List.mem_cons_of_mem _ hfound)
  case errors =>
    intro file e hfile herror
    simpa using h.errors file e hfile herror
  case roots =>
    intro root hroot
    exact hdue (h.roots root hroot)
  case closed =>
    intro file target hfile hrefers
    exact hdue (h.closed file target hfile hrefers)

/-- A file that is read asks for all that it refers to. -/
theorem read_step {path : Text} {taken : Reading}
    (h : Walking options disk paths run (.visit path :: tasks)) (hfresh : after.session.Fresh)
    (hnew : run.session.record? (.ofFile path) = none)
    (hreading : reading options disk path = .ok taken) (hsetting : SameSetting after run)
    (hrecords : after.session.record? =
      Function.update run.session.record? (.ofFile path) (some (taken.record path))) :
    Walking options disk paths after ((foundIn options disk path).map .note ++ tasks) := by
  have hknown {file : Text} : Known after file ↔ file = path ∨ Known run file :=
    known_update_iff hrecords
  have hunknown : ¬ Known run path := by simp [Known, hnew]
  have hdue {other : Text} (hother : Due run (.visit path :: tasks) other) :
      Due after ((foundIn options disk path).map .note ++ tasks) other := by
    refine hother.step (fun hold => hknown.2 (Or.inr hold)) ?_
    intro htarget
    obtain rfl := Option.some.inj htarget
    exact Or.inl (hknown.2 (Or.inl rfl))
  constructor
  case fresh => exact hfresh
  case options_eq => exact hsetting.options.trans h.options_eq
  case disk_eq => exact hsetting.disk.trans h.disk_eq
  case files =>
    intro file record hrecord
    by_cases hpath : file = path
    · subst hpath
      rw [hrecords, Function.update_self] at hrecord
      obtain rfl := Option.some.inj hrecord
      exact ⟨h.visits file List.mem_cons_self, taken, hreading, rfl⟩
    · rw [hrecords, Function.update_of_ne (by simpa [BlockKey.ofFile] using hpath)] at hrecord
      exact h.files file record hrecord
  case homes =>
    intro key hkey
    by_cases hpath : key = .ofFile path
    · subst hpath
      exact hkey
    · rw [hrecords, Function.update_of_ne hpath] at hkey
      exact hknown.2 (Or.inr (h.homes key hkey))
  case blocks =>
    intro file tag htag hfile
    exact h.read_blocks hunknown hrecords htag hfile
  case visits =>
    intro other hvisit
    refine h.visits other (List.mem_cons_of_mem _ ?_)
    simpa using hvisit
  case notes =>
    intro found hfound
    rcases List.mem_append.1 hfound with hfound | hfound
    · exact ⟨path, hknown.2 (Or.inl rfl), by simpa using hfound⟩
    · obtain ⟨file, hfile, hmem⟩ := h.notes found (List.mem_cons_of_mem _ hfound)
      exact ⟨file, hknown.2 (Or.inr hfile), hmem⟩
  case errors =>
    intro file e hfile herror
    rcases hknown.1 hfile with rfl | hfile
    · exact List.mem_append_left _ (List.mem_map_of_mem herror)
    · refine List.mem_append_right _ ?_
      simpa using h.errors file e hfile herror
  case roots =>
    intro root hroot
    exact hdue (h.roots root hroot)
  case closed =>
    intro file target hfile hrefers
    rcases hknown.1 hfile with rfl | hfile
    · obtain ⟨finding, hfound, htarget⟩ := refers_iff.1 hrefers
      exact Or.inr ⟨.note (.ok finding), List.mem_append_left _ (List.mem_map_of_mem hfound),
        htarget⟩
    · exact hdue (h.closed file target hfile hrefers)

/-- A finding goes to the record of its block. -/
theorem noted_step {finding : Finding}
    (h : Walking options disk paths run (.note (.ok finding) :: tasks))
    (hfresh : after.session.Fresh) (hsetting : SameSetting after run)
    (hrecords : after.session.record? =
      Function.update run.session.record? ⟨finding.file, finding.tag⟩
        (some (((run.session.record? ⟨finding.file, finding.tag⟩).getD
          { key := ⟨finding.file, finding.tag⟩ }).addOccurrence finding.occurrence))) :
    Walking options disk paths after ((finding.target?.map Task.visit).toList ++ tasks) := by
  obtain ⟨home, hhome, hfound⟩ := h.notes (.ok finding) List.mem_cons_self
  obtain rfl : finding.file = home := file_of_mem_foundIn hfound
  have htag := tag_ne_nil_of_mem_foundIn hfound
  have hfile (path : Text) :
      after.session.record? (.ofFile path) = run.session.record? (.ofFile path) := by
    rw [hrecords, Function.update_of_ne]
    simp [BlockKey.ofFile, Ne.symm htag]
  have hknown (path : Text) : Known after path ↔ Known run path := by rw [Known, hfile, Known]
  have hdue {other : Text} (hother : Due run (.note (.ok finding) :: tasks) other) :
      Due after ((finding.target?.map Task.visit).toList ++ tasks) other := by
    refine hother.step (hknown other).2 ?_
    intro htarget
    replace htarget : finding.target? = some other := htarget
    exact Or.inr ⟨.visit other, by simp [htarget], rfl⟩
  constructor
  case fresh => exact hfresh
  case options_eq => exact hsetting.options.trans h.options_eq
  case disk_eq => exact hsetting.disk.trans h.disk_eq
  case files =>
    intro path record hrecord
    rw [hfile] at hrecord
    exact h.files path record hrecord
  case homes =>
    intro key hkey
    rw [hknown]
    by_cases hself : key = ⟨finding.file, finding.tag⟩
    · rw [hself]
      exact hhome
    · rw [hrecords, Function.update_of_ne hself] at hkey
      exact h.homes key hkey
  case blocks =>
    intro file tag htag hknows
    obtain ⟨noted, hnoted, hall⟩ := h.blocks file tag htag ((hknown file).1 hknows)
    rw [awaited_note] at hall
    rw [awaited_append, awaited_visits, List.nil_append]
    by_cases hself : (⟨finding.file, finding.tag⟩ : BlockKey) = ⟨file, tag⟩
    · refine ⟨noted ++ [finding.occurrence], ?_, ?_⟩
      · rw [hrecords, hself, Function.update_self, hnoted, blockRecord?_concat]
      · rw [if_pos hself, ← List.append_assoc] at hall
        exact hall
    · refine ⟨noted, ?_, ?_⟩
      · rw [hrecords, Function.update_of_ne (Ne.symm hself), hnoted]
      · rw [if_neg hself, List.nil_append] at hall
        exact hall
  case visits =>
    intro path hvisit
    rcases List.mem_append.1 hvisit with hvisit | hvisit
    · have htarget : finding.target? = some path := by simpa using hvisit
      obtain ⟨root, hroot, hreach⟩ := h.reached hhome
      exact ⟨root, hroot, hreach.tail (refers_iff.2 ⟨finding, hfound, htarget⟩)⟩
    · exact h.visits path (List.mem_cons_of_mem _ hvisit)
  case notes =>
    intro found hnote
    rcases List.mem_append.1 hnote with hnote | hnote
    · simp at hnote
    · obtain ⟨file, hfile, hmem⟩ := h.notes found (List.mem_cons_of_mem _ hnote)
      exact ⟨file, (hknown file).2 hfile, hmem⟩
  case errors =>
    intro file e hknows herror
    have hmem := h.errors file e ((hknown file).1 hknows) herror
    exact List.mem_append_right _ (by simpa using hmem)
  case roots =>
    intro root hroot
    exact hdue (h.roots root hroot)
  case closed =>
    intro file target hknows hrefers
    exact hdue (h.closed file target ((hknown file).1 hknows) hrefers)

/-- A step that succeeds keeps the invariant. -/
theorem step (h : Walking options disk paths run (task :: tasks))
    (hstep : Discovery.step run task = (.ok more, after)) :
    Walking options disk paths after (more ++ tasks) := by
  have hfresh : after.session.Fresh := by
    have hfresh := step_fresh h.fresh task
    rwa [hstep] at hfresh
  cases step_steps h.fresh hstep with
  | known hrecord =>
      refine h.known_step ?_
      rw [Known, hrecord]
      rfl
  | read hnew hreading hsetting hrecords =>
      rw [h.options_eq, h.disk_eq] at hreading ⊢
      exact h.read_step hfresh hnew hreading hsetting hrecords
  | noted hsetting hrecords => exact h.noted_step hfresh hsetting hrecords

end Walking

/-- A failure in a file that can be reached: the file cannot be read, or the attributes of
one of its markers. -/
def Unreadable (options : Options) (disk : Disk) (paths : List Text) (e : Error) : Prop :=
  ∃ file, Reached options disk paths file ∧
    (reading options disk file = .error e ∨ .error e ∈ foundIn options disk file)

theorem Reached.mono {options : Options} {disk : Disk} {paths others : List Text} {file : Text}
    (h : Reached options disk paths file) (hsubset : paths ⊆ others) :
    Reached options disk others file := by
  obtain ⟨path, hpath, hreach⟩ := h
  exact ⟨path, hsubset hpath, hreach⟩

theorem Unreadable.mono {options : Options} {disk : Disk} {paths others : List Text} {e : Error}
    (h : Unreadable options disk paths e) (hsubset : paths ⊆ others) :
    Unreadable options disk others e := by
  obtain ⟨file, hreach, hfails⟩ := h
  exact ⟨file, hreach.mono hsubset, hfails⟩

/-- Nothing that cannot be read is refused for its record, unless the caller's own test for
binary files does so. -/
theorem Unreadable.ne_recordExists {options : Options} {disk : Disk} {paths : List Text}
    {e : Error} (h : Unreadable options disk paths e)
    (htest : ∀ test, options.isBinary = some test →
      ∀ path key, test path ≠ .error (.recordExists key))
    (key : BlockKey) : e ≠ .recordExists key := by
  rintro rfl
  obtain ⟨file, -, hreading | herror⟩ := h
  · rcases reading_error hreading with hexternal | ⟨test, hsome, hfails⟩
    · cases hexternal
    · exact htest test hsome file key hfails
  · obtain ⟨attrText, hparse⟩ := exists_parse_of_error_mem_foundIn herror
    exact (external_parse _ attrText).ne_error rfl hparse

namespace Walking

variable {options : Options} {disk : Disk} {paths : List Text} {run after : Run} {task : Task}
  {tasks more : List Task}

/-- A walk does all its work, or fails at something that cannot be read. -/
theorem walk (h : Walking options disk paths run tasks) :
    (∃ after, Discovery.walk run tasks = (.ok (), after) ∧
        Walking options disk paths after []) ∨
      ∃ e after, Discovery.walk run tasks = (.error e, after) ∧
        Unreadable options disk paths e := by
  fun_induction Discovery.walk run tasks with
  | case1 run => exact Or.inl ⟨run, rfl, h⟩
  | case2 run task tasks e after hstep =>
      refine Or.inr ⟨e, after, rfl, ?_⟩
      rcases step_error hstep with ⟨path, rfl, hreading⟩ | rfl
      · rw [h.options_eq, h.disk_eq] at hreading
        exact ⟨path, h.visits path List.mem_cons_self, Or.inl hreading⟩
      · obtain ⟨file, hfile, herror⟩ := h.notes (.error e) List.mem_cons_self
        exact ⟨file, h.reached hfile, Or.inr herror⟩
  | case3 run task tasks more after hstep ih => exact ih (h.step hstep)

/-- One more path is asked for. -/
theorem visit (h : Walking options disk paths run []) (path : Text) :
    Walking options disk (paths ++ [path]) run [.visit path] := by
  have hsubset : paths ⊆ paths ++ [path] := List.subset_append_left _ _
  have hdue {other : Text} (hother : Due run [] other) : Due run [.visit path] other :=
    Or.inl (due_nil hother)
  constructor
  case fresh => exact h.fresh
  case options_eq => exact h.options_eq
  case disk_eq => exact h.disk_eq
  case files =>
    intro file record hrecord
    obtain ⟨hreached, hread⟩ := h.files file record hrecord
    exact ⟨hreached.mono hsubset, hread⟩
  case homes => exact h.homes
  case blocks => exact h.blocks
  case visits =>
    intro other hother
    obtain rfl : other = path := by simpa using hother
    exact ⟨other, by simp, .refl⟩
  case notes =>
    intro found hfound
    simp at hfound
  case errors =>
    intro file e hfile herror
    cases h.errors file e hfile herror
  case roots =>
    intro root hroot
    rcases List.mem_append.1 hroot with hroot | hroot
    · exact hdue (h.roots root hroot)
    · obtain rfl : root = path := by simpa using hroot
      exact Or.inr ⟨.visit root, List.mem_cons_self, rfl⟩
  case closed =>
    intro file target hfile hrefers
    exact hdue (h.closed file target hfile hrefers)

/-- Loads, one after the other, do all their work or fail at something that cannot be
read. -/
theorem loads (h : Walking options disk paths run []) (others : List Text) :
    (∃ after, (others.forM load).run run = (.ok (), after) ∧
        Walking options disk (paths ++ others) after []) ∨
      ∃ e after, (others.forM load).run run = (.error e, after) ∧
        Unreadable options disk (paths ++ others) e := by
  induction others generalizing paths run with
  | nil => exact Or.inl ⟨run, rfl, by rwa [List.append_nil]⟩
  | cons path others ih =>
      have hsplit : paths ++ path :: others = paths ++ [path] ++ others := by simp
      have hload : (load path).run run = Discovery.walk run [.visit path] := by
        rw [load, Weave.run_perform, Action.perform]
      have hcons : (path :: others).forM load = (load path).bind fun _ => others.forM load := rfl
      rw [hsplit, hcons]
      rcases (h.visit path).walk with ⟨mid, hwalk, hmid⟩ | ⟨e, mid, hwalk, hfails⟩
      · rw [Weave.run_bind_of_ok (hload.trans hwalk)]
        exact ih hmid
      · refine Or.inr ⟨e, mid, Weave.run_bind_of_error (hload.trans hwalk), ?_⟩
        exact hfails.mono (List.subset_append_left _ _)

/-- A session without records is where walks start. -/
theorem start (hrecords : run.session.records = []) (hchain : run.session.chain = []) :
    Walking run.session.options run.disk [] run [] := by
  have hnone (key : BlockKey) : run.session.record? key = none := by
    simp [Session.record?, hrecords, Table.get?]
  constructor
  case fresh =>
    refine ⟨?_, hchain⟩
    intro key record hrecord
    simp [hnone] at hrecord
  case options_eq => rfl
  case disk_eq => rfl
  all_goals simp [Known, hnone]

section Finished

variable (h : Walking options disk paths run [])
include h

/-- When no work is left, the known files are those that can be reached. -/
theorem known_iff {path : Text} : Known run path ↔ Reached options disk paths path := by
  constructor
  · exact h.reached
  · rintro ⟨root, hroot, hreach⟩
    induction hreach with
    | refl => exact due_nil (h.roots root hroot)
    | tail _ hrefers ih => exact due_nil (h.closed _ _ ih hrefers)

/-- A file that can be reached has the record that it is read with. -/
theorem record?_file {path : Text} (hreached : Reached options disk paths path) :
    ∃ taken, reading options disk path = .ok taken ∧
      run.session.record? (.ofFile path) = some (taken.record path) := by
  obtain ⟨record, hrecord⟩ := Option.isSome_iff_exists.1 (h.known_iff.2 hreached)
  obtain ⟨-, taken, hreading, rfl⟩ := h.files path record hrecord
  exact ⟨taken, hreading, hrecord⟩

/-- A block of a file that can be reached has all its occurrences. -/
theorem record?_block {file tag : Text} (htag : tag ≠ [])
    (hreached : Reached options disk paths file) :
    run.session.record? ⟨file, tag⟩ =
      blockRecord? ⟨file, tag⟩ (occurrencesIn ⟨file, tag⟩ (foundIn options disk file)) := by
  obtain ⟨noted, hnoted, hall⟩ := h.blocks file tag htag (h.known_iff.2 hreached)
  rw [hnoted, ← hall, awaited, List.filterMap_nil, List.append_nil]

/-- No other file has a record, and none of its blocks. -/
theorem record?_none {key : BlockKey} (hreached : ¬ Reached options disk paths key.file) :
    run.session.record? key = none := by
  by_contra hsome
  exact hreached (h.known_iff.1 (h.homes key (Option.isSome_iff_ne_none.2 hsome)))

/-- Everything that can be reached has been read. -/
theorem not_unreadable (e : Error) : ¬ Unreadable options disk paths e := by
  rintro ⟨file, hreached, hreading | herror⟩
  · obtain ⟨taken, htaken, -⟩ := h.record?_file hreached
    rw [htaken] at hreading
    cases hreading
  · cases h.errors file e (h.known_iff.2 hreached) herror

/-- The table is known from the paths, in whatever order they have been loaded. -/
theorem record?_unique {others : List Text} {other : Run}
    (h' : Walking options disk others other []) (hpaths : ∀ path, path ∈ paths ↔ path ∈ others)
    (key : BlockKey) : other.session.record? key = run.session.record? key := by
  obtain ⟨file, tag⟩ := key
  have hreach : Reached options disk paths file ↔ Reached options disk others file :=
    ⟨fun hr => hr.mono fun _ => (hpaths _).1, fun hr => hr.mono fun _ => (hpaths _).2⟩
  by_cases hreached : Reached options disk paths file
  · by_cases htag : tag = []
    · subst htag
      obtain ⟨taken, hreading, hrecord⟩ := h.record?_file hreached
      obtain ⟨taken', hreading', hrecord'⟩ := h'.record?_file (hreach.1 hreached)
      obtain rfl := Except.ok.inj (hreading.symm.trans hreading')
      exact hrecord'.trans hrecord.symm
    · rw [h.record?_block htag hreached, h'.record?_block htag (hreach.1 hreached)]
  · rw [h.record?_none hreached, h'.record?_none fun hr => hreached (hreach.2 hr)]

end Finished
end Walking

/-- The table of a closure: the files that can be reached from some paths, and the blocks
that their texts open. -/
structure Closure (options : Options) (disk : Disk) (paths : List Text) (session : Session) :
    Prop where
  /-- The files with a record are those that can be reached. -/
  files : ∀ path, (session.record? (.ofFile path)).isSome ↔ Reached options disk paths path
  /-- The record of a file is what the file is read as. -/
  readings : ∀ path record, session.record? (.ofFile path) = some record →
    ∃ taken, reading options disk path = .ok taken ∧ record = taken.record path
  /-- The blocks with a record stand in text files that can be reached. -/
  homes : ∀ file tag, tag ≠ [] → (session.record? ⟨file, tag⟩).isSome →
    ∃ source, Reached options disk paths file ∧ reading options disk file = .ok (.text source)
  /-- The blocks of a text file with a record are those that a marker opens. -/
  blocks : ∀ file source tag, Reached options disk paths file →
    reading options disk file = .ok (.text source) → tag ≠ [] →
      ((session.record? ⟨file, tag⟩).isSome ↔
        ∃ marker attributes,
          Marks file options.activeTrigger 0 source marker attributes ∧ marker.tag = tag)
  /-- The record of a block has the markers that open it as its occurrences. -/
  occurrences : ∀ file source tag record, reading options disk file = .ok (.text source) →
    tag ≠ [] → session.record? ⟨file, tag⟩ = some record →
      ∃ found, Lists file options.activeTrigger source tag found ∧
        record = { key := ⟨file, tag⟩,
                   occurrences := found.map fun marker => marker.1.occurrence marker.2 }

theorem blockRecord?_eq_some_iff {key : BlockKey} {occurrences : List Occurrence}
    {record : Record} :
    blockRecord? key occurrences = some record ↔
      occurrences ≠ [] ∧ record = { key, occurrences } := by
  cases occurrences with
  | nil => simp [blockRecord?]
  | cons occurrence occurrences => simp [blockRecord?, eq_comm]

/-- The table that a walk ends with. -/
theorem Walking.closure {options : Options} {disk : Disk} {paths : List Text} {run : Run}
    (h : Walking options disk paths run []) : Closure options disk paths run.session := by
  have hblock {file tag : Text} {record : Record} (htag : tag ≠ [])
      (hrecord : run.session.record? ⟨file, tag⟩ = some record) :
      Reached options disk paths file ∧
        occurrencesIn ⟨file, tag⟩ (foundIn options disk file) ≠ [] ∧
        record = { key := ⟨file, tag⟩,
                   occurrences := occurrencesIn ⟨file, tag⟩ (foundIn options disk file) } := by
    have hreached : Reached options disk paths file :=
      h.known_iff.1 (h.homes ⟨file, tag⟩ (Option.isSome_iff_exists.2 ⟨record, hrecord⟩))
    rw [h.record?_block htag hreached] at hrecord
    exact ⟨hreached, blockRecord?_eq_some_iff.1 hrecord⟩
  constructor
  case files => exact fun path => h.known_iff
  case readings =>
    intro path record hrecord
    exact (h.files path record hrecord).2
  case homes =>
    intro file tag htag hsome
    obtain ⟨record, hrecord⟩ := Option.isSome_iff_exists.1 hsome
    obtain ⟨hreached, hoccurs, -⟩ := hblock htag hrecord
    obtain ⟨occurrence, hmem⟩ := List.exists_mem_of_ne_nil _ hoccurs
    obtain ⟨found, hfound, hsome⟩ := List.mem_filterMap.1 hmem
    obtain rfl := occurrenceIn?_eq_some_iff.1 hsome
    obtain ⟨source, -, -, hreading, -⟩ := mem_foundIn_iff.1 hfound
    exact ⟨source, hreached, hreading⟩
  case blocks =>
    intro file source tag hreached hreading htag
    rw [h.record?_block htag hreached, foundIn_text hreading]
    constructor
    · intro hsome
      obtain ⟨record, hrecord⟩ := Option.isSome_iff_exists.1 hsome
      obtain ⟨occurrence, hmem⟩ :=
        List.exists_mem_of_ne_nil _ (blockRecord?_eq_some_iff.1 hrecord).1
      obtain ⟨marker, attributes, hmarks, htag, -⟩ := mem_occurrencesIn_iff.1 hmem
      exact ⟨marker, attributes, hmarks, htag.symm⟩
    · rintro ⟨marker, attributes, hmarks, rfl⟩
      have hmem := mem_occurrencesIn_iff.2 ⟨marker, attributes, hmarks, rfl, rfl⟩
      exact Option.isSome_iff_exists.2
        ⟨_, blockRecord?_eq_some_iff.2 ⟨List.ne_nil_of_mem hmem, rfl⟩⟩
  case occurrences =>
    intro file source tag record hreading htag hrecord
    obtain ⟨found, hlists, hoccurs⟩ := exists_lists file options.activeTrigger source tag
    obtain ⟨-, -, rfl⟩ := hblock htag hrecord
    refine ⟨found, hlists, ?_⟩
    rw [← hoccurs, foundIn_text hreading]

/-- One step of a walk: the first task is replaced by the work that it asks for. -/
inductive Walks : Run × List Task → Run × List Task → Prop
  | step {run after : Run} {task : Task} {tasks more : List Task}
      (h : Discovery.step run task = (.ok more, after)) :
      Walks (run, task :: tasks) (after, more ++ tasks)

/-- No walk goes on forever. -/
theorem walks_wellFounded : WellFounded fun after before => Walks before after := by
  -- Fewer files are unread, or the work to do is lighter.
  refine Subrelation.wf ?_ (InvImage.wf
    (fun state : Run × List Task => (unread state.1, weight state.2)) WellFoundedRelation.wf)
  rintro - - ⟨hstep⟩
  rename_i run after task tasks more
  rcases step_ok hstep with hlt | ⟨hle, hweight⟩
  · exact Prod.Lex.left _ _ hlt
  · have hlighter : weight (more ++ tasks) < weight (task :: tasks) := by
      simp only [weight, weight_append]
      omega
    rcases Nat.lt_or_eq_of_le hle with hlt | heq
    · exact Prod.Lex.left _ _ hlt
    · show Prod.Lex _ _ (unread after, _) (unread run, _)
      rw [heq]
      exact Prod.Lex.right _ hlighter

/-- Loading registers a closure. No walk goes on forever, and none asks for a record that is
there already, whatever the loads end with; only the caller's own test for binary files
could say so. When all loads return, the table is the closure of their paths, and the loads
also return in any other order, with the same table. -/
theorem loads_closure {start : Run} (hrecords : start.session.records = [])
    (hchain : start.session.chain = []) (paths : List Text) :
    (WellFounded fun after before => Walks before after) ∧
    ((∀ test, start.session.options.isBinary = some test →
        ∀ path key, test path ≠ .error (.recordExists key)) →
      ∀ key after, (paths.forM load).run start ≠ (.error (.recordExists key), after)) ∧
    ∀ after, (paths.forM load).run start = (.ok (), after) →
      Closure start.session.options start.disk paths after.session ∧
      ∀ others : List Text, others.Perm paths →
        ∃ other, (others.forM load).run start = (.ok (), other) ∧
          ∀ key, other.session.record? key = after.session.record? key := by
  have hstart := Walking.start hrecords hchain
  refine ⟨walks_wellFounded, ?_, ?_⟩
  · intro htest key after hload
    rcases hstart.loads paths with ⟨other, hother, -⟩ | ⟨e, other, hother, hfails⟩
    · rw [hload] at hother
      cases hother
    · rw [hload] at hother
      cases hother
      exact hfails.ne_recordExists htest key rfl
  · intro after hload
    have hwalking : Walking start.session.options start.disk paths after [] := by
      rcases hstart.loads paths with ⟨other, hother, hwalking⟩ | ⟨e, other, hother, -⟩
      · rw [hload] at hother
        cases hother
        exact hwalking
      · rw [hload] at hother
        cases hother
    refine ⟨hwalking.closure, ?_⟩
    intro others hperm
    rcases hstart.loads others with ⟨other, hother, hother'⟩ | ⟨e, other, hother, hfails⟩
    · exact ⟨other, hother, hwalking.record?_unique hother' fun path => hperm.mem_iff.symm⟩
    · exact absurd (hfails.mono fun _ => hperm.mem_iff.1) (hwalking.not_unreadable e)

theorem loads_closure_pair :
    Closure {} Pair.disk [Pair.outer, Pair.inner] Pair.loaded.session ∧
      ∃ other, ([Pair.inner, Pair.outer].forM load).run (Pair.run [] []) = (.ok (), other) ∧
        ∀ key, other.session.record? key = Pair.loaded.session.record? key := by
  have hinner : (load Pair.inner).run Pair.loaded = (.ok (), Pair.loaded) := by
    have hknown : Pair.loaded.session.record? (.ofFile Pair.inner) = some Pair.innerRecord := by
      decide
    have hstep : step Pair.loaded (.visit Pair.inner) = (.ok [], Pair.loaded) :=
      visit_known hknown
    rw [load, Weave.run_perform, Action.perform, walk_cons hstep, List.nil_append, walk]
  have hloads : ([Pair.outer, Pair.inner].forM load).run (Pair.run [] []) =
      (.ok (), Pair.loaded) := by
    have hcons : [Pair.outer, Pair.inner].forM load =
        (load Pair.outer).bind fun _ => (load Pair.inner).bind fun _ => .done () := rfl
    rw [hcons, Weave.run_bind_of_ok Pair.load_outer, Weave.run_bind_of_ok hinner, Weave.run_done]
  obtain ⟨-, -, htable⟩ := @loads_closure (Pair.run [] []) rfl rfl [Pair.outer, Pair.inner]
  obtain ⟨hclosure, horders⟩ := htable Pair.loaded hloads
  exact ⟨hclosure, horders [Pair.inner, Pair.outer] (List.Perm.swap Pair.outer Pair.inner [])⟩

end BlockWeave.Discovery
