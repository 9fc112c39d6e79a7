import BlockWeave.Marker.Segment
import BlockWeave.Session.Run
import BlockWeave.Text.Tidy

/-! # Finding the blocks of a build

Before anything is resolved, every file that can be reached from an entry is read
once, and the occurrences of its blocks are noted. The markers of a file are known
from its text alone, as a list in document order; the walk over files keeps the
work to do on a stack. It ends because every file that adds work is read once. -/

namespace BlockWeave.Discovery

/-- An occurrence of a block in a file. -/
structure Finding where
  file : Text
  tag : Text
  occurrence : Occurrence
  deriving Repr, DecidableEq

/-- The occurrences in a text of a file, those inside bodies right behind the marker
around them. Markers for other triggers are passed over with all they hold. Malformed
attributes are a failure at their place. -/
def findings (file : Text) (trigger : Option Text) (offset : Int) (content : Text) :
    List (Except Error Finding) :=
  (markers offset content).attach.flatMap fun ⟨m, _⟩ =>
    match Attributes.parse (Path.parent file) m.attrText with
    | .error e => [.error e]
    | .ok attributes =>
        if attributes.excludes trigger then []
        else
          .ok ⟨file, m.tag, { offset := m.offset, attributes, body := m.body }⟩ ::
            findings file trigger m.bodyOffset m.body
termination_by content.length
decreasing_by
  rename_i hm
  exact Nat.lt_of_lt_of_le m.body_length_lt (length_text_le_of_mem_markers hm)

/-- The tag of references that stand in for another text. -/
def replaceTag : Text := ['r', 'e', 'p', 'l', 'a', 'c', 'e']

/-- The tags of markers that refer to files and blocks. -/
def referenceTags : List Text := [includeTag, replaceTag]

/-- Work to do: a file to read, or a finding to note. -/
inductive Task where
  | visit (path : Text)
  | note (finding : Except Error Finding)

/-- A finding weighs more than the file that it may ask for. -/
def Task.weight : Task → Nat
  | visit _ => 1
  | note _ => 2

/-- The weight of all work to do. -/
def weight : List Task → Nat
  | [] => 0
  | task :: tasks => task.weight + weight tasks

theorem weight_append (tasks more : List Task) :
    weight (tasks ++ more) = weight tasks + weight more := by
  induction tasks with
  | nil => simp [weight]
  | cons task tasks ih => simp [weight, ih, Nat.add_assoc]

/-- The outcome of a piece of work: more work, or a failure, and the run after it. -/
abbrev Outcome := Except Error (List Task) × Run

/-- Reads a file whose record has just been made. -/
def readFile (run : Run) (record : Record) (path : Text) : Outcome :=
  let options := run.session.options
  match run.disk.exists? path with
  | .error e => (.error e, run)
  | .ok false =>
      let entry := LogEntry.warning .discovery
        ("File \"" ++ String.ofList path ++ "\" not exists.")
      (.ok [], (run.note entry).store { record with source := some [] })
  | .ok true =>
      match options.treatsAsBinary path with
      | .error e => (.error e, run)
      | .ok true =>
          let entry := LogEntry.debug .discovery ("load " ++ String.ofList path ++ " (binary)")
          (.ok [], (run.store { record with isBinary := true }).note entry)
      | .ok false =>
          let run := run.note (.debug .discovery ("load " ++ String.ofList path))
          match run.disk.readText options.fileCharset path with
          | .error e => (.error e, run)
          | .ok content =>
              let content := if options.tidies then Text.tidy content else content
              (.ok ((findings path options.activeTrigger 0 content).map .note),
                run.store { record with source := some content })

/-- Reads a file that has no record yet. -/
def visit (run : Run) (path : Text) : Outcome :=
  if run.session.records.has (.ofFile path) then (.ok [], run)
  else
    match run.session.create (.ofFile path) true with
    | .error e => (.error e, run)
    | .ok (record, session) => readFile { run with session } record path

/-- The file that a finding asks for. -/
def Finding.asks (finding : Finding) : List Task :=
  match finding.occurrence.attributes.filePath with
  | some path => if referenceTags.contains finding.tag then [.visit path] else []
  | none => []

/-- Notes a finding, and asks for the file that it refers to. -/
def noteFinding (run : Run) (finding : Finding) : Outcome :=
  match run.session.getOrCreate ⟨finding.file, finding.tag⟩ with
  | .error e => (.error e, run)
  | .ok (record, session) =>
      (.ok finding.asks,
        { run with session := session.store (record.addOccurrence finding.occurrence) })

/-- A file that has a record is not read again. -/
theorem visit_known {run : Run} {path : Text} {record : Record}
    (h : run.session.record? (.ofFile path) = some record) : visit run path = (.ok [], run) := by
  have hknown : run.session.records.has (.ofFile path) = true := by
    rw [Table.has, ← Session.record?, h]
    rfl
  rw [visit, if_pos hknown]

/-- A file without a record is read with a new one. -/
theorem visit_new {run : Run} {path : Text} (h : run.session.record? (.ofFile path) = none) :
    visit run path = readFile (run.store { key := .ofFile path, isFile := true })
      { key := .ofFile path, isFile := true } path := by
  have hnew : run.session.records.has (.ofFile path) = false := by
    rw [Table.has, ← Session.record?, h]
    rfl
  rw [visit, hnew, Session.create_of_none h]
  rfl

/-- A block with a record gets one more occurrence. -/
theorem noteFinding_known {run : Run} {finding : Finding} {record : Record}
    (h : run.session.record? ⟨finding.file, finding.tag⟩ = some record) :
    noteFinding run finding =
      (.ok finding.asks, run.store (record.addOccurrence finding.occurrence)) := by
  simp only [noteFinding, Session.getOrCreate_of_some h]
  rfl

/-- A block without a record gets one, with its first occurrence. -/
theorem noteFinding_new {run : Run} {finding : Finding}
    (h : run.session.record? ⟨finding.file, finding.tag⟩ = none) :
    noteFinding run finding =
      (.ok finding.asks, (run.store { key := ⟨finding.file, finding.tag⟩ }).store
        { key := ⟨finding.file, finding.tag⟩, occurrences := [finding.occurrence] }) := by
  simp only [noteFinding, Session.getOrCreate_of_none h]
  rfl

/-- One piece of work. -/
def step (run : Run) : Task → Outcome
  | .visit path => visit run path
  | .note (.error e) => (.error e, run)
  | .note (.ok finding) => noteFinding run finding

/-- The number of paths on disk that have no record as files. -/
def unread (run : Run) : Nat :=
  run.disk.nodes.countP fun node => !run.session.records.has (.ofFile node.1)

/-- Storing a record leaves no more files unread. -/
theorem unread_store_le (run : Run) (record : Record) : unread (run.store record) ≤ unread run := by
  refine List.countP_mono_left fun node _ h => ?_
  simp only [Run.store, Session.store, Table.has_put, Bool.not_or, Bool.and_eq_true] at h
  exact h.2

/-- Storing the record of a file that is on disk and has none leaves fewer files unread. -/
theorem unread_store_lt {run : Run} {record : Record} {path : Text} {node : Node}
    (hkey : record.key = .ofFile path) (hnode : run.disk.nodes.get? path = some node)
    (hnew : run.session.records.has (.ofFile path) = false) :
    unread (run.store record) < unread run := by
  have hmem := Table.mem_of_get?_eq_some hnode
  obtain ⟨before, after, he⟩ := List.append_of_mem hmem
  have mono (part : List (Text × Node)) :
      part.countP (fun node => !(run.store record).session.records.has (.ofFile node.1)) ≤
        part.countP (fun node => !run.session.records.has (.ofFile node.1)) := by
    refine List.countP_mono_left fun node _ h => ?_
    simp only [Run.store, Session.store, Table.has_put, Bool.not_or, Bool.and_eq_true] at h
    exact h.2
  have hb := mono before
  have ha := mono after
  have hseen : (run.store record).session.records.has (.ofFile path) = true := by
    simp [Run.store, Session.store, Table.has_put, hkey]
  have hdisk : (run.store record).disk = run.disk := rfl
  simp only [unread, hdisk, he, List.countP_append, List.countP_cons, hseen, hnew, Bool.not_true,
    Bool.not_false, if_true]
  simp only [Bool.false_eq_true, if_false]
  omega

/-- Reading a file leaves no more files unread, and adds work only if the file is on
disk. -/
theorem readFile_ok {run after : Run} {record : Record} {path : Text} {tasks : List Task}
    (h : readFile run record path = (.ok tasks, after)) :
    unread after ≤ unread run ∧
      (tasks = [] ∨ ∃ node, run.disk.nodes.get? path = some node) := by
  simp only [readFile] at h
  split at h
  · simp at h
  · simp only [Prod.mk.injEq, Except.ok.injEq] at h
    obtain ⟨rfl, rfl⟩ := h
    exact ⟨unread_store_le _ _, .inl rfl⟩
  · split at h
    · simp at h
    · simp only [Prod.mk.injEq, Except.ok.injEq] at h
      obtain ⟨rfl, rfl⟩ := h
      exact ⟨unread_store_le _ _, .inl rfl⟩
    · split at h
      · simp at h
      next content hread =>
        simp only [Prod.mk.injEq, Except.ok.injEq] at h
        obtain ⟨rfl, rfl⟩ := h
        obtain ⟨bytes, hb⟩ := Disk.readBytes_of_readText hread
        exact ⟨unread_store_le _ _, .inr ⟨_, Disk.get?_of_readBytes hb⟩⟩

/-- Every piece of work reads a new file or makes the work to do lighter. -/
theorem step_ok {run after : Run} {task : Task} {tasks : List Task}
    (h : step run task = (.ok tasks, after)) :
    unread after < unread run ∨
      (unread after ≤ unread run ∧ weight tasks < task.weight) := by
  cases task with
  | visit path =>
      rw [step] at h
      cases hrecord : run.session.record? (.ofFile path) with
      | some record =>
          rw [visit_known hrecord] at h
          cases h
          exact .inr ⟨Nat.le_refl _, by simp [weight, Task.weight]⟩
      | none =>
          rw [visit_new hrecord] at h
          obtain ⟨hle, hempty | ⟨node, hnode⟩⟩ := readFile_ok h
          · subst hempty
            exact .inr ⟨Nat.le_trans hle (unread_store_le run _), by simp [weight, Task.weight]⟩
          · have hunseen : run.session.records.has (.ofFile path) = false := by
              rw [Table.has, ← Session.record?, hrecord]
              rfl
            exact .inl (Nat.lt_of_le_of_lt hle (@unread_store_lt run _ _ _ rfl hnode hunseen))
  | note finding =>
      cases finding with
      | error e => simp [step] at h
      | ok finding =>
          have hasks : weight finding.asks < (Task.note (.ok finding)).weight := by
            simp only [Finding.asks]
            split
            · split <;> simp [weight, Task.weight]
            · simp [weight, Task.weight]
          rw [step] at h
          cases hrecord : run.session.record? ⟨finding.file, finding.tag⟩ with
          | some record =>
              rw [noteFinding_known hrecord] at h
              cases h
              exact .inr ⟨unread_store_le run _, hasks⟩
          | none =>
              rw [noteFinding_new hrecord] at h
              cases h
              exact .inr ⟨Nat.le_trans (unread_store_le (run.store _) _) (unread_store_le run _),
                hasks⟩

/-- Does all work on a stack, and the work that it asks for first. -/
def walk (run : Run) : List Task → Except Error Unit × Run
  | [] => (.ok (), run)
  | task :: tasks =>
      match _h : step run task with
      | (.error e, after) => (.error e, after)
      | (.ok more, after) => walk after (more ++ tasks)
termination_by tasks => (unread run, weight tasks)
decreasing_by
  rcases step_ok _h with hlt | ⟨hle, hw⟩
  · exact Prod.Lex.left _ _ hlt
  · rcases Nat.lt_or_eq_of_le hle with hlt | heq
    · exact Prod.Lex.left _ _ hlt
    · rw [heq]
      refine Prod.Lex.right _ ?_
      simp only [weight, weight_append]
      omega

end BlockWeave.Discovery
