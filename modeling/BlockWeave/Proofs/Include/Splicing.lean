import BlockWeave.Proofs.Include.Building
import BlockWeave.Proofs.Weaving.Ending
import BlockWeave.Proofs.Weaving.Gives
import BlockWeave.Proofs.Weaving.Registration

/-!
# Files that include themselves through a splice

A block that is removed from the middle of a text may leave a marker behind that did not
stand there before. This marker is resolved only where the text is emitted, and by then the
block that it comes from is done. If the marker refers to this block again, the same text is
emitted again and again, and no block is in progress that would show the cycle.
-/

namespace BlockWeave

open Weaving

/-- A program exceeds its bound. -/
def Exceeds {α : Type} (m : Weave α) (now : Run) : Prop :=
  ∃ after, m.run now = (.error .depthExceeded, after)

namespace Exceeds

variable {α β : Type} {m : Weave α} {k : α → Weave β} {now mid : Run}

theorem bind (h : Exceeds m now) : Exceeds (m.bind k) now := by
  obtain ⟨after, hrun⟩ := h
  exact ⟨after, Weave.run_bind_of_error hrun⟩

theorem after_ok {a : α} (hrun : m.run now = (.ok a, mid)) (h : Exceeds (k a) mid) :
    Exceeds (m.bind k) now := by
  rw [Exceeds, Weave.run_bind_of_ok hrun]
  exact h

theorem congr {other : Weave α} (he : m.run now = other.run now) (h : Exceeds other now) :
    Exceeds m now := by
  rw [Exceeds, he]
  exact h

end Exceeds

namespace Include

variable {directory : Directory} {name file : Text} {now : Run}

/-- Markers that include a file are neither dropped nor changed when they are emitted. -/
structure Emits (name : Text) (now : Run) : Prop where
  isFileName : IsFileName name
  removes : ∃ removed, now.session.options.removeList = .ok removed ∧ includeTag ∉ removed
  tidied : (if now.session.options.tidies then Text.tidy (includeText name) else includeText name) =
    includeText name
  variants : now.session.variants.get? name = none

theorem Emits.congr {after : Run} (h : Emits name now) (hsetting : SameSetting after now) :
    Emits name after := by
  constructor
  case isFileName => exact h.isFileName
  case removes => exact hsetting.options ▸ h.removes
  case tidied => exact hsetting.options ▸ h.tidied
  case variants => exact hsetting.variants ▸ h.variants

section Marker

variable {resolve : Resolver} {fetch : Fetcher} {depth : Nat}

/-- A text that is a marker for a file is a reference to this file. -/
theorem run_weaveText_includeText (h : Emits name now)
    (hparent : Path.parent file = Path.absolute directory.parts) :
    (weaveText resolve fetch depth file (includeText name)).run now =
      ((emitReference resolve fetch depth file (includeMarker name 0)
        (includeAttributes directory.parts name)).bind fun text =>
          .done (Shorthand.expand text)).run now := by
  obtain ⟨removed, hremoved, hkept⟩ := h.removes
  have hreplace (handler : Marker → Weave Text) : replaceMarkers handler 0 (includeText name) =
      handler (includeMarker name 0) := by
    have hmarker := replaceMarkers_includeText handler h.isFileName 0 []
    simpa [replaceMarkers_nil, Weave.bind, Weave.bind_done] using hmarker
  have hweave : (weaveText resolve fetch depth file (includeText name)).run now =
      ((emitMarker resolve fetch depth file removed (includeMarker name 0)).bind fun text =>
        .done (Shorthand.expand text)).run now := by
    simp only [weaveText_eq, Weave.options, Weave.read, Weave.bind, Weave.run, hremoved,
      Weave.ofExcept, hreplace]
  rw [hweave, Weave.run_bind, Weave.run_bind, run_emitMarker hkept h.isFileName hparent]

/-- The bound is exceeded where a file cannot be found within it. -/
theorem weaveText_exceeds_of_fetch (h : Emits name now)
    (hparent : Path.parent file = Path.absolute directory.parts)
    (hfetch : Exceeds (fetch (.ofFile (directory.path name))) now) :
    Exceeds (weaveText resolve fetch depth file (includeText name)) now := by
  obtain ⟨after, hrun⟩ := hfetch
  refine Exceeds.congr (run_weaveText_includeText h hparent) (Exceeds.bind ⟨after, ?_⟩)
  exact run_emitReference_error h.variants h.isFileName hrun

/-- The bound is exceeded where it is exceeded for the text of the file, if this text is the
marker that includes it. -/
theorem weaveText_exceeds_of_resolve {mid : Run} (h : Emits name now)
    (hparent : Path.parent file = Path.absolute directory.parts)
    (hfetch : (fetch (.ofFile (directory.path name))).run now =
      (.ok (some (.text (includeText name), false)), mid))
    (hresolve : Exceeds (resolve file (includeText name)) mid) :
    Exceeds (weaveText resolve fetch depth file (includeText name)) now := by
  obtain ⟨after, hrun⟩ := hresolve
  refine Exceeds.congr (run_weaveText_includeText h hparent) (Exceeds.bind ⟨after, ?_⟩)
  rw [run_emitReference_fetched h.variants h.isFileName hfetch, h.tidied, hrun]

end Marker

/-- A file that has been resolved to the marker that includes it is emitted without end. -/
theorem resolveText_exceeds (h : Emits name now)
    (hparent : Path.parent file = Path.absolute directory.parts) {record : Record}
    (hrecord : now.session.record? (.ofFile (directory.path name)) = some record)
    (hstate : record.state = .done) (hcontent : record.content = some (.text (includeText name)))
    (hbinary : record.isBinary = false) (depth : Nat) :
    Exceeds (resolveText depth file (includeText name)) now := by
  induction depth with
  | zero => exact ⟨now, rfl⟩
  | succ depth ih =>
      refine weaveText_exceeds_of_resolve h hparent ?_ ih
      rw [(fetchBlock_some hrecord).1, resolveRecord_done hstate hcontent, hbinary]
      rfl

end Include

theorem Registry.plain_encodings : Registry.encodings.Plain := by
  refine forall_of_mem fun name processor hmem => ?_
  obtain ⟨label, f, rfl⟩ := exists_ofFunction hmem
  exact Processor.plain_ofFunction label f

namespace Splice

open Discovery Include

/-- A file that includes another one. -/
def outer : Text := ['/', 'a']

/-- The file that is included. -/
def spliced : Text := ['/', 'b']

/-- The text of the outer file. -/
def marker : Text := includeText ['b']

/-- The text of the other file: the same marker with a block to remove in its middle. -/
def source : Text := "/*<inc/*<remove>*//*</remove>*/lude file=\"b\"/>*/".toList

def disk : Disk :=
  { nodes := [(outer, .file (Utf8.encode marker)), (spliced, .file (Utf8.encode source))] }

/-- A builder without templates. -/
def builder : Builder := { registry := Registry.encodings }

/-- A run on this disk in which some records have been made. -/
def run (log : List LogEntry) (records : List Record) : Run where
  session := {
    builder.newSession {} with
    records := records.map fun record => (record.key, record) }
  disk := disk
  log := log

def inclusion : Occurrence where
  offset := 0
  attributes := includeAttributes [] ['b']
  body := []

def removal : Occurrence where
  offset := 6
  attributes := { items := [], filePath := none, exportPath := none }
  body := []

def outerRecord : Record := { key := .ofFile outer, isFile := true, source := some marker }

def inclusionRecord : Record := { key := ⟨outer, includeTag⟩, occurrences := [inclusion] }

def splicedRecord : Record := { key := .ofFile spliced, isFile := true, source := some source }

def removalRecord : Record := { key := ⟨spliced, removeTag⟩, occurrences := [removal] }

/-- All that there is to find. -/
def records : List Record := [outerRecord, inclusionRecord, splicedRecord, removalRecord]

theorem visit_outer (log : List LogEntry) :
    visit (run log []) outer = (.ok [.note (.ok ⟨outer, includeTag, inclusion⟩)],
      run (log ++ [.debug .discovery ("load " ++ String.ofList outer)]) [outerRecord]) := by
  have hread : disk.readText ({} : Options).fileCharset outer = .ok marker := by
    with_unfolding_all rfl
  have htidy : Text.tidy marker = marker := by with_unfolding_all rfl
  have hfindings : findings outer ({} : Options).activeTrigger 0 marker =
      [.ok ⟨outer, includeTag, inclusion⟩] := by
    with_unfolding_all rfl
  exact visit_tidied (run log []) rfl rfl hread htidy hfindings

theorem visit_spliced (log : List LogEntry) :
    visit (run log [outerRecord, inclusionRecord]) spliced =
      (.ok [.note (.ok ⟨spliced, removeTag, removal⟩)],
        run (log ++ [.debug .discovery ("load " ++ String.ofList spliced)])
          [outerRecord, inclusionRecord, splicedRecord]) := by
  have hread : disk.readText ({} : Options).fileCharset spliced = .ok source := by
    with_unfolding_all rfl
  have htidy : Text.tidy source = source := by with_unfolding_all rfl
  have hfindings : findings spliced ({} : Options).activeTrigger 0 source =
      [.ok ⟨spliced, removeTag, removal⟩] := by
    with_unfolding_all rfl
  exact visit_tidied (run log [outerRecord, inclusionRecord]) rfl rfl hread htidy hfindings

theorem load_outer (log : List LogEntry) :
    ∃ more, (load outer).run (run log []) = (.ok (), run more records) := by
  let seen (path : Text) : LogEntry := .debug .discovery ("load " ++ String.ofList path)
  have houter : step (run log []) (.visit outer) =
      (.ok [.note (.ok ⟨outer, includeTag, inclusion⟩)],
        run (log ++ [seen outer]) [outerRecord]) := visit_outer log
  have hinclusion (log : List LogEntry) : step (run log [outerRecord])
      (.note (.ok ⟨outer, includeTag, inclusion⟩)) =
      (.ok [.visit spliced], run log [outerRecord, inclusionRecord]) := by
    rfl
  have hspliced (log : List LogEntry) : step (run log [outerRecord, inclusionRecord])
      (.visit spliced) = (.ok [.note (.ok ⟨spliced, removeTag, removal⟩)],
        run (log ++ [seen spliced]) [outerRecord, inclusionRecord, splicedRecord]) :=
    visit_spliced log
  have hremoval (log : List LogEntry) :
      step (run log [outerRecord, inclusionRecord, splicedRecord])
        (.note (.ok ⟨spliced, removeTag, removal⟩)) = (.ok [], run log records) := by
    rfl
  refine ⟨log ++ [seen outer] ++ [seen spliced], ?_⟩
  rw [load, Weave.run_perform, Action.perform, walk_cons houter, List.singleton_append,
    walk_cons (hinclusion _), List.singleton_append, walk_cons (hspliced _),
    List.singleton_append, walk_cons (hremoval _), List.nil_append, walk]

theorem emits {now : Run} (hoptions : now.session.options = {})
    (hvariants : now.session.variants = []) : Emits ['b'] now := by
  constructor
  case isFileName => exact ⟨by simp, by simp, by simp⟩
  case removes =>
    rw [hoptions]
    exact ⟨["debug".toList, "test".toList], rfl, by decide⟩
  case tidied =>
    rw [hoptions]
    with_unfolding_all rfl
  case variants =>
    rw [hvariants]
    rfl

/-- The block that is removed, as a marker. -/
def removalMarker : Marker where
  family := .block
  shape := .markerPair
  tag := removeTag
  attrText := []
  openingClose := ['>', '*', '/']
  body := []
  closing := "/*</remove>*/".toList
  offset := 6

/-- With the block removed, the text of the file is the marker that includes it. -/
theorem source_gives (depth : Nat) : (resolveText (depth + 1) spliced source).Gives {} marker := by
  have hremoved : ({} : Options).removeList = .ok ["debug".toList, "test".toList] := by rfl
  have hsegments : segments 0 source = [.literal ['/'], .literal "*<inc".toList,
      .marker removalMarker, .literal "lude file=\"b\"/>*/".toList] := by
    with_unfolding_all rfl
  have hexpand : Shorthand.expand [['/'], "*<inc".toList, [],
      "lude file=\"b\"/>*/".toList].flatten = marker := by
    with_unfolding_all rfl
  have hlive : Live spliced ({} : Options).activeTrigger removalMarker removal.attributes :=
    ⟨by with_unfolding_all rfl, rfl⟩
  exact resolveText_gives_of_segments hremoved hsegments hexpand (.cons rfl (.cons rfl
    (.cons (emitMarker_gives_remove (by decide) hlive rfl) (.cons rfl .nil))))

theorem splicedRecord_state : splicedRecord.state ≠ .inProgress := by
  simp [splicedRecord]

theorem evaluate_splicedRecord (resolve : Resolver) :
    evaluate resolve splicedRecord =
      (resolve spliced source).bind fun text => .done (.text text) := rfl

section Fetch

variable {now : Run} (hrecord : now.session.record? (.ofFile spliced) = some splicedRecord)
include hrecord

/-- The file needs a bound for its own text. -/
theorem fetch_exceeds :
    Exceeds (fetchBlock (resolveRecord (resolveText 0)) (.ofFile spliced)) now := by
  obtain ⟨entered, henter, -⟩ := Action.perform_enter now splicedRecord_state
  refine Exceeds.congr (fetchBlock_some hrecord).1 (Exceeds.bind ?_)
  rw [resolveRecord_of_ne (by simp [splicedRecord])]
  refine Exceeds.after_ok ((Weave.run_perform _ now).trans henter) (Exceeds.bind ?_)
  exact ⟨entered, rfl⟩

/-- The file is done, and its content is the marker that includes it. -/
theorem run_fetch (hoptions : now.session.options = {}) (depth : Nat) :
    ∃ mid, (fetchBlock (resolveRecord (resolveText (depth + 1))) (.ofFile spliced)).run now =
        (.ok (some (.text marker, false)), mid) ∧ SameSetting mid now ∧
      mid.session.record? (.ofFile spliced) =
        some { splicedRecord with content := some (.text marker), state := .done } := by
  obtain ⟨entered, henter, hentered⟩ := Action.perform_enter now splicedRecord_state
  have hsource := source_gives depth entered (hentered.setting.options.trans hoptions)
  have hknown : entered.session.record? splicedRecord.key =
      some { splicedRecord with state := .inProgress } := hentered.record?_self
  obtain ⟨left, hleave, hleft⟩ := @Action.perform_leave entered
    { splicedRecord with state := .inProgress } _ hentered.chain_eq (by simp) (.text marker)
  refine ⟨left, ?_, hleft.setting.trans hentered.setting, ?_⟩
  · rw [(fetchBlock_some hrecord).1, resolveRecord_of_ne (by simp [splicedRecord]),
      Weave.bind_assoc, Weave.run_bind_of_ok ((Weave.run_perform _ now).trans henter),
      Weave.bind_assoc, evaluate_splicedRecord, Weave.bind_assoc, Weave.run_bind_of_ok hsource]
    simp only [Weave.bind]
    rw [Weave.bind_assoc,
      Weave.run_bind_of_ok ((leaveRecord_of_some hknown _).1.trans hleave)]
    rfl
  · exact hleft.record?_self

/-- The outer file asks for the other one again and again. -/
theorem resolve_exceeds (hoptions : now.session.options = {})
    (hvariants : now.session.variants = []) (depth : Nat) :
    Exceeds (resolveText depth outer marker) now := by
  have h := emits hoptions hvariants
  have hparent : Path.parent outer = Path.absolute Include.Pair.root.parts := by rfl
  cases depth with
  | zero => exact ⟨now, rfl⟩
  | succ depth =>
      cases depth with
      | zero => exact weaveText_exceeds_of_fetch h hparent (fetch_exceeds hrecord)
      | succ depth =>
          obtain ⟨mid, hfetch, hsetting, hdone⟩ := run_fetch hrecord hoptions depth
          refine weaveText_exceeds_of_resolve h hparent hfetch ?_
          exact resolveText_exceeds (h.congr hsetting) hparent hdone rfl rfl rfl (depth + 1)

end Fetch

/-- The build loads its files. -/
theorem run_prepare :
    ∃ log, (Builder.prepare outer {}).run (builder.start {} { disk }) =
      (.ok (), run log records) := by
  have hremove : ({} : Options).removeList = .ok ["debug".toList, "test".toList] := by rfl
  simp only [Builder.prepare, hremove, Weave.ofExcept, Weave.bind_eq, Weave.bind]
  exact load_outer _

theorem resolve_path : Path.resolve ['/'] ['a'] = .ok outer := by rfl

theorem starts : builder.Starts ['/'] ['a'] {} { disk } := by
  obtain ⟨log, hprepare⟩ := run_prepare
  exact ⟨outer, run log records, resolve_path, hprepare⟩

/-- A build of the outer file exceeds every bound. -/
theorem build_exceeds (depth : Nat) :
    (builder.build depth ['/'] ['a'] {} { disk }).1 = .error .depthExceeded := by
  obtain ⟨log, hprepare⟩ := run_prepare
  have houter : (run log records).session.record? (.ofFile outer) = some outerRecord := by rfl
  have hspliced : (run log records).session.record? (.ofFile spliced) = some splicedRecord := by
    rfl
  obtain ⟨entered, henter, hentered⟩ := Action.perform_enter (run log records)
    (show outerRecord.state ≠ .inProgress by simp [outerRecord])
  have hkept : entered.session.record? (.ofFile spliced) = some splicedRecord := by
    rw [hentered.record?_eq, Session.record?_store_of_ne _ (by decide), hspliced]
  have hfile : Exceeds (resolveFile depth outer) (run log records) := by
    refine Exceeds.bind (Exceeds.congr (fetchBlock_some houter).1 (Exceeds.bind ?_))
    rw [resolveRecord_of_ne (by simp [outerRecord])]
    refine Exceeds.after_ok ((Weave.run_perform _ _).trans henter) (Exceeds.bind ?_)
    exact (resolve_exceeds hkept hentered.setting.options hentered.setting.variants depth).bind
  obtain ⟨after, hsteps⟩ : Exceeds (Builder.stepsWith (resolveFile depth) outer {})
      (builder.start {} { disk }) := Exceeds.after_ok hprepare hfile.bind
  rw [Builder.build_eq, Builder.buildWith, resolve_path]
  exact (Builder.finish_fst builder _).trans (congrArg Prod.fst hsteps)

end Splice
end BlockWeave
