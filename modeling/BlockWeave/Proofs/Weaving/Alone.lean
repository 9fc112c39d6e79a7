import BlockWeave.Proofs.Discovery.Closure
import BlockWeave.Proofs.Weaving.Limit
import BlockWeave.Proofs.Weaving.Record

/-!
# A file that refers to no other

A text file whose markers name no other file is loaded alone, and the build of it is what
its text is resolved to.
-/

namespace BlockWeave

open Weaving

/-- What is found in a text can be read and refers to no file. -/
def Discovery.RefersNowhere (file : Text) (trigger : Option Text) (source : Text) : Prop :=
  ∀ found ∈ findings file trigger 0 source, ∃ finding, found = .ok finding ∧
    finding.target? = none

namespace Discovery

variable {run : Run} {entry source : Text}

/-- Only the entry can be reached. -/
theorem reached_alone {options : Options} {disk : Disk}
    (hreading : reading options disk entry = .ok (.text source))
    (hfound : RefersNowhere entry options.activeTrigger source) {file : Text}
    (h : Reached options disk [entry] file) : file = entry := by
  obtain ⟨root, hroot, hreach⟩ := h
  obtain rfl := List.mem_singleton.1 hroot
  induction hreach with
  | refl => rfl
  | tail _ hrefers ih =>
      subst ih
      obtain ⟨finding, hmem, htarget⟩ := refers_iff.1 hrefers
      rw [foundIn_text hreading] at hmem
      obtain ⟨other, hother, hnone⟩ := hfound _ hmem
      cases hother
      rw [hnone] at htarget
      cases htarget

/-- The file is loaded, with its text as its source. -/
theorem load_alone (hrecords : run.session.records = []) (hchain : run.session.chain = [])
    (hreading : reading run.session.options run.disk entry = .ok (.text source))
    (hfound : RefersNowhere entry run.session.options.activeTrigger source) :
    ∃ loaded, (load entry).run run = (.ok (), loaded) ∧ SameSetting loaded run ∧
      loaded.session.Fresh ∧ loaded.session.record? (.ofFile entry) =
        some { key := .ofFile entry, isFile := true, source := some source } := by
  have hwalking := (Walking.start hrecords hchain).visit entry
  have hload : (load entry).run run = walk run [.visit entry] := by
    rw [load, Weave.run_perform, Action.perform]
  rw [List.nil_append] at hwalking
  rcases hwalking.walk with ⟨loaded, hwalk, hloaded⟩ | ⟨e, after, -, file, hreached, hfails⟩
  · refine ⟨loaded, hload.trans hwalk, walk_setting hwalk, hloaded.fresh, ?_⟩
    obtain ⟨taken, htaken, hrecord⟩ := hloaded.record?_file ⟨entry, by simp, .refl⟩
    obtain rfl := Except.ok.inj (htaken.symm.trans hreading)
    exact hrecord
  · obtain rfl := reached_alone hreading hfound hreached
    rw [foundIn_text hreading, hreading] at hfails
    rcases hfails with hfails | hfails
    · cases hfails
    · obtain ⟨finding, he, -⟩ := hfound _ hfails
      cases he

end Discovery

/-- A text is resolved where its markers are replaced. -/
theorem run_weaveText {now after : Run} {removed : List Text} {resolve : Resolver}
    {fetch : Fetcher} {depth : Nat} {file text woven : Text}
    (hremoved : now.session.options.removeList = .ok removed)
    (hrun : (replaceMarkers (emitMarker resolve fetch depth file removed) 0 text).run now =
      (.ok woven, after)) :
    (weaveText resolve fetch depth file text).run now = (.ok (Shorthand.expand woven), after) := by
  simp only [weaveText_eq, Weave.options, Weave.read, Weave.bind, Weave.run, hremoved,
    Weave.ofExcept]
  rw [Weave.run_bind_of_ok hrun]
  rfl

/-- A file whose text is resolved is entered, resolved and left. -/
theorem run_resolveFile_text {loaded : Run} (hfresh : loaded.session.Fresh) {depth : Nat}
    {entry source out : Text} {variants : Variants}
    (hrecord : loaded.session.record? (.ofFile entry) =
      some { key := .ofFile entry, isFile := true, source := some source })
    (htext : ∀ now, SameSetting now loaded → ∃ mid,
      (resolveText depth entry source).run now = (.ok out, mid) ∧
        mid.session.chain = now.session.chain ∧ mid.session.records = now.session.records ∧
          mid.session.variants = variants) :
    ∃ last, (resolveFile depth entry).run loaded = (.ok out, last) ∧
      last.session.variants = variants := by
  obtain ⟨record, hdef⟩ : ∃ record : Record,
      record = { key := .ofFile entry, isFile := true, source := some source } := ⟨_, rfl⟩
  have hstate : record.state = .unvisited := by rw [hdef]
  rw [← hdef] at hrecord
  obtain ⟨entered, henter, hentered⟩ := Action.perform_enter loaded
    (show record.state ≠ .inProgress by simp [hstate])
  obtain ⟨mid, hresolve, hchain, hrecords, hvariants⟩ := htext entered hentered.setting
  have hevaluate : (evaluate (resolveText depth) record).run entered = (.ok (.text out), mid) := by
    have hopen : evaluate (resolveText depth) record =
        (resolveText depth entry source).bind fun text => .done (.text text) := by
      rw [hdef]
      rfl
    rw [hopen, Weave.run_bind_of_ok hresolve, Weave.run_done]
  have hlast : mid.session.chain = [] ++ [record.key] := by
    rw [hchain, hentered.chain_eq, hfresh.chain]
  have hknown : mid.session.record? record.key = some { record with state := .inProgress } := by
    rw [Session.record?, hrecords]
    exact hentered.record?_self
  obtain ⟨left, hleave, hleft⟩ := @Action.perform_leave mid { record with state := .inProgress } []
    hlast (by simp) (.text out)
  refine ⟨left, ?_, hleft.setting.variants.trans hvariants⟩
  have hfetch : (fetchBlock (resolveRecord (resolveText depth)) (.ofFile entry)).run loaded =
      (.ok (some (.text out, record.isBinary)), left) := by
    rw [(fetchBlock_some hrecord).1, resolveRecord_of_ne (by simp [hstate]), Weave.bind_assoc,
      Weave.run_bind_of_ok ((Weave.run_perform _ _).trans henter), Weave.bind_assoc,
      Weave.run_bind_of_ok hevaluate, Weave.bind_assoc,
      Weave.run_bind_of_ok ((leaveRecord_of_some hknown _).1.trans hleave)]
    rfl
  simp only [resolveFile, fileText, Weave.bind_eq]
  rw [Weave.run_bind_of_ok hfetch]
  rfl

namespace Builder

variable {builder : Builder} {directory path entry source out : Text} {options : Options}
  {workspace : Workspace} {depth : Nat}

/-- The build of a file that refers to no other is what its text is resolved to, tidied if
the options say so. -/
theorem build_alone {removed : List Text} {variants : Variants}
    (hpath : Path.resolve directory path = .ok entry) (hremoved : options.removeList = .ok removed)
    (hreading : Discovery.reading options workspace.disk entry = .ok (.text source))
    (hfound : Discovery.RefersNowhere entry options.activeTrigger source)
    (htext : ∀ now, SameSetting now (builder.start options workspace) → ∃ mid,
      (resolveText depth entry source).run now = (.ok out, mid) ∧
        mid.session.chain = now.session.chain ∧ mid.session.records = now.session.records ∧
          mid.session.variants = variants) :
    ∃ last, builder.build depth directory path options workspace =
        builder.finish (.ok (if options.tidies then Text.tidy out else out), last) ∧
      last.session.variants = variants := by
  obtain ⟨log, hprepare⟩ : ∃ log, (prepare entry options).run (builder.start options workspace) =
      (Discovery.load entry).run { builder.start options workspace with log } := by
    simp only [prepare, hremoved]
    exact ⟨_, rfl⟩
  obtain ⟨loaded, hload, hsetting, hfresh, hrecord⟩ :=
    @Discovery.load_alone { builder.start options workspace with log } entry source rfl rfl
      hreading hfound
  have hsame : SameSetting loaded (builder.start options workspace) :=
    hsetting.trans ⟨rfl, rfl, rfl, rfl⟩
  obtain ⟨last, hlast, hvariants⟩ := run_resolveFile_text hfresh hrecord
    fun now hnow => htext now (hnow.trans hsame)
  refine ⟨last, ?_, hvariants⟩
  simp only [build_eq, buildWith, hpath, stepsWith, Weave.bind_eq, Weave.pure_eq]
  rw [Weave.run_bind_of_ok (hprepare.trans hload), Weave.run_bind_of_ok hlast, Weave.run_done]

end Builder
end BlockWeave
