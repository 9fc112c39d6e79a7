import BlockWeave.Processor.Builtin
import BlockWeave.Proofs.Discovery.Nesting
import BlockWeave.Proofs.Discovery.Reading
import BlockWeave.Proofs.Weaving.Record

/-!
# The steps of weaving, read backwards

A step of weaving that has ended well tells what it did. There is one statement for each
step: what was found out on the way, what came out of the steps inside it, and what it left
of the run.
-/

namespace BlockWeave

theorem Weave.run_ofExcept_eq_ok_iff {α : Type} {result : Except Error α} {a : α}
    {now after : Run} :
    (Weave.ofExcept result).run now = (.ok a, after) ↔ result = .ok a ∧ now = after := by
  cases result <;> simp [Weave.ofExcept]

theorem Action.perform_options (now : Run) (action : Action) :
    (action.perform now).2.session.options = now.session.options := by
  cases action with
  | note entry => rfl
  | load path => exact (Discovery.walk_setting rfl).options
  | enter record =>
      by_cases hstate : record.state = .inProgress
      · rw [perform_enter_inProgress now hstate]
      · obtain ⟨after, hperform, hstored⟩ := perform_enter now hstate
        rw [hperform]
        exact hstored.setting.options
  | leave record content =>
      simp only [perform, Session.leave]
      split <;> rfl
  | define name content => rfl
  | write charset path content => rfl
  | register name processor => rfl

/-- No program changes the options. -/
theorem Weave.options_of_run {α : Type} {m : Weave α} {now after : Run} {result : Except Error α}
    (h : m.run now = (result, after)) : after.session.options = now.session.options := by
  have hafter (actions : List Action) (start : Run) :
      (start.after actions).session.options = start.session.options := by
    induction actions generalizing start with
    | nil => rfl
    | cons action actions ih => rw [Run.after_cons, ih, action.perform_options]
  rw [eq_after_of_run h, hafter]

namespace Weaving

open Discovery (Live referenceTags)

/-- What stands in the place of a marker, and the run behind it. -/
inductive Replaced (resolve : Resolver) (fetch : Fetcher) (depth : Nat) (file : Text)
    (removed : List Text) (marker : Marker) (now : Run) : Text → Run → Prop
  /-- Nothing is left of a marker with a removed tag. -/
  | removed (htag : marker.tag ∈ removed) :
      Replaced resolve fetch depth file removed marker now [] now
  /-- A marker for another trigger stays as it is, unless it exports. -/
  | excluded {attributes} (htag : marker.tag ∉ removed)
      (hparse : Attributes.parse (Path.parent file) marker.attrText = .ok attributes)
      (hexcludes : attributes.excludes now.session.options.activeTrigger = true) :
      Replaced resolve fetch depth file removed marker now
        (if attributes.exportTarget.isSome then [] else marker.text) now
  /-- A reference is replaced by what it refers to. -/
  | reference {attributes out after} (htag : marker.tag ∉ removed)
      (hlive : Live file now.session.options.activeTrigger marker attributes)
      (hreference : marker.tag ∈ referenceTags)
      (hrun : (emitReference resolve fetch depth file marker attributes).run now =
        (.ok out, after)) :
      Replaced resolve fetch depth file removed marker now out after
  /-- Nothing is left of a `remove`. -/
  | dropped {attributes} (htag : marker.tag ∉ removed)
      (hlive : Live file now.session.options.activeTrigger marker attributes)
      (hremove : marker.tag = removeTag) :
      Replaced resolve fetch depth file removed marker now [] now
  /-- Any other marker stays, around its resolved body. -/
  | kept {attributes body after} (htag : marker.tag ∉ removed)
      (hlive : Live file now.session.options.activeTrigger marker attributes)
      (hreference : marker.tag ∉ referenceTags) (hremove : marker.tag ≠ removeTag)
      (hrun : (resolve file marker.body).run now = (.ok body, after)) :
      Replaced resolve fetch depth file removed marker now (marker.rebuild body) after

/-- The part of a content that a reference keeps. -/
def keptPart (attributes : Attributes) (content : Content) : Content :=
  match attributes.slice with
  | none => content
  | some spec => (Slice.parse spec).apply content

/-- What a reference notes about the part that it keeps. -/
def keptNotes (attributes : Attributes) : List LogEntry :=
  match attributes.slice with
  | none => []
  | some spec => sliceWarnings (Slice.parse spec)

/-- Where a text goes, what is left in its place, and what it does to a run. -/
inductive Exported (options : Options) (attributes : Attributes) (text : Text) (now : Run) :
    Text → Run → Prop
  /-- The text stays. -/
  | stays (hexport : attributes.exportTarget = none) :
      Exported options attributes text now text now
  /-- The text becomes a variant. -/
  | variant {name after} (hexport : attributes.exportTarget = some name)
      (hname : isVariantName name = true)
      (hsession : after.session =
        { now.session with variants := now.session.variants.put name (.text text) })
      (hdisk : after.disk = now.disk) : Exported options attributes text now [] after
  /-- The text becomes a file. -/
  | file {name path after} (hexport : attributes.exportTarget = some name)
      (hname : isVariantName name = false) (hpath : attributes.exportPath = some path)
      (hsession : after.session = now.session)
      (hdisk : now.disk.write options.charset path (.text text) = (.ok (), after.disk)) :
      Exported options attributes text now [] after
  /-- The text has no place to go to. -/
  | nowhere {name} (hexport : attributes.exportTarget = some name)
      (hname : isVariantName name = false) (hpath : attributes.exportPath = none) :
      Exported options attributes text now [] now

variable {resolve : Resolver} {fetch : Fetcher} {depth : Nat} {file text out : Text}
  {removed : List Text} {marker : Marker} {attributes : Attributes} {options : Options}
  {now after : Run}

/-- A text that was woven has its markers replaced and its shorthands expanded. -/
theorem exists_woven (h : (weaveText resolve fetch depth file text).run now = (.ok out, after)) :
    ∃ removed woven, now.session.options.removeList = .ok removed ∧
      (replaceMarkers (emitMarker resolve fetch depth file removed) 0 text).run now =
        (.ok woven, after) ∧
      out = Shorthand.expand woven := by
  rw [weaveText_eq] at h
  obtain ⟨options, mid, hoptions, h⟩ := Weave.run_bind_eq_ok_iff.1 h
  cases hoptions
  obtain ⟨removed, mid, hlist, h⟩ := Weave.run_bind_eq_ok_iff.1 h
  obtain ⟨hremoved, rfl⟩ := Weave.run_ofExcept_eq_ok_iff.1 hlist
  obtain ⟨woven, mid, hwoven, h⟩ := Weave.run_bind_eq_ok_iff.1 h
  cases h
  exact ⟨removed, woven, hremoved, hwoven, rfl⟩

theorem replaced_of_emitMarker
    (h : (emitMarker resolve fetch depth file removed marker).run now = (.ok out, after)) :
    Replaced resolve fetch depth file removed marker now out after := by
  rw [emitMarker] at h
  split at h
  next hcontains =>
    cases h
    exact .removed (by simpa using hcontains)
  next hcontains =>
    have htag : marker.tag ∉ removed := by simpa using hcontains
    obtain ⟨options, mid, hoptions, h⟩ := Weave.run_bind_eq_ok_iff.1 h
    cases hoptions
    obtain ⟨attributes, mid, hread, h⟩ := Weave.run_bind_eq_ok_iff.1 h
    obtain ⟨hparse, rfl⟩ := Weave.run_ofExcept_eq_ok_iff.1 hread
    split at h
    next hexcludes =>
      cases h
      exact .excluded htag hparse hexcludes
    next hincludes =>
      have hlive : Live file now.session.options.activeTrigger marker attributes :=
        ⟨hparse, Bool.eq_false_iff.2 hincludes⟩
      split at h
      next hreference => exact .reference htag hlive (by simpa using hreference) h
      next hreference =>
        split at h
        next hremove =>
          cases h
          exact .dropped htag hlive hremove
        next hremove =>
          obtain ⟨body, mid, hbody, h⟩ := Weave.run_bind_eq_ok_iff.1 h
          cases h
          exact .kept htag hlive (by simpa using hreference) hremove hbody

theorem run_forM_note (entries : List LogEntry) (now : Run) :
    (entries.forM Weave.note).run now = (.ok (), { now with log := now.log ++ entries }) := by
  induction entries generalizing now with
  | nil => simp
  | cons entry entries ih =>
      have hnote : (Weave.note entry).run now = (.ok (), now.note entry) := rfl
      have hcons : (entry :: entries).forM Weave.note =
          (Weave.note entry).bind fun _ => entries.forM Weave.note := rfl
      rw [hcons, Weave.run_bind_of_ok hnote, ih]
      simp [Run.note]

/-- Slicing adds to the log only. -/
theorem run_applySlice (attributes : Attributes) (content : Content) (now : Run) :
    (applySlice attributes content).run now =
      (.ok (keptPart attributes content),
        { now with log := now.log ++ keptNotes attributes }) := by
  cases hslice : attributes.slice with
  | none => simp [applySlice, keptPart, keptNotes, hslice]
  | some spec =>
      simp only [applySlice, keptPart, keptNotes, hslice, Weave.bind_eq, Weave.pure_eq]
      rw [Weave.run_bind_of_ok (run_forM_note (sliceWarnings (Slice.parse spec)) now)]
      rfl

theorem exported_of_exportText
    (h : (exportText options attributes text).run now = (.ok out, after)) :
    Exported options attributes text now out after := by
  rw [exportText] at h
  split at h
  next hexport =>
    cases h
    exact .stays hexport
  next name hexport =>
    split at h
    next hname =>
      cases h
      exact .variant hexport hname rfl rfl
    next hname =>
      have hplain : isVariantName name = false := Bool.eq_false_iff.2 hname
      split at h
      next hpath =>
        cases h
        exact .nowhere hexport hplain hpath
      next path hpath =>
        obtain ⟨_, written, hwrite, h⟩ := Weave.run_bind_eq_ok_iff.1 h
        rw [Weave.run_perform, Action.perform] at hwrite
        cases h
        have hdisk := congrArg (fun result => result.2.disk) hwrite
        have hok := congrArg Prod.fst hwrite
        have hsession := congrArg (fun result => result.2.session) hwrite
        exact .file hexport hplain hpath hsession.symm (Prod.ext hok hdisk)

/-- A reference that was replaced refers to nothing, or its target went through all the
steps: processor, slice, tidying, resolution and export. -/
theorem emitReference_cases
    (h : (emitReference resolve fetch depth file marker attributes).run now = (.ok out, after)) :
    ((findTarget fetch file marker attributes).run now = (.ok none, after) ∧ out = []) ∨
      ∃ target found processed mid text resolved last,
        (findTarget fetch file marker attributes).run now = (.ok (some target), found) ∧
        (applyProcessor resolve depth file marker attributes target).run found =
          (.ok processed, mid) ∧
        (keptPart attributes processed).toText now.session.options.charset = .ok text ∧
        (resolve file (if now.session.options.tidies then Text.tidy text else text)).run
            { mid with log := mid.log ++ keptNotes attributes } = (.ok resolved, last) ∧
        Exported now.session.options attributes resolved last out after := by
  simp only [emitReference, Weave.bind_eq, Weave.pure_eq] at h
  obtain ⟨options, mid, hoptions, h⟩ := Weave.run_bind_eq_ok_iff.1 h
  cases hoptions
  obtain ⟨target, found, htarget, h⟩ := Weave.run_bind_eq_ok_iff.1 h
  cases target with
  | none =>
      cases h
      exact Or.inl ⟨htarget, rfl⟩
  | some target =>
      obtain ⟨processed, mid, hprocessed, h⟩ := Weave.run_bind_eq_ok_iff.1 h
      obtain ⟨content, sliced, hsliced, h⟩ := Weave.run_bind_eq_ok_iff.1 h
      rw [run_applySlice] at hsliced
      cases hsliced
      obtain ⟨text, read, hread, h⟩ := Weave.run_bind_eq_ok_iff.1 h
      obtain ⟨htext, rfl⟩ := Weave.run_ofExcept_eq_ok_iff.1 hread
      obtain ⟨resolved, last, hresolved, h⟩ := Weave.run_bind_eq_ok_iff.1 h
      exact Or.inr ⟨target, found, processed, mid, text, resolved, last, htarget, hprocessed,
        htext, hresolved, exported_of_exportText h⟩

/-- A reference that names no file and no block refers to its own body. -/
theorem run_findTarget_own (hfile : attributes.file = none) (hblock : attributes.block = none) :
    (findTarget fetch file marker attributes).run now =
      (.ok (some { content := .text marker.body }), now) := by
  simp [findTarget, hfile, hblock, Weave.variants, Weave.read, Weave.bind, Weave.run]

/-- The processor of an encoding that is a function gets the input and gives its value. -/
theorem exists_processorInput {target : Target} {processed : Content} {name : Text}
    {label : String} {f : Content → Text} (hencoding : attributes.encoding = some name)
    (hfind : now.session.registry.find? name = some (Processor.ofFunction label f))
    (h : (applyProcessor resolve depth file marker attributes target).run now =
      (.ok processed, after)) :
    ∃ content, (processorInput resolve now.session.options file target).run now =
        (.ok content, after) ∧ processed = .text (f content) := by
  simp only [applyProcessor, Weave.bind_eq] at h
  obtain ⟨registry, mid, hregistry, h⟩ := Weave.run_bind_eq_ok_iff.1 h
  cases hregistry
  rw [hencoding, Option.bind_some, hfind] at h
  obtain ⟨options, mid, hoptions, h⟩ := Weave.run_bind_eq_ok_iff.1 h
  cases hoptions
  obtain ⟨content, mid, hcontent, h⟩ := Weave.run_bind_eq_ok_iff.1 h
  cases depth with
  | zero => cases h
  | succ depth =>
      cases h
      exact ⟨content, hcontent, rfl⟩

end Weaving
end BlockWeave
