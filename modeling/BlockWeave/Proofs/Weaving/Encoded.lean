import BlockWeave.Proofs.Processor.Alphabet
import BlockWeave.Proofs.Weaving.Cycle
import BlockWeave.Proofs.Weaving.Verbatim

/-!
# Encoded content

Content that one of the standard encodings has written goes through the steps behind the
processor as it is: whatever part of it a slice keeps, there is nothing to tidy and nothing to
resolve in it. So the output of the processor is what stands in the place of the reference, or
what is exported.
-/

namespace BlockWeave

open Weaving

theorem Slice.ofList_sublist {α : Type} (slice : Slice) (xs : List α) :
    (slice.ofList xs).Sublist xs :=
  (List.drop_sublist _ _).trans (List.take_sublist _ _)

/-- What a reference keeps of a text is a part of it. -/
theorem Weaving.exists_keptPart (attributes : Attributes) (text : Text) :
    ∃ kept : Text, keptPart attributes (.text text) = .text kept ∧ kept.Sublist text := by
  rw [keptPart]
  split
  · exact ⟨text, rfl, List.Sublist.refl text⟩
  next spec _ => exact ⟨_, rfl, Slice.ofList_sublist (Slice.parse spec) text⟩

/-- What stands in the place of a reference with an encoding, and the run behind it. -/
inductive Encodes (resolve : Resolver) (fetch : Fetcher) (file : Text) (marker : Marker)
    (attributes : Attributes) (encoding : Encoding) (now : Run) : Text → Run → Prop
  /-- Nothing stands for a target that is not there. -/
  | missing {after}
      (htarget : (findTarget fetch file marker attributes).run now = (.ok none, after)) :
      Encodes resolve fetch file marker attributes encoding now [] after
  /-- The content of the target is what the processor gets. What the encoding writes for it, or
  the part that is kept, is not changed by tidying and by resolving it, and resolving it does
  nothing to the run; it goes where the reference sends it. -/
  | found {target found content last text out after}
      (htarget : (findTarget fetch file marker attributes).run now = (.ok (some target), found))
      (hcontent : (processorInput resolve now.session.options file target).run found =
        (.ok content, last))
      (hkept : keptPart attributes (.text (encoding.encode content)) = .text text)
      (htidy : Text.tidy text = text)
      (hresolved : (resolve file text).run
          { last with log := last.log ++ keptNotes attributes } =
        (.ok text, { last with log := last.log ++ keptNotes attributes }))
      (hexported : Exported now.session.options attributes text
        { last with log := last.log ++ keptNotes attributes } out after) :
      Encodes resolve fetch file marker attributes encoding now out after

section

variable {depth bound : Nat} {file text out : Text} {marker : Marker} {attributes : Attributes}
  {record : Record} {now after : Run}

/-- Encoded text is resolved to itself. -/
theorem eq_of_encoded (h : Text.Encoded text)
    (hrun : (resolveText depth file text).run now = (.ok out, after)) :
    out = text ∧ after = now := by
  obtain ⟨inner, rfl, hweave⟩ := exists_weaveText hrun
  obtain ⟨removed, -, hremoved, -, -⟩ := exists_woven hweave
  have hmarkers : markers 0 text = [] := markers_eq_nil_of_notMem (h.notMem (by decide)) 0
  refine eq_of_stays hremoved h.free (fun other hnested => ?_) hrun
  cases hnested with
  | shown hmarker => simp [hmarkers] at hmarker
  | inside houter => simp [hmarkers] at houter

/-- A reference to a whole file that has a record. -/
structure RefersToFile (now : Run) (attributes : Attributes) (record : Record) : Prop where
  named : ∃ name, attributes.file = some name ∧ isVariantName name = false ∧
    now.session.variants.get? name = none
  block : attributes.block = none
  path : attributes.filePath = some record.key.file
  key : record.key = .ofFile record.key.file
  known : now.session.record? record.key = some record

/-- The target of a reference to a file is what its record gives. -/
theorem findTarget_file (h : RefersToFile now attributes record)
    {contentOf : Record → Weave Content} {target : Option Target}
    (hrun : (findTarget (fetchBlock contentOf) file marker attributes).run now =
      (.ok target, after)) :
    ∃ content, (contentOf record).run now = (.ok content, after) ∧
      target = some {
        content, isBinary := record.isBinary, blockFile := some record.key.file } := by
  obtain ⟨name, hfile, hname, hvariant⟩ := h.named
  simp only [findTarget, Weave.bind_eq, Weave.pure_eq] at hrun
  obtain ⟨variants, mid, hvariants, hrun⟩ := Weave.run_bind_eq_ok_iff.1 hrun
  cases hvariants
  simp only [hfile, hname, hvariant, h.block, h.path, Option.bind_some, Option.any_some,
    Option.isNone_some, Option.getD_some, Option.getD_none, Bool.false_eq_true, false_and,
    if_false] at hrun
  obtain ⟨fetched, mid, hfetched, hrun⟩ := Weave.run_bind_eq_ok_iff.1 hrun
  have hknown : now.session.record? ⟨record.key.file, []⟩ = some record := by
    rw [← h.known, h.key]
    rfl
  rw [(fetchBlock_some hknown).1] at hfetched
  obtain ⟨content, last, hcontent, hfetched⟩ := Weave.run_bind_eq_ok_iff.1 hfetched
  cases hfetched
  cases hrun
  exact ⟨content, hcontent, rfl⟩

/-- The record of a binary file that has not been done gets the bytes that are on the disk. -/
theorem resolveRecord_bytes {resolve : Resolver} {content : Content}
    (hfile : record.isFile = true) (hbinary : record.isBinary = true)
    (hstate : record.state ≠ .done)
    (hrun : (resolveRecord resolve record).run now = (.ok content, after)) :
    ∃ bytes, now.disk.readBytes record.key.file = .ok bytes ∧ content = .bytes bytes ∧
      after.session.record? record.key =
        some { record with content := some (.bytes bytes), state := .done } := by
  rw [resolveRecord_of_ne hstate] at hrun
  obtain ⟨_, entered, henter, hrun⟩ := Weave.run_bind_eq_ok_iff.1 hrun
  obtain ⟨found, mid, hevaluate, hrun⟩ := Weave.run_bind_eq_ok_iff.1 hrun
  obtain ⟨_, left, hleave, hrun⟩ := Weave.run_bind_eq_ok_iff.1 hrun
  cases hrun
  have hentered : entered.disk = now.disk ∧
      entered.session.record? record.key = some { record with state := .inProgress } := by
    rw [Weave.run_perform] at henter
    by_cases hprogress : record.state = .inProgress
    · rw [Action.perform_enter_inProgress now hprogress] at henter
      cases henter
    · obtain ⟨other, hother, hstored⟩ := Action.perform_enter now hprogress
      rw [hother] at henter
      cases henter
      exact ⟨hstored.setting.disk, hstored.record?_self⟩
  simp only [evaluate, hfile, hbinary, if_true, Weave.bind_eq, Weave.pure_eq] at hevaluate
  obtain ⟨disk, looked, hlook, hevaluate⟩ := Weave.run_bind_eq_ok_iff.1 hevaluate
  cases hlook
  obtain ⟨bytes, last, hread, hevaluate⟩ := Weave.run_bind_eq_ok_iff.1 hevaluate
  obtain ⟨hbytes, rfl⟩ := Weave.run_ofExcept_eq_ok_iff.1 hread
  cases hevaluate
  rw [(leaveRecord_of_some hentered.2 _).1] at hleave
  obtain ⟨chain, hstored⟩ := Action.stored_of_leave hleave
  exact ⟨bytes, hentered.1 ▸ hbytes, rfl, hstored.record?_self⟩

variable {encoding : Encoding}

theorem encodes_of_emitReference {fetch : Fetcher}
    (hencoding : attributes.encoding = some encoding.name)
    (hfind : ∀ target found,
      (findTarget fetch file marker attributes).run now = (.ok (some target), found) →
        found.session.registry.find? encoding.name = some encoding.processor)
    (hrun : (emitReference (resolveText depth) fetch bound file marker attributes).run now =
      (.ok out, after)) :
    Encodes (resolveText depth) fetch file marker attributes encoding now out after := by
  rcases emitReference_cases hrun with ⟨hnone, rfl⟩ | ⟨target, found, processed, last, text,
    resolved, mid, htarget, hprocessed, htext, hresolved, hexported⟩
  · exact .missing hnone
  · obtain ⟨label, hfunction⟩ := encoding.exists_ofFunction
    obtain ⟨content, hcontent, rfl⟩ := exists_processorInput hencoding
      ((hfind target found htarget).trans (congrArg some hfunction)) hprocessed
    rw [Weave.options_of_run htarget] at hcontent
    obtain ⟨kept, hkept, hpart⟩ := exists_keptPart attributes (encoding.encode content)
    rw [hkept] at htext
    cases htext
    have hencoded : Text.Encoded text := (encoding.encoded_encode content).of_sublist hpart
    rw [hencoded.tidy_eq, ite_self] at hresolved
    obtain ⟨rfl, rfl⟩ := eq_of_encoded hencoded hresolved
    exact .found htarget hcontent hkept hencoded.tidy_eq hresolved hexported

/-- What an encoding has written stands unchanged in the place of a reference, or goes unchanged
to where it is exported: it is tidy, and it is resolved to itself, with no effect on the run.
The name of the encoding must stand for it when the target has been found, since processors
that run before may register others. So a reference to a binary file in base64 gives the bytes
that are on the disk, or those that the record has kept since they were read. -/
theorem emitReference_encoded
    (hencoding : attributes.encoding = some encoding.name)
    (hfind : ∀ target found,
      (findTarget (fetchBlock (resolveRecord (resolveText depth))) file marker attributes).run now =
        (.ok (some target), found) →
          found.session.registry.find? encoding.name = some encoding.processor)
    (hrun : (emitReference (resolveText depth) (fetchBlock (resolveRecord (resolveText depth)))
      bound file marker attributes).run now = (.ok out, after)) :
    Encodes (resolveText depth) (fetchBlock (resolveRecord (resolveText depth))) file marker
        attributes encoding now out after ∧
      ∀ record, RefersToFile now attributes record → record.isFile = true →
        record.isBinary = true → encoding = .base64 → attributes.slice = none →
        attributes.exportTarget = none →
          (record.state ≠ .done → ∃ bytes, now.disk.readBytes record.key.file = .ok bytes ∧
            out = Base64.encode bytes ∧ after.session.record? record.key =
              some { record with content := some (.bytes bytes), state := .done }) ∧
          (∀ bytes, record.state = .done → record.content = some (.bytes bytes) →
            out = Base64.encode bytes ∧ after.session = now.session) := by
  have hencodes := encodes_of_emitReference hencoding hfind hrun
  refine ⟨hencodes, fun record hrefers hfile hbinary hbase hslice hexport => ?_⟩
  subst hbase
  -- A binary target is not resolved: the content of the record is what is encoded.
  obtain ⟨content, log, found, hrecord, rfl, rfl⟩ : ∃ content log found,
      (resolveRecord (resolveText depth) record).run now = (.ok content, found) ∧
        out = Base64.encode content.asBytes ∧ after = { found with log } := by
    cases hencodes with
    | missing htarget =>
        obtain ⟨content, -, hnone⟩ := findTarget_file hrefers htarget
        cases hnone
    | found htarget hcontent hkept _ _ hexported =>
        obtain ⟨held, hrecord, htarget⟩ := findTarget_file hrefers htarget
        cases htarget
        simp only [processorInput, hbinary, if_true, Weave.pure_eq, Weave.run_done] at hcontent
        cases hcontent
        rw [keptPart, hslice] at hkept
        cases hkept
        cases hexported with
        | stays => exact ⟨_, _, _, hrecord, rfl, rfl⟩
        | variant htarget | file htarget | nowhere htarget => simp [hexport] at htarget
  constructor
  · intro hstate
    obtain ⟨bytes, hbytes, rfl, hknown⟩ := resolveRecord_bytes hfile hbinary hstate hrecord
    exact ⟨bytes, hbytes, rfl, hknown⟩
  · intro bytes hstate hcontent
    rw [resolveRecord_done hstate hcontent] at hrecord
    cases hrecord
    exact ⟨rfl, rfl⟩

end

namespace BinaryFile

def file : Text := ['/', 'a']

/-- The path of a binary file. -/
def path : Text := ['/', 'i']

def bytes : List UInt8 := [0, 16, 131]

def record : Record := { key := .ofFile path, isFile := true, isBinary := true }

/-- A run that knows the file and has not read it yet. -/
def run : Run where
  session := { options := {}, registry := Registry.encodings, records := [(record.key, record)] }
  disk := { nodes := [(path, .file bytes)] }

def attributes : Attributes where
  items := [(Attributes.fileName, ['i']), (Attributes.encodingName, Encoding.base64.name)]
  filePath := some path
  exportPath := none

/-- A reference to the file. -/
def marker : Marker where
  family := .block
  shape := .selfClosing
  tag := includeTag
  attrText := " file=\"i\" encoding=\"base64\"".toList
  openingClose := "/>*/".toList
  body := []
  closing := []
  offset := 0

theorem refersToFile : RefersToFile run attributes record where
  named := ⟨['i'], rfl, rfl, rfl⟩
  block := rfl
  path := rfl
  key := rfl
  known := rfl

end BinaryFile

section

open BinaryFile

/-- Three bytes of a file are four characters. -/
theorem emitReference_encoded_file :
    ∃ out after, (emitReference (resolveText 1) (fetchBlock (resolveRecord (resolveText 1))) 1 file
        marker attributes).run run = (.ok out, after) ∧
      out = Base64.encode bytes ∧ out = ['A', 'B', 'C', 'D'] := by
  have hencoding : attributes.encoding = some Encoding.base64.name := by rfl
  have hfind : ∀ target found,
      (findTarget (fetchBlock (resolveRecord (resolveText 1))) file marker attributes).run run =
        (.ok (some target), found) →
          found.session.registry.find? Encoding.base64.name = some Encoding.base64.processor := by
    intro target found hfound
    have hregistry : ((findTarget (fetchBlock (resolveRecord (resolveText 1))) file marker
        attributes).run run).2.session.registry = Registry.encodings := by
      rfl
    rw [hfound] at hregistry
    rw [hregistry]
    exact Encoding.base64.find?_encodings
  have hok : ((emitReference (resolveText 1) (fetchBlock (resolveRecord (resolveText 1))) 1 file
      marker attributes).run run).1 = .ok ['A', 'B', 'C', 'D'] := by
    decide +kernel
  obtain ⟨after, hrun⟩ : ∃ after, (emitReference (resolveText 1)
      (fetchBlock (resolveRecord (resolveText 1))) 1 file marker attributes).run run =
        (.ok ['A', 'B', 'C', 'D'], after) := ⟨_, Prod.ext hok rfl⟩
  obtain ⟨read, hread, hout, -⟩ := ((emitReference_encoded hencoding hfind hrun).2 record
    refersToFile rfl rfl rfl rfl rfl).1 (by decide)
  have hbytes : run.disk.readBytes path = .ok bytes := by rfl
  obtain rfl := Except.ok.inj (hbytes.symm.trans hread)
  exact ⟨_, after, hrun, hout, rfl⟩

end

end BlockWeave
