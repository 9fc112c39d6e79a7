import BlockWeave.Proofs.Include.Splicing
import BlockWeave.Proofs.Marker.Scan
import BlockWeave.Proofs.Marker.Writing
import BlockWeave.Proofs.Weaving.Alone

/-!
# Variants as a store

A text of plain pieces, of markers that export a value under a name, and of markers that give
the value of a name back is a program over a store: the pieces are carried out in the order
in which they stand, and a name gives the value that was exported last.

## Implementation notes

The meaning of a text is given by its history: what a name holds at a piece is read off the
pieces before it. The table of variants is compared with that history once
(`get?_stored`), and the run with the table (`run_pieces`).
-/

namespace BlockWeave.VariantStore

open Weaving

/-- A piece of a text that works with variants. -/
inductive Piece where
  /-- Plain text. -/
  | literal (text : Text)
  /-- A marker that exports a value. -/
  | exported (name value : Text)
  /-- A marker that imports a value. -/
  | imported (name : Text)
  deriving Repr, DecidableEq

/-- The name of a variant, with the hash sign. -/
def hashed (name : Text) : Text := '#' :: name

/-- Letters of ASCII. -/
def IsLetters (name : Text) : Prop :=
  ∀ c ∈ name, c.isAlpha = true

namespace Piece

/-- A piece as it is written. -/
def text : Piece → Text
  | literal text => text
  | exported name value =>
      ['/', '*', '<', 'r', 'e', 'p', 'l', 'a', 'c', 'e', ' ', 'e', 'x', 'p', 'o', 'r', 't', '=',
        '"'] ++ hashed name ++ ['"', '>', '*', '/'] ++ value ++
        ['/', '*', '<', '/', 'r', 'e', 'p', 'l', 'a', 'c', 'e', '>', '*', '/']
  | imported name =>
      ['/', '*', '<', 'i', 'n', 'c', 'l', 'u', 'd', 'e', ' ', 'f', 'i', 'l', 'e', '=', '"'] ++
        hashed name ++ ['"', '/', '>', '*', '/']

/-- Texts are plain, and names are made of letters. -/
def Proper : Piece → Prop
  | literal text => IsPlain text
  | exported name value => IsLetters name ∧ IsPlain value
  | imported name => IsLetters name

/-- The value that a piece exports under a name. -/
def export? (name : Text) : Piece → Option Text
  | exported other value => if hashed other = name then some value else none
  | literal _ | imported _ => none

/-- What stands in the place of a piece, where names have values. -/
def emits (value? : Text → Option Text) : Piece → Text
  | literal text => text
  | exported _ _ => []
  | imported name => (value? (hashed name)).getD []

end Piece

/-- The text of a list of pieces. -/
def sourceOf (pieces : List Piece) : Text :=
  pieces.flatMap Piece.text

/-- The value that was exported last under a name. -/
def lastExport (pieces : List Piece) (name : Text) : Option Text :=
  pieces.reverse.findSome? (Piece.export? name)

/-- What a name holds behind some pieces: the value that was exported last, or else the one
that it was preset to. -/
def holds (preset : Text → Option Text) (before : List Piece) (name : Text) : Option Text :=
  (lastExport before name).or (preset name)

/-- What pieces are replaced by that stand behind others. -/
def output (preset : Text → Option Text) (before : List Piece) : List Piece → Text
  | [] => []
  | piece :: pieces =>
      piece.emits (holds preset before) ++ output preset (before ++ [piece]) pieces

section History

variable {preset : Text → Option Text} {before : List Piece}

theorem lastExport_concat (pieces : List Piece) (piece : Piece) (name : Text) :
    lastExport (pieces ++ [piece]) name = (piece.export? name).or (lastExport pieces name) := by
  rw [lastExport, List.reverse_append, List.reverse_singleton, List.singleton_append,
    List.findSome?_cons]
  cases piece.export? name <;> rfl

/-- What names hold is plain, when all that is exported or preset is. -/
theorem isPlain_of_holds (hproper : ∀ piece ∈ before, piece.Proper)
    (hpreset : ∀ name text, preset name = some text → IsPlain text) {name text : Text}
    (h : holds preset before name = some text) : IsPlain text := by
  rcases Option.or_eq_some_iff.1 h with hlast | ⟨-, hname⟩
  · obtain ⟨piece, hpiece, hexport⟩ := List.exists_of_findSome?_eq_some hlast
    have hmem := hproper piece (List.mem_reverse.1 hpiece)
    cases piece with
    | literal _ => cases hexport
    | imported _ => cases hexport
    | exported other value =>
        simp only [Piece.export?] at hexport
        split at hexport
        · cases hexport
          exact hmem.2
        · cases hexport
  · exact hpreset name text hname

/-- The output is plain. -/
theorem isPlain_output (hbefore : ∀ piece ∈ before, piece.Proper) {pieces : List Piece}
    (hpieces : ∀ piece ∈ pieces, piece.Proper)
    (hpreset : ∀ name text, preset name = some text → IsPlain text) :
    IsPlain (output preset before pieces) := by
  induction pieces generalizing before with
  | nil => exact IsPlain.nil
  | cons piece pieces ih =>
      have hfirst := hpieces piece (by simp)
      have hnext : ∀ other ∈ before ++ [piece], other.Proper :=
        List.forall_mem_append.2 ⟨hbefore, List.forall_mem_singleton.2 hfirst⟩
      refine IsPlain.append ?_ (ih hnext fun other ho => hpieces other (by simp [ho]))
      cases piece with
      | literal text => exact hfirst
      | exported name value => exact IsPlain.nil
      | imported name =>
          rw [Piece.emits]
          cases hvalue : holds preset before (hashed name) with
          | none => exact IsPlain.nil
          | some text => exact isPlain_of_holds hbefore hpreset hvalue

end History

/-- The table of variants behind some pieces. -/
def stored (presets : Variants) (pieces : List Piece) : Variants :=
  pieces.foldl (fun variants piece =>
    match piece with
    | .exported name value => variants.put (hashed name) (.text value)
    | .literal _ | .imported _ => variants) presets

/-- The table holds for each name what its history says. -/
theorem get?_stored {presets : Variants} {preset : Text → Option Text}
    (hpresets : ∀ name, presets.get? name = (preset name).map Content.text)
    (pieces : List Piece) (name : Text) :
    (stored presets pieces).get? name = (holds preset pieces name).map Content.text := by
  induction pieces using List.reverseRecOn with
  | nil => exact hpresets name
  | append_singleton pieces piece ih =>
      rw [holds, lastExport_concat]
      rw [holds] at ih
      cases piece with
      | literal text => simpa [stored, Piece.export?] using ih
      | imported other => simpa [stored, Piece.export?] using ih
      | exported other value =>
          have hput : stored presets (pieces ++ [.exported other value]) =
              (stored presets pieces).put (hashed other) (.text value) := by
            simp [stored]
          rw [hput, Piece.export?]
          by_cases hname : hashed other = name
          · simp [hname]
          · rw [Table.get?_put_of_ne _ _ hname, ih]
            simp [hname]

section Markers

variable {name value label : Text}

/-- Letters are no characters that need a reference. -/
theorem encodeEntities_hashed (h : IsLetters name) :
    Text.encodeEntities (hashed name) = hashed name := by
  have hself (c : Char) (hc : c.isAlpha = true) : Text.entityFor c = [c] := by
    have hne (d : Char) (hd : d.isAlpha = false) : c ≠ d := by
      rintro rfl
      rw [hc] at hd
      cases hd
    rw [Text.entityFor, if_neg (hne '&' rfl), if_neg (hne '<' rfl), if_neg (hne '>' rfl),
      if_neg (hne Text.doubleQuote rfl), if_neg (hne Text.singleQuote rfl)]
  rw [Text.encodeEntities, hashed, List.flatMap_cons]
  have hname : name.flatMap Text.entityFor = name.flatMap fun c => [c] :=
    List.flatMap_congr fun c hc => hself c (h c hc)
  rw [hname, List.flatMap_singleton']
  rfl

/-- The attribute text that names a variant. -/
def variantText (label name : Text) : Text :=
  writtenAttributes [(label, hashed name)]

/-- The attributes of a marker that names a variant. -/
def variantAttributes (label name : Text) : Attributes where
  items := [(label, hashed name)]
  filePath := none
  exportPath := none

theorem writable_variant (hlabel : IsName label) (name : Text) :
    Writable [(label, hashed name)] := by
  intro pair hpair
  rw [List.mem_singleton.1 hpair]
  exact ⟨hlabel, by simp [hashed]⟩

/-- A variant is no file, whichever attribute names it. -/
theorem parse_variantText (hlabel : IsName label) (directory name : Text) :
    Attributes.parse directory (variantText label name) = .ok (variantAttributes label name) := by
  have hitems : Attributes.decodeItems (variantText label name) = .ok [(label, hashed name)] :=
    (writable_variant hlabel name).decodeItems
  have hfile (other : Text) : Attributes.resolveFile directory
      (Table.get? [(label, hashed name)] other) = .ok none := by
    by_cases hother : label = other
    · simp [Table.get?, hother, Attributes.resolveFile, isVariantName, hashed]
    · simp [Table.get?, hother, Attributes.resolveFile]
  simp only [Attributes.parse, hitems, hfile, bind, Except.bind, pure, Except.pure,
    variantAttributes]

namespace variantAttributes

theorem given?_self (label name : Text) :
    (variantAttributes label name).given? label = some (hashed name) := by
  simp [Attributes.given?, Attributes.get?, variantAttributes, Table.get?, hashed]

/-- No other attribute is given. -/
theorem given?_of_ne {other : Text} (h : label ≠ other) (name : Text) :
    (variantAttributes label name).given? other = none := by
  simp [Attributes.given?, Attributes.get?, variantAttributes, Table.get?, h]

theorem excludes (h : label ≠ Attributes.triggerName) (name : Text) (trigger : Option Text) :
    (variantAttributes label name).excludes trigger = false := by
  rw [Attributes.excludes, Attributes.trigger, given?_of_ne h]

end variantAttributes

/-- The marker that exports a value. -/
def exportMarker (name value : Text) (offset : Int) : Marker :=
  .pair .block Discovery.replaceTag (variantText Attributes.exportName name) value offset

/-- The marker that imports a value. -/
def importMarker (name : Text) (offset : Int) : Marker :=
  .single .block (variantText Attributes.fileName name) offset

theorem exportMarker_text (h : IsLetters name) (value : Text) (offset : Int) :
    (exportMarker name value offset).text = (Piece.exported name value).text := by
  rw [exportMarker, Marker.pair_text, variantText, writtenAttributes]
  simp [encodeEntities_hashed h, Piece.text, Family.opening, Family.ending,
    Family.closingMarker, Discovery.replaceTag, Attributes.exportName]

theorem importMarker_text (h : IsLetters name) (offset : Int) :
    (importMarker name offset).text = (Piece.imported name).text := by
  rw [importMarker, Marker.single_text, variantText, writtenAttributes]
  simp [encodeEntities_hashed h, Piece.text, Family.opening, Family.ending, includeTag,
    Attributes.fileName]

theorem isName_exportName : IsName Attributes.exportName :=
  ⟨List.cons_ne_nil _ _, List.all_eq_true.1 rfl⟩

theorem isName_fileName : IsName Attributes.fileName :=
  ⟨List.cons_ne_nil _ _, List.all_eq_true.1 rfl⟩

/-- A closing marker does not start in a plain text. -/
theorem length_le_of_isPlain {tag before after : Text} (h : IsPlain value)
    (he : value ++ Family.block.closingMarker tag =
      before ++ Family.block.closingMarker tag ++ after) : value.length ≤ before.length := by
  by_contra hlt
  have hbound : before.length < value.length := Nat.lt_of_not_le hlt
  have hchar : (value ++ Family.block.closingMarker tag)[before.length]? = some '/' := by
    rw [he, List.append_assoc, List.getElem?_append_right (Nat.le_refl _), Nat.sub_self]
    rfl
  rw [List.getElem?_append_left hbound] at hchar
  exact h.slash (List.mem_of_getElem? hchar)

theorem readMarker?_exportMarker (hvalue : IsPlain value) (name : Text) (offset : Int)
    (rest : Text) :
    readMarker? offset ((exportMarker name value offset).text ++ rest) =
      some (exportMarker name value offset) := by
  have hwritable := writable_variant isName_exportName name
  rw [exportMarker, variantText, writtenAttributes_eq]
  have htag : IsName Discovery.replaceTag := ⟨List.cons_ne_nil _ _, List.all_eq_true.1 rfl⟩
  exact readMarker?_markerPair hwritable.proper (spaced_written _) offset htag (by decide)
    (fun before after he => length_le_of_isPlain hvalue he) rest

theorem readMarker?_importMarker (name : Text) (offset : Int) (rest : Text) :
    readMarker? offset ((importMarker name offset).text ++ rest) =
      some (importMarker name offset) := by
  have hwritable := writable_variant isName_fileName name
  rw [importMarker, variantText, writtenAttributes_eq]
  exact readMarker?_selfClosing hwritable.proper offset rest

end Markers

/-- The markers of a text are those of its pieces, and name no file. -/
theorem mem_markers_sourceOf {pieces : List Piece} (hproper : ∀ piece ∈ pieces, piece.Proper)
    {offset : Int} {marker : Marker} (h : marker ∈ markers offset (sourceOf pieces)) :
    ∃ label name, IsName label ∧ marker.attrText = variantText label name ∧
      IsPlain marker.body := by
  induction pieces generalizing offset with
  | nil =>
      rw [sourceOf, List.flatMap_nil, markers_nil] at h
      cases h
  | cons piece pieces ih =>
      have hfirst := hproper piece (by simp)
      have hrest := @ih fun other ho => hproper other (by simp [ho])
      have hsource : sourceOf (piece :: pieces) = piece.text ++ sourceOf pieces := rfl
      rw [hsource] at h
      cases piece with
      | literal text =>
          rw [Piece.text, markers_plain hfirst] at h
          exact hrest h
      | exported name value =>
          rw [← exportMarker_text hfirst.1 value offset,
            markers_marker (readMarker?_exportMarker hfirst.2 name offset _), List.mem_cons] at h
          rcases h with rfl | h
          · exact ⟨_, name, isName_exportName, rfl, hfirst.2⟩
          · exact hrest h
      | imported name =>
          rw [← importMarker_text hfirst offset,
            markers_marker (readMarker?_importMarker name offset _), List.mem_cons] at h
          rcases h with rfl | h
          · exact ⟨_, name, isName_fileName, rfl, IsPlain.nil⟩
          · exact hrest h

/-- Nothing stands in a plain text. -/
theorem findings_of_isPlain {text : Text} (h : IsPlain text) (file : Text)
    (trigger : Option Text) (offset : Int) : Discovery.findings file trigger offset text = [] := by
  have hmarkers : markers offset text = [] := by
    have hplain := markers_plain h offset []
    rwa [List.append_nil, markers_nil] at hplain
  rw [Discovery.findings_eq, hmarkers, List.flatMap_nil]

/-- Such a text refers to no file. -/
theorem refersNowhere_sourceOf {pieces : List Piece} (hproper : ∀ piece ∈ pieces, piece.Proper)
    (file : Text) (trigger : Option Text) :
    Discovery.RefersNowhere file trigger (sourceOf pieces) := by
  intro found hfound
  rw [Discovery.findings_eq, List.mem_flatMap] at hfound
  obtain ⟨marker, hmarker, hat⟩ := hfound
  obtain ⟨label, name, hlabel, hattr, hbody⟩ := mem_markers_sourceOf hproper hmarker
  simp only [Discovery.findingsAt, hattr, parse_variantText hlabel] at hat
  split at hat
  · cases hat
  · rw [findings_of_isPlain hbody, List.mem_singleton] at hat
    refine ⟨_, hat, ?_⟩
    simp only [Discovery.Finding.target?]
    exact ite_self _

/-- The options of a build that keeps texts and markers as they are. -/
structure Keeps (options : Options) (removed : List Text) : Prop where
  tidies : options.tidies = false
  removeList : options.removeList = .ok removed
  includes : includeTag ∉ removed
  replaces : Discovery.replaceTag ∉ removed

/-- A run goes on with other variants, and with the options, the chain and the records that
it has. -/
structure Goes (now : Run) (variants : Variants) (after : Run) : Prop where
  options_eq : after.session.options = now.session.options
  chain_eq : after.session.chain = now.session.chain
  records_eq : after.session.records = now.session.records
  variants_eq : after.session.variants = variants

theorem Goes.trans {now mid after : Run} {variants others : Variants} (h : Goes now variants mid)
    (h' : Goes mid others after) : Goes now others after :=
  ⟨h'.options_eq.trans h.options_eq, h'.chain_eq.trans h.chain_eq,
    h'.records_eq.trans h.records_eq, h'.variants_eq⟩

section Run

variable {now : Run} {removed : List Text} {resolve : Resolver} {fetch : Fetcher} {depth : Nat}
  {file name value label : Text}

/-- A marker that names a variant is a reference. -/
theorem run_emitMarker {marker : Marker} (htag : marker.tag ∈ Discovery.referenceTags)
    (hkept : marker.tag ∉ removed) (hlabel : IsName label)
    (htrigger : label ≠ Attributes.triggerName) (hattr : marker.attrText = variantText label name) :
    (emitMarker resolve fetch depth file removed marker).run now =
      (emitReference resolve fetch depth file marker (variantAttributes label name)).run now := by
  have hcontains : removed.contains marker.tag = false := by simpa using hkept
  have hreference : Discovery.referenceTags.contains marker.tag = true := by simpa using htag
  simp only [emitMarker, hcontains, hattr, parse_variantText hlabel,
    variantAttributes.excludes htrigger, hreference, Weave.ofExcept, Weave.bind_eq, Weave.bind,
    Weave.options, Weave.read, Weave.run, Bool.false_eq_true, if_false, if_true]

/-- A reference to plain text without a processor and a slice emits or exports the text. -/
theorem run_emitReference {marker : Marker} {text : Text}
    (hencoding : label ≠ Attributes.encodingName) (hslice : label ≠ Attributes.sliceName)
    (htidies : now.session.options.tidies = false)
    (htarget : (findTarget fetch file marker (variantAttributes label name)).run now =
      (.ok (some { content := .text text }), now))
    (hresolve : (resolve file text).run now = (.ok text, now)) :
    (emitReference resolve fetch depth file marker (variantAttributes label name)).run now =
      (exportText now.session.options (variantAttributes label name) text).run now := by
  have hprocessor : (applyProcessor resolve depth file marker (variantAttributes label name)
      { content := .text text }).run now = (.ok (.text text), now) := by
    simp only [applyProcessor, Attributes.encoding, variantAttributes.given?_of_ne hencoding,
      Option.bind_none, Weave.registry, Weave.bind_eq, Weave.read, Weave.bind, Weave.run,
      Weave.pure_eq]
  have hwhole : applySlice (variantAttributes label name) (.text text) = .done (.text text) := by
    simp only [applySlice, Attributes.slice, variantAttributes.given?_of_ne hslice, Weave.pure_eq]
  simp only [emitReference, Weave.options, Weave.bind_eq, Weave.read, Weave.bind, Weave.run]
  rw [Weave.run_bind_of_ok htarget, Weave.run_bind_of_ok hprocessor]
  simp only [hwhole, Weave.bind, Content.toText, Weave.ofExcept, htidies, Bool.false_eq_true,
    if_false]
  rw [Weave.run_bind_of_ok hresolve]

section Emit

variable (hkeeps : Keeps now.session.options removed)
include hkeeps

theorem run_resolveText_plain {text : Text} (htext : IsPlain text) :
    (resolveText (depth + 1) file text).run now = (.ok text, now) :=
  Include.run_weaveText_of_isPlain hkeeps.removeList _ _ _ file htext

/-- An export puts its value into the table and emits nothing. -/
theorem run_exportMarker (hvalue : IsPlain value) (name : Text) (offset : Int) {bound : Nat} :
    ∃ after, (emitMarker (resolveText (depth + 1)) fetch bound file removed
        (exportMarker name value offset)).run now = (.ok [], after) ∧
      Goes now (now.session.variants.put (hashed name) (.text value)) after := by
  have htarget : (findTarget fetch file (exportMarker name value offset)
      (variantAttributes Attributes.exportName name)).run now =
        (.ok (some { content := .text value }), now) := by
    simp only [findTarget, Attributes.file, Attributes.block,
      variantAttributes.given?_of_ne (show Attributes.exportName ≠ Attributes.fileName by decide),
      variantAttributes.given?_of_ne (show Attributes.exportName ≠ Attributes.blockName by decide),
      Option.bind_none, Weave.variants, Weave.bind_eq, Weave.read, Weave.bind, Weave.run]
    rfl
  have htag : Discovery.replaceTag ∈ Discovery.referenceTags := by decide
  rw [run_emitMarker htag hkeeps.replaces isName_exportName (by decide) rfl,
    run_emitReference (by decide) (by decide) hkeeps.tidies htarget
      (run_resolveText_plain hkeeps hvalue)]
  simp only [exportText, Attributes.exportTarget, variantAttributes.given?_self]
  exact ⟨_, rfl, rfl, rfl, rfl, rfl⟩

/-- An import emits the value of its name, and nothing where the name has none. -/
theorem run_importMarker {held : Option Text}
    (hheld : now.session.variants.get? (hashed name) = held.map Content.text)
    (hplain : ∀ text, held = some text → IsPlain text) (offset : Int) {bound : Nat} :
    ∃ after, (emitMarker (resolveText (depth + 1)) fetch bound file removed
        (importMarker name offset)).run now = (.ok (held.getD []), after) ∧
      Goes now now.session.variants after := by
  have hfile : (variantAttributes Attributes.fileName name).file = some (hashed name) :=
    variantAttributes.given?_self _ _
  have htag : includeTag ∈ Discovery.referenceTags := by decide
  rw [run_emitMarker htag hkeeps.includes isName_fileName (by decide) rfl]
  cases held with
  | none =>
      have htarget : ∃ after, (findTarget fetch file (importMarker name offset)
          (variantAttributes Attributes.fileName name)).run now = (.ok none, after) ∧
            Goes now now.session.variants after := by
        simp only [findTarget, hfile, Option.bind_some, hheld, Weave.variants, Weave.bind_eq,
          Weave.read, Weave.bind, Weave.run]
        exact ⟨_, rfl, rfl, rfl, rfl, rfl⟩
      obtain ⟨after, htarget, hgoes⟩ := htarget
      refine ⟨after, ?_, hgoes⟩
      simp only [emitReference, Weave.options, Weave.bind_eq, Weave.read, Weave.bind, Weave.run]
      rw [Weave.run_bind_of_ok htarget]
      rfl
  | some text =>
      have htarget : (findTarget fetch file (importMarker name offset)
          (variantAttributes Attributes.fileName name)).run now =
            (.ok (some { content := .text text }), now) := by
        simp only [findTarget, hfile, Option.bind_some, hheld, Weave.variants, Weave.bind_eq,
          Weave.read, Weave.bind, Weave.run]
        rfl
      refine ⟨now, ?_, rfl, rfl, rfl, rfl⟩
      rw [run_emitReference (by decide) (by decide) hkeeps.tidies htarget
        (run_resolveText_plain hkeeps (hplain text rfl))]
      simp only [exportText, Attributes.exportTarget,
        variantAttributes.given?_of_ne
          (show Attributes.fileName ≠ Attributes.exportName by decide)]
      rfl

end Emit
end Run

section Pieces

variable {presets : Variants} {preset : Text → Option Text}
  (hpresets : ∀ name, presets.get? name = (preset name).map Content.text)
  (hplain : ∀ name text, preset name = some text → IsPlain text)
include hpresets hplain

/-- A piece emits its text, behind others that have been carried out, and the rest follows. -/
theorem run_piece {removed : List Text} {fetch : Fetcher} {depth bound : Nat} {file : Text}
    {before : List Piece} (hbefore : ∀ piece ∈ before, piece.Proper) {piece : Piece}
    (hpiece : piece.Proper) {now : Run} (hkeeps : Keeps now.session.options removed)
    (hvariants : now.session.variants = stored presets before) (offset : Int) (rest : Text) :
    ∃ emitted mid place,
      replaceMarkers (emitMarker (resolveText (depth + 1)) fetch bound file removed) offset
          (piece.text ++ rest) =
        (Weave.bind emitted fun text =>
          (replaceMarkers (emitMarker (resolveText (depth + 1)) fetch bound file removed) place
            rest).bind fun out => .done (text ++ out)) ∧
      emitted.run now = (.ok (piece.emits (holds preset before)), mid) ∧
      Goes now (stored presets (before ++ [piece])) mid := by
  cases piece with
  | literal text =>
      refine ⟨.done text, now, _, replaceMarkers_plain _ hpiece offset rest, rfl, rfl, rfl, rfl, ?_⟩
      rw [hvariants]
      simp [stored]
  | exported name value =>
      obtain ⟨mid, hrun, hmid⟩ := run_exportMarker hkeeps hpiece.2 name offset
      rw [← exportMarker_text hpiece.1 value offset,
        replaceMarkers_marker _ (readMarker?_exportMarker hpiece.2 name offset _)]
      refine ⟨_, mid, _, rfl, hrun, ?_⟩
      rw [hvariants] at hmid
      simpa [stored] using hmid
  | imported name =>
      have hheld := get?_stored hpresets before (hashed name)
      rw [← hvariants] at hheld
      obtain ⟨mid, hrun, hmid⟩ := run_importMarker hkeeps hheld
        (fun text htext => isPlain_of_holds hbefore hplain htext) offset
      rw [← importMarker_text hpiece offset,
        replaceMarkers_marker _ (readMarker?_importMarker name offset _)]
      refine ⟨_, mid, _, rfl, hrun, ?_⟩
      rw [hvariants] at hmid
      simpa [stored] using hmid

/-- Pieces are carried out in order, behind others that have been. -/
theorem run_pieces {removed : List Text} {fetch : Fetcher} {depth bound : Nat} {file : Text}
    {before pieces : List Piece} (hbefore : ∀ piece ∈ before, piece.Proper)
    (hpieces : ∀ piece ∈ pieces, piece.Proper) {now : Run}
    (hkeeps : Keeps now.session.options removed)
    (hvariants : now.session.variants = stored presets before) (offset : Int) :
    ∃ after, (replaceMarkers (emitMarker (resolveText (depth + 1)) fetch bound file removed) offset
        (sourceOf pieces)).run now = (.ok (output preset before pieces), after) ∧
      Goes now (stored presets (before ++ pieces)) after := by
  induction pieces generalizing before now offset with
  | nil =>
      refine ⟨now, ?_, rfl, rfl, rfl, ?_⟩
      · rw [sourceOf, List.flatMap_nil, replaceMarkers_nil]
        rfl
      · rw [List.append_nil, hvariants]
  | cons piece pieces ih =>
      have hfirst := hpieces piece (by simp)
      have hrest : ∀ other ∈ pieces, other.Proper := fun other ho => hpieces other (by simp [ho])
      have hnext : ∀ other ∈ before ++ [piece], other.Proper :=
        List.forall_mem_append.2 ⟨hbefore, List.forall_mem_singleton.2 hfirst⟩
      have hsource : sourceOf (piece :: pieces) = piece.text ++ sourceOf pieces := rfl
      have hsplit : before ++ piece :: pieces = before ++ [piece] ++ pieces := by simp
      obtain ⟨emitted, mid, place, hreplace, hemitted, hmid⟩ :=
        @run_piece presets preset hpresets hplain removed fetch depth bound file before hbefore
          piece hfirst now hkeeps hvariants offset (sourceOf pieces)
      obtain ⟨after, hrun, hafter⟩ := ih hnext hrest (hmid.options_eq ▸ hkeeps) hmid.variants_eq
        place
      refine ⟨after, ?_, hsplit ▸ hmid.trans hafter⟩
      rw [hsource, hreplace, Weave.run_bind_of_ok hemitted, Weave.run_bind_of_ok hrun]
      rfl

/-- The text of pieces is resolved to their output. -/
theorem run_resolveText {removed : List Text} {pieces : List Piece} {now : Run} {file : Text}
    (hpieces : ∀ piece ∈ pieces, piece.Proper) (hkeeps : Keeps now.session.options removed)
    (hvariants : now.session.variants = presets) (depth : Nat) :
    ∃ after, (resolveText (depth + 2) file (sourceOf pieces)).run now =
        (.ok (output preset [] pieces), after) ∧ Goes now (stored presets pieces) after := by
  have hnone : ∀ piece ∈ ([] : List Piece), piece.Proper := by simp
  obtain ⟨after, hrun, hafter⟩ :=
    @run_pieces presets preset hpresets hplain removed
      (fetchBlock (resolveRecord (resolveText (depth + 1)))) depth (depth + 1) file [] pieces hnone
      hpieces now hkeeps hvariants 0
  have hweave := run_weaveText hkeeps.removeList hrun
  rw [Shorthand.expand_plain (isPlain_output hnone hpieces hplain)] at hweave
  exact ⟨after, hweave, hafter⟩

end Pieces

/-- Variants are a store in the order of the text. For a file made of plain texts, of
exports and of imports, with presets that are plain as well: the build is the plain texts,
with nothing for each export, and for each import the value that was exported last before
it, or else the preset, or else nothing. Behind the build, each name has the value that was
exported last, or else its preset, and the presets themselves are as they were. -/
theorem build_stores {pieces : List Piece} (hpieces : ∀ piece ∈ pieces, piece.Proper)
    {builder : Builder} {preset : Text → Option Text}
    (hpresets : ∀ name, builder.presets.get? name = (preset name).map Content.text)
    (hplain : ∀ name text, preset name = some text → IsPlain text) {options : Options}
    {removed : List Text} (hkeeps : Keeps options removed) {directory path entry : Text}
    (hpath : Path.resolve directory path = .ok entry) {workspace : Workspace}
    (htext : options.treatsAsBinary entry = .ok false)
    (hread : workspace.disk.readText options.fileCharset entry = .ok (sourceOf pieces))
    (depth : Nat) :
    ∃ after surroundings,
      builder.build (depth + 2) directory path options workspace =
        (.ok (output preset [] pieces), after, surroundings) ∧
      (∀ name, after.variant? name = ((lastExport pieces name).or (preset name)).map .text) ∧
      after.presets = builder.presets := by
  have hreading : Discovery.reading options workspace.disk entry =
      .ok (.text (sourceOf pieces)) := by
    simp [Discovery.reading, Disk.exists?_of_readText hread, htext, hread, hkeeps.tidies, bind,
      Except.bind, pure, Except.pure]
  obtain ⟨last, hbuild, hvariants⟩ := @Builder.build_alone builder directory path entry _
    (output preset [] pieces) options workspace (depth + 2) removed
    (stored builder.presets pieces) hpath hkeeps.removeList hreading
    (refersNowhere_sourceOf hpieces entry options.activeTrigger) fun now hnow => by
      obtain ⟨mid, hrun, hmid⟩ := @run_resolveText _ _ hpresets hplain removed pieces now entry
        hpieces (hnow.options ▸ hkeeps) hnow.variants depth
      exact ⟨mid, hrun, hmid.chain_eq, hmid.records_eq, hmid.variants_eq⟩
  rw [hkeeps.tidies, if_neg Bool.false_ne_true] at hbuild
  refine ⟨{ builder with last := some last.session.reset }, { disk := last.disk, log := last.log },
    hbuild, ?_, rfl⟩
  intro name
  have hstored := get?_stored hpresets pieces name
  simp only [Builder.variant?, Session.reset, Option.bind_some, hvariants, hstored, hpresets]
  rw [← holds]
  cases hheld : holds preset pieces name with
  | some text => rfl
  | none =>
      rw [holds, Option.or_eq_none_iff] at hheld
      rw [hheld.2]
      rfl

namespace Sample

/-- A name is asked for before and after it gets a value, and another one never gets any. -/
def pieces : List Piece :=
  [.imported ['a'], .exported ['a'] ['x'], .literal ['-'], .imported ['a'], .imported ['b']]

def disk : Disk := { nodes := [(['/', 'f'], .file (Utf8.encode (sourceOf pieces)))] }

/-- Presets for the one name. -/
def preset (name : Text) : Option Text := if name = hashed ['a'] then some ['p'] else none

def builder : Builder :=
  { registry := Registry.encodings, presets := [(hashed ['a'], .text ['p'])] }

def options : Options := { clean := .bool false }

theorem proper : ∀ piece ∈ pieces, piece.Proper := by
  have hletter (c : Char) (hc : c.isAlpha = true) : IsLetters [c] := by
    intro d hd
    exact List.mem_singleton.1 hd ▸ hc
  have hplain (c : Char) (h : c ≠ '<' ∧ c ≠ '/' ∧ c ≠ '*') : IsPlain [c] :=
    ⟨by simpa using h.1.symm, by simpa using h.2.1.symm, by simpa using h.2.2.symm⟩
  intro piece hpiece
  simp only [pieces, List.mem_cons, List.not_mem_nil, or_false] at hpiece
  rcases hpiece with rfl | rfl | rfl | rfl | rfl
  · exact hletter 'a' rfl
  · exact ⟨hletter 'a' rfl, hplain 'x' (by decide)⟩
  · exact hplain '-' (by decide)
  · exact hletter 'a' rfl
  · exact hletter 'b' rfl

theorem presets_eq (name : Text) :
    builder.presets.get? name = (preset name).map Content.text := by
  by_cases h : name = hashed ['a']
  · simp [builder, preset, Table.get?, h]
  · simp [builder, preset, Table.get?, h, Ne.symm h]

theorem preset_plain (name text : Text) (h : preset name = some text) : IsPlain text := by
  simp only [preset] at h
  split at h
  · cases h
    exact ⟨by decide, by decide, by decide⟩
  · cases h

theorem keeps : Keeps options [['d', 'e', 'b', 'u', 'g'], ['t', 'e', 's', 't']] :=
  ⟨rfl, by rfl, by decide, by decide⟩

end Sample

theorem build_stores_sample :
    ∃ after surroundings,
      Sample.builder.build 2 ['/'] ['f'] Sample.options { disk := Sample.disk } =
        (.ok ['p', '-', 'x'], after, surroundings) ∧
      after.variant? (hashed ['a']) = some (.text ['x']) ∧
      after.presets = Sample.builder.presets := by
  obtain ⟨after, surroundings, hbuild, hvariant, hpresets⟩ := @build_stores Sample.pieces
    Sample.proper Sample.builder Sample.preset Sample.presets_eq Sample.preset_plain
    Sample.options _ Sample.keeps ['/'] ['f'] ['/', 'f'] (by rfl) { disk := Sample.disk }
    (by decide +kernel) (by decide +kernel) 0
  exact ⟨after, surroundings, hbuild, hvariant _, hpresets⟩

end BlockWeave.VariantStore
