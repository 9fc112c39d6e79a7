import BlockWeave.Proofs.Include.Loading
import BlockWeave.Proofs.Weaving.Expansion
import Mathlib.Data.List.Nodup
import Mathlib.Data.List.Perm.Subperm

/-!
# Building files that include each other

A build resolves the files of a directory depth first, and the stack of files in
progress is a path of references from the entry. Whatever is done is the expansion of
its file; a file that is asked for while it stands on the stack closes a cycle.

## Implementation notes

Files on the stack are different files of the set, so the stack is never higher than the
set is large. A bound that is greater than this number is never reached, which leaves
cycles as the only failures.
-/

namespace BlockWeave.Include

open Relation Weaving

/-- A run in which all files that can be reached from an entry have been loaded. -/
structure Ready (directory : Directory) (set : FileSet) (entry : Text) (start : Run) : Prop where
  fresh : start.session.Fresh
  options : Literally start.session.options
  variants : ∀ name, IsFileName name → start.session.variants.get? name = none
  isFileName : IsFileName entry
  records : ∀ name, ReflTransGen set.Refers entry name →
    start.session.record? (.ofFile (directory.path name)) = some (fileRecord directory set name)

/-- A stage of a build: the files on the stack are in progress, and what is done is the
expansion of its file. -/
structure Stage (directory : Directory) (set : FileSet) (entry : Text) (start : Run)
    (stack : List Text) (now : Run) : Prop where
  alike : Alike start now
  chain : now.session.chain = stack.map fun name => .ofFile (directory.path name)
  inProgress : ∀ name record, ReflTransGen set.Refers entry name →
    now.session.record? (.ofFile (directory.path name)) = some record →
      (record.state = .inProgress ↔ name ∈ stack)
  done : ∀ name record, ReflTransGen set.Refers entry name →
    now.session.record? (.ofFile (directory.path name)) = some record → record.state = .done →
      ∃ text, record.content = some (.text text) ∧ set.Expands name text

/-- A program ends with a result as it should be, or with a cycle. -/
def Ends (directory : Directory) (set : FileSet) (entry : Text) (start : Run)
    (stack : List Text) {α : Type} (m : Weave α) (P : α → Prop) (now : Run) : Prop :=
  (∃ a after, m.run now = (.ok a, after) ∧ Stage directory set entry start stack after ∧ P a) ∨
    ∃ key chain after, m.run now = (.error (.circular key chain), after) ∧ set.Cyclic entry

section Stages

variable {directory : Directory} {set : FileSet} {entry : Text} {start now : Run}
  {stack : List Text}

namespace Ends

variable {α β : Type}

theorem done (h : Stage directory set entry start stack now) {P : α → Prop} {a : α} (ha : P a) :
    Ends directory set entry start stack (.done a) P now :=
  Or.inl ⟨a, now, rfl, h, ha⟩

theorem bind {m : Weave α} {k : α → Weave β} {P : α → Prop} {Q : β → Prop}
    (hm : Ends directory set entry start stack m P now)
    (hk : ∀ a mid, Stage directory set entry start stack mid → P a →
      Ends directory set entry start stack (k a) Q mid) :
    Ends directory set entry start stack (m.bind k) Q now := by
  rcases hm with ⟨a, mid, hrun, hmid, ha⟩ | ⟨key, chain, after, hrun, hcycle⟩
  · rw [Ends, Weave.run_bind_of_ok hrun]
    exact hk a mid hmid ha
  · exact Or.inr ⟨key, chain, after, Weave.run_bind_of_error hrun, hcycle⟩

theorem congr {m m' : Weave α} {P : α → Prop} (he : m.run now = m'.run now)
    (h : Ends directory set entry start stack m P now) :
    Ends directory set entry start stack m' P now := by
  rw [Ends, ← he]
  exact h

end Ends

theorem Ready.isFileName_of_reach (hready : Ready directory set entry start) {name : Text}
    (hreach : ReflTransGen set.Refers entry name) : IsFileName name := by
  cases hreach with
  | refl => exact hready.isFileName
  | tail _ hrefers => exact FileSet.isFileName_of_refers hrefers

namespace Stage

variable {name : Text}

theorem options (h : Stage directory set entry start stack now)
    (hready : Ready directory set entry start) : Literally now.session.options :=
  h.alike.setting.options ▸ hready.options

theorem variants (h : Stage directory set entry start stack now)
    (hready : Ready directory set entry start) (hname : IsFileName name) :
    now.session.variants.get? name = none :=
  h.alike.setting.variants ▸ hready.variants name hname

/-- The first stage, with nothing in progress. -/
theorem of_ready (hready : Ready directory set entry start) :
    Stage directory set entry start [] start := by
  constructor
  case alike => exact Alike.refl start
  case chain => exact hready.fresh.chain
  case inProgress =>
    intro name record _ hr
    simp [(hready.fresh.records _ record hr).state_eq]
  case done =>
    intro name record _ hr hdone
    rw [(hready.fresh.records _ record hr).state_eq] at hdone
    cases hdone

/-- Every file that can be reached has a record, and its findings are known. -/
theorem exists_record (h : Stage directory set entry start stack now)
    (hready : Ready directory set entry start) (hreach : ReflTransGen set.Refers entry name) :
    ∃ record, now.session.record? (.ofFile (directory.path name)) = some record ∧
      record.found = fileRecord directory set name :=
  h.alike.exists_record (hready.records name hreach)

/-- The record of a file is stored, and the stack changes for this file alone. -/
theorem store (h : Stage directory set entry start stack now)
    (hready : Ready directory set entry start) (hreach : ReflTransGen set.Refers entry name)
    {after : Run} {old record : Record} {others : List Text}
    (hstored : Stored now record (others.map fun name => .ofFile (directory.path name)) after)
    (hkey : record.key = .ofFile (directory.path name))
    (hold : now.session.record? record.key = some old) (hfound : record.found = old.found)
    (hstack : ∀ other, other ≠ name → (other ∈ others ↔ other ∈ stack))
    (hprogress : record.state = .inProgress ↔ name ∈ others)
    (hdone : record.state = .done →
      ∃ text, record.content = some (.text text) ∧ set.Expands name text) :
    Stage directory set entry start others after := by
  have hcases {other : Text} {found : Record} (hother : ReflTransGen set.Refers entry other)
      (hr : after.session.record? (.ofFile (directory.path other)) = some found) :
      (other = name ∧ found = record) ∨
        (other ≠ name ∧ now.session.record? (.ofFile (directory.path other)) = some found) := by
    rcases hstored.record?_cases hr with ⟨hpath, rfl⟩ | ⟨hne, hr⟩
    · rw [hkey] at hpath
      have hname := directory.path_inj (hready.isFileName_of_reach hreach)
        (hready.isFileName_of_reach hother) (congrArg BlockKey.file hpath)
      exact Or.inl ⟨hname.symm, rfl⟩
    · refine Or.inr ⟨?_, hr⟩
      rintro rfl
      exact hne hkey
  constructor
  case alike => exact h.alike.store hstored hold hfound
  case chain => exact hstored.chain_eq
  case inProgress =>
    intro other found hother hr
    rcases hcases hother hr with ⟨rfl, rfl⟩ | ⟨he, hr⟩
    · exact hprogress
    · rw [hstack other he]
      exact h.inProgress other found hother hr
  case done =>
    intro other found hother hr
    rcases hcases hother hr with ⟨rfl, rfl⟩ | ⟨-, hr⟩
    · exact hdone
    · exact h.done other found hother hr

/-- A file that is not in progress goes on top of the stack. -/
theorem enter (h : Stage directory set entry start stack now)
    (hready : Ready directory set entry start) (hreach : ReflTransGen set.Refers entry name)
    {record : Record} (hkey : record.key = .ofFile (directory.path name))
    (hr : now.session.record? record.key = some record) (hstate : record.state ≠ .inProgress) :
    ∃ entered, (Action.enter record).perform now = (.ok (), entered) ∧
      Stage directory set entry start (stack ++ [name]) entered := by
  obtain ⟨entered, henter, hstored⟩ := Action.perform_enter now hstate
  have hchain : now.session.chain ++ [record.key] =
      (stack ++ [name]).map fun name => .ofFile (directory.path name) := by
    simp [h.chain, hkey]
  rw [hchain] at hstored
  refine ⟨entered, henter, h.store hready hreach hstored hkey hr rfl ?_ (by simp) (by simp)⟩
  intro other he
  simp [he]

/-- A file on top of the stack gets its content. -/
theorem leave (h : Stage directory set entry start (stack ++ [name]) now)
    (hready : Ready directory set entry start) (hreach : ReflTransGen set.Refers entry name)
    (hnew : name ∉ stack) {record : Record} (hkey : record.key = .ofFile (directory.path name))
    (hrecord : now.session.record? record.key = some record) {text : Text}
    (htext : set.Expands name text) :
    ∃ after, (Action.leave record (.text text)).perform now = (.ok (), after) ∧
      Stage directory set entry start stack after := by
  have hlast : now.session.chain =
      (stack.map fun name => BlockKey.ofFile (directory.path name)) ++ [record.key] := by
    simp [h.chain, hkey]
  have hstate : record.state = .inProgress :=
    (h.inProgress name record hreach (hkey ▸ hrecord)).2 (by simp)
  obtain ⟨after, hleave, hstored⟩ :=
    Action.perform_leave hlast (show record.state ≠ .done by simp [hstate]) (.text text)
  refine ⟨after, hleave, h.store hready hreach hstored hkey hrecord rfl ?_ (by simp [hnew]) ?_⟩
  · intro other he
    simp [he]
  · exact fun _ => ⟨text, rfl, htext⟩

end Stage

/-- A plain text is resolved to itself. -/
theorem run_weaveText_of_isPlain {removed : List Text}
    (hremoved : now.session.options.removeList = .ok removed) (resolve : Resolver)
    (fetch : Fetcher) (depth : Nat) (file : Text) {text : Text} (htext : IsPlain text) :
    (weaveText resolve fetch depth file text).run now = (.ok text, now) := by
  have hreplace (handler : Marker → Weave Text) : replaceMarkers handler 0 text = .done text := by
    have hplain := replaceMarkers_plain handler htext 0 []
    simpa [replaceMarkers_nil, Weave.bind] using hplain
  simp only [weaveText_eq, Weave.run_bind, Weave.options, Weave.run_read, hremoved,
    Weave.ofExcept, Weave.run_done, hreplace, Shorthand.expand_plain htext]

theorem run_weaveText_plain (hoptions : Literally now.session.options) (resolve : Resolver)
    (fetch : Fetcher) (depth : Nat) (file : Text) {text : Text} (htext : IsPlain text) :
    (weaveText resolve fetch depth file text).run now = (.ok text, now) := by
  obtain ⟨removed, hremoved, -⟩ := hoptions.removes
  exact run_weaveText_of_isPlain hremoved resolve fetch depth file htext

section Marker

variable {resolve : Resolver} {fetch : Fetcher} {depth : Nat} {removed : List Text}
  {file name : Text} {place : Int}

/-- A marker that includes a file is a reference to the block of the whole file. -/
theorem run_emitMarker (hremoved : includeTag ∉ removed) (hname : IsFileName name)
    (hparent : Path.parent file = Path.absolute directory.parts) :
    (emitMarker resolve fetch depth file removed (includeMarker name place)).run now =
      (emitReference resolve fetch depth file (includeMarker name place)
        (includeAttributes directory.parts name)).run now := by
  have htag : removed.contains (includeMarker name place).tag = false := by
    simpa [includeMarker] using hremoved
  have hparse := parse_includeMarker directory.isPart hname place
  have hreference : Discovery.referenceTags.contains (includeMarker name place).tag = true := rfl
  simp only [emitMarker, htag, hparent, hparse, includeAttributes.excludes, hreference,
    Weave.ofExcept, Weave.bind_eq, Weave.bind, Weave.options, Weave.read, Weave.run,
    Bool.false_eq_true, if_false, if_true]

/-- The target of a reference to a whole file is what is found for the file. -/
theorem run_findTarget (hvariants : now.session.variants.get? name = none)
    (hname : IsFileName name) :
    (findTarget fetch file (includeMarker name place)
        (includeAttributes directory.parts name)).run now =
      ((fetch (.ofFile (directory.path name))).bind fun found => .done (found.map fun block =>
        { content := block.1, isBinary := block.2, blockFile := some (directory.path name) })).run
          now := by
  have hblock : (includeAttributes directory.parts name).filePath = some (directory.path name) :=
    rfl
  simp only [findTarget, includeAttributes.file directory.parts hname,
    includeAttributes.block, hblock, Weave.variants, Weave.bind_eq, Weave.read, Weave.bind,
    Weave.run, Option.bind_some, hvariants, Option.isNone_some, Bool.false_eq_true, false_and,
    if_false, Option.any_some, hname.not_isVariantName, Option.getD_some, Option.getD_none,
    BlockKey.ofFile]
  rw [Weave.run_bind, Weave.run_bind]
  cases (fetch ⟨directory.path name, []⟩).run now with
  | mk result mid =>
      cases result with
      | error e => rfl
      | ok found =>
          cases found with
          | none => rfl
          | some block => rfl

/-- Without a processor the content of a target stays. -/
theorem run_applyProcessor (target : Target) :
    (applyProcessor resolve depth file (includeMarker name place)
      (includeAttributes directory.parts name) target).run now = (.ok target.content, now) := by
  simp only [applyProcessor, includeAttributes.encoding, Option.bind_none, Weave.registry,
    Weave.bind_eq, Weave.read, Weave.bind, Weave.run, Weave.pure_eq]

/-- A marker that includes a file is replaced by the text of the file, which is resolved
again. -/
theorem run_emitReference_fetched {mid : Run} {text : Text}
    (hvariants : now.session.variants.get? name = none) (hname : IsFileName name)
    (hfetch : (fetch (.ofFile (directory.path name))).run now =
      (.ok (some (.text text, false)), mid)) :
    (emitReference resolve fetch depth file (includeMarker name place)
        (includeAttributes directory.parts name)).run now =
      (resolve file (if now.session.options.tidies then Text.tidy text else text)).run mid := by
  have htarget : (findTarget fetch file (includeMarker name place)
      (includeAttributes directory.parts name)).run now = (.ok (some
        { content := .text text, isBinary := false,
          blockFile := some (directory.path name) }), mid) := by
    rw [run_findTarget hvariants hname, Weave.run_bind_of_ok hfetch]
    rfl
  have hslice (content : Content) :
      applySlice (includeAttributes directory.parts name) content = .done content := by
    simp only [applySlice, includeAttributes.slice, Weave.pure_eq]
  have hexport (options : Options) (text : Text) :
      exportText options (includeAttributes directory.parts name) text = .done text := by
    simp only [exportText, includeAttributes.exportTarget, Weave.pure_eq]
  simp only [emitReference, Weave.options, Weave.bind_eq, Weave.read, Weave.bind, Weave.run]
  rw [Weave.run_bind_of_ok htarget, Weave.run_bind_of_ok (run_applyProcessor _)]
  simp only [hslice, Weave.bind, Content.toText, Weave.ofExcept, hexport, Weave.bind_done]

/-- A text that is resolved to itself stays as it is. -/
theorem run_emitReference {mid : Run} {text : Text} (hoptions : Literally now.session.options)
    (hvariants : now.session.variants.get? name = none) (hname : IsFileName name)
    (hfetch : (fetch (.ofFile (directory.path name))).run now =
      (.ok (some (.text text, false)), mid))
    (hresolve : (resolve file text).run mid = (.ok text, mid)) :
    (emitReference resolve fetch depth file (includeMarker name place)
      (includeAttributes directory.parts name)).run now = (.ok text, mid) := by
  rw [run_emitReference_fetched hvariants hname hfetch, hoptions.tidies, if_neg Bool.false_ne_true,
    hresolve]

theorem run_emitReference_error {mid : Run} {e : Error}
    (hvariants : now.session.variants.get? name = none) (hname : IsFileName name)
    (hfetch : (fetch (.ofFile (directory.path name))).run now = (.error e, mid)) :
    (emitReference resolve fetch depth file (includeMarker name place)
      (includeAttributes directory.parts name)).run now = (.error e, mid) := by
  have htarget : (findTarget fetch file (includeMarker name place)
      (includeAttributes directory.parts name)).run now = (.error e, mid) := by
    rw [run_findTarget hvariants hname, Weave.run_bind_of_error hfetch]
  simp only [emitReference, Weave.options, Weave.bind_eq, Weave.read, Weave.bind, Weave.run]
  rw [Weave.run_bind_of_error htarget]

end Marker

/-- A marker is replaced by the expansion of its target, if this is what is found. -/
theorem emitMarker_ends (hready : Ready directory set entry start) {resolve : Resolver}
    {fetch : Fetcher} {depth : Nat} {removed : List Text} (hremoved : includeTag ∉ removed)
    {file name : Text} (hname : IsFileName name)
    (hparent : Path.parent file = Path.absolute directory.parts)
    (hnow : Stage directory set entry start stack now)
    (hfetch : Ends directory set entry start stack (fetch (.ofFile (directory.path name)))
      (fun found => ∃ text, found = some (.text text, false) ∧ set.Expands name text) now)
    (hresolve : ∀ mid text, Stage directory set entry start stack mid → IsPlain text →
      (resolve file text).run mid = (.ok text, mid)) (place : Int) :
    Ends directory set entry start stack
      (emitMarker resolve fetch depth file removed (includeMarker name place))
      (set.Expands name) now := by
  have hvariants := hnow.variants hready hname
  refine Ends.congr (run_emitMarker hremoved hname hparent).symm ?_
  rcases hfetch with ⟨_, mid, hrun, hmid, text, rfl, htext⟩ | ⟨key, chain, after, hrun, hcycle⟩
  · have hplain := htext.plain (set.proper_pieces name)
    exact Or.inl ⟨text, mid, run_emitReference (hnow.options hready) hvariants hname hrun
      (hresolve mid text hmid hplain), hmid, htext⟩
  · exact Or.inr ⟨key, chain, after, run_emitReference_error hvariants hname hrun, hcycle⟩

/-- Pieces are replaced by their expansion, if their markers are. -/
theorem replaceMarkers_ends {handler : Marker → Weave Text} {pieces : List Piece}
    (hproper : ∀ piece ∈ pieces, piece.Proper)
    (hhandler : ∀ target, .file target ∈ pieces → ∀ place now,
      Stage directory set entry start stack now →
        Ends directory set entry start stack (handler (includeMarker target place))
          (set.Expands target) now)
    (offset : Int) (hnow : Stage directory set entry start stack now) :
    Ends directory set entry start stack (replaceMarkers handler offset (sourceOf pieces))
      (set.Expansion pieces) now := by
  induction pieces generalizing offset now with
  | nil =>
      rw [sourceOf, List.flatMap_nil, replaceMarkers_nil]
      exact Ends.done hnow .nil
  | cons piece pieces ih =>
      have hfirst := hproper piece (by simp)
      have hrest : ∀ other ∈ pieces, other.Proper := fun other ho => hproper other (by simp [ho])
      have hothers : ∀ target, .file target ∈ pieces → _ :=
        fun target ht => hhandler target (by simp [ht])
      have hsource : sourceOf (piece :: pieces) = piece.text ++ sourceOf pieces := by
        simp [sourceOf]
      rw [hsource]
      cases piece with
      | literal text =>
          rw [Piece.text, replaceMarkers_plain handler hfirst]
          refine (ih hrest hothers _ hnow).bind fun out mid hmid hout => ?_
          exact Ends.done hmid (.literal hout)
      | file target =>
          rw [Piece.text, replaceMarkers_includeText handler hfirst]
          refine (hhandler target (by simp) offset now hnow).bind fun text mid hmid htext => ?_
          refine (ih hrest hothers _ hmid).bind fun out last hlast hout => ?_
          exact Ends.done hlast (.file htext hout)

/-- The text of a file is resolved to its expansion, if its markers are replaced. -/
theorem weaveText_ends (hready : Ready directory set entry start) {resolve : Resolver}
    {fetch : Fetcher} {depth : Nat} {file name : Text}
    (hnow : Stage directory set entry start stack now)
    (hmarker : ∀ removed, includeTag ∉ removed → ∀ target, set.Refers name target →
      ∀ place now, Stage directory set entry start stack now →
        Ends directory set entry start stack
          (emitMarker resolve fetch depth file removed (includeMarker target place))
          (set.Expands target) now) :
    Ends directory set entry start stack
      (weaveText resolve fetch depth file (sourceOf (set.pieces name)))
      (set.Expands name) now := by
  obtain ⟨removed, hremoved, hnotin⟩ := (hnow.options hready).removes
  have hproper := set.proper_pieces name
  have hreplace := replaceMarkers_ends hproper (hmarker removed hnotin) 0 hnow
  have hweave : (weaveText resolve fetch depth file (sourceOf (set.pieces name))).run now =
      ((replaceMarkers (emitMarker resolve fetch depth file removed) 0
        (sourceOf (set.pieces name))).bind fun woven =>
          .done (Shorthand.expand woven)).run now := by
    simp only [weaveText_eq, Weave.options, Weave.read, Weave.bind, Weave.run, hremoved,
      Weave.ofExcept]
  refine Ends.congr hweave.symm (hreplace.bind fun woven mid hmid hwoven => ?_)
  rw [Shorthand.expand_plain (hwoven.plain hproper)]
  exact Ends.done hmid hwoven

/-- Different files of the set. -/
structure Trail (set : FileSet) (stack : List Text) : Prop where
  nodup : stack.Nodup
  inSet : ∀ name ∈ stack, ∃ pieces, set.files.get? name = some pieces

theorem Trail.length_le (h : Trail set stack) : stack.length ≤ set.files.length := by
  have hsubset : stack ⊆ set.files.names := by
    intro name hname
    obtain ⟨pieces, hfile⟩ := h.inSet name hname
    exact List.mem_map.2 ⟨_, Table.mem_of_get?_eq_some hfile, rfl⟩
  have hle := (List.subperm_of_subset h.nodup hsubset).length_le
  rwa [Table.names, List.length_map] at hle

theorem Trail.concat (h : Trail set stack) {name target : Text} (hnew : name ∉ stack)
    (hrefers : set.Refers name target) : Trail set (stack ++ [name]) := by
  refine ⟨List.nodup_append.2 ⟨h.nodup, List.nodup_singleton name, ?_⟩, fun other hother => ?_⟩
  · intro other hother last hlast
    rw [List.mem_singleton.1 hlast]
    rintro rfl
    exact hnew hother
  · rcases List.mem_append.1 hother with hother | hother
    · exact h.inSet other hother
    · rw [List.mem_singleton.1 hother]
      exact FileSet.exists_of_refers hrefers

/-- A file that is not in progress is entered, evaluated and left. -/
theorem resolveRecord_ends (hready : Ready directory set entry start) {resolve : Resolver}
    {name : Text} (hreach : ReflTransGen set.Refers entry name) (hnew : name ∉ stack)
    (hnow : Stage directory set entry start stack now) {record : Record}
    (hr : now.session.record? (.ofFile (directory.path name)) = some record)
    (hfound : record.found = fileRecord directory set name) (hstate : record.state = .unvisited)
    (hresolve : ∀ entered, Stage directory set entry start (stack ++ [name]) entered →
      Ends directory set entry start (stack ++ [name])
        (resolve (directory.path name) (sourceOf (set.pieces name))) (set.Expands name) entered) :
    Ends directory set entry start stack (resolveRecord resolve record)
      (fun content => ∃ text, content = .text text ∧ set.Expands name text) now := by
  have hkey : record.key = .ofFile (directory.path name) := congrArg Record.key hfound
  have heval : evaluate resolve record =
      (resolve (directory.path name) (sourceOf (set.pieces name))).bind fun text =>
        .done (.text text) := by
    have hsame : record.found = (fileRecord directory set name).found := hfound
    rw [evaluate_congr resolve hsame]
    rfl
  obtain ⟨entered, henter, hentered⟩ := hnow.enter hready hreach hkey (hkey ▸ hr) (by simp [hstate])
  rw [← Weave.run_perform] at henter
  rw [resolveRecord_of_ne (by simp [hstate]), Ends, Weave.run_bind_of_ok henter, heval]
  rcases hresolve entered hentered with ⟨text, mid, hrun, hmid, htext⟩ |
    ⟨key, chain, after, hrun, hcycle⟩
  · obtain ⟨old, hold, hsame⟩ := hmid.exists_record hready hreach
    have hsamekey : old.key = .ofFile (directory.path name) := congrArg Record.key hsame
    obtain ⟨after, hleave, hafter⟩ :=
      hmid.leave hready hreach hnew hsamekey (hsamekey ▸ hold) htext
    rw [← (leaveRecord_of_some (hkey ▸ hold) (.text text)).1] at hleave
    refine Or.inl ⟨.text text, after, ?_, hafter, text, rfl, htext⟩
    rw [Weave.bind_assoc, Weave.run_bind_of_ok hrun]
    exact Weave.run_bind_of_ok hleave
  · refine Or.inr ⟨key, chain, after, ?_, hcycle⟩
    rw [Weave.bind_assoc, Weave.run_bind_of_error hrun]

/-- A file that can be reached is found with its expansion, or a cycle is found. -/
theorem fetchBlock_ends (hready : Ready directory set entry start) {depth : Nat} {name : Text}
    (hnow : Stage directory set entry start stack now) (htrail : Trail set stack)
    (hreach : ReflTransGen set.Refers entry name)
    (hleads : ∀ other ∈ stack, TransGen set.Refers other name)
    (hdepth : set.files.length < depth + stack.length) :
    Ends directory set entry start stack
      (fetchBlock (resolveRecord (resolveText depth)) (.ofFile (directory.path name)))
      (fun found => ∃ text, found = some (.text text, false) ∧ set.Expands name text) now := by
  induction depth generalizing stack now name with
  | zero =>
      have hle := htrail.length_le
      omega
  | succ depth ih =>
      obtain ⟨record, hr, hfound⟩ := hnow.exists_record hready hreach
      have hbinary : record.isBinary = false := congrArg Record.isBinary hfound
      have hrecord : Ends directory set entry start stack
          (resolveRecord (resolveText (depth + 1)) record)
          (fun content => ∃ text, content = .text text ∧ set.Expands name text) now := by
        cases hstate : record.state with
        | done =>
            obtain ⟨text, hcontent, htext⟩ := hnow.done name record hreach hr hstate
            rw [resolveRecord_done hstate hcontent]
            exact Ends.done hnow ⟨text, rfl, htext⟩
        | inProgress =>
            have hmem := (hnow.inProgress name record hreach hr).1 hstate
            refine Or.inr ⟨record.key, now.session.chain ++ [record.key], now, ?_,
              name, hreach, hleads name hmem⟩
            rw [resolveRecord_of_ne (by simp [hstate])]
            apply Weave.run_bind_of_error
            rw [Weave.run_perform]
            exact Action.perform_enter_inProgress now hstate
        | unvisited =>
            have hnew : name ∉ stack := by
              rw [← hnow.inProgress name record hreach hr, hstate]
              simp
            have hparent := directory.parent_path (hready.isFileName_of_reach hreach)
            refine resolveRecord_ends hready hreach hnew hnow hr hfound hstate
              fun entered hentered => weaveText_ends hready hentered ?_
            intro removed hremoved target hrefers place now' h'
            have htrail' := htrail.concat hnew hrefers
            have hle := htrail'.length_le
            rw [List.length_append, List.length_singleton] at hle
            refine emitMarker_ends hready hremoved (FileSet.isFileName_of_refers hrefers) hparent h'
              (ih h' htrail' (hreach.tail hrefers) ?_ ?_) (fun mid text hmid htext => ?_) place
            · intro other hother
              rcases List.mem_append.1 hother with hother | hother
              · exact (hleads other hother).tail hrefers
              · rw [List.mem_singleton.1 hother]
                exact TransGen.single hrefers
            · rw [List.length_append, List.length_singleton]
              omega
            · -- The bound leaves room for one more text inside the marker.
              obtain ⟨d, rfl⟩ := Nat.exists_eq_succ_of_ne_zero (show depth ≠ 0 by omega)
              exact run_weaveText_plain (hmid.options hready) _ _ d _ htext
      refine Ends.congr (fetchBlock_some hr).1.symm
        (hrecord.bind fun content mid hmid hcontent => ?_)
      obtain ⟨text, rfl, htext⟩ := hcontent
      rw [hbinary]
      exact Ends.done hmid ⟨text, rfl, htext⟩

theorem Trail.nil (set : FileSet) : Trail set [] :=
  ⟨List.nodup_nil, by simp⟩

/-- A file from which all others have been loaded is resolved to its expansion, or a cycle
is found. -/
theorem resolveFile_ends (hready : Ready directory set entry start) {depth : Nat}
    (hdepth : set.files.length < depth) :
    Ends directory set entry start [] (resolveFile depth (directory.path entry))
      (set.Expands entry) start := by
  have hfetch := fetchBlock_ends hready (Stage.of_ready hready) (Trail.nil set) .refl (by simp)
    (by simpa using hdepth)
  refine hfetch.bind fun found mid hmid hfound => ?_
  obtain ⟨text, rfl, htext⟩ := hfound
  exact Or.inl ⟨text, mid, rfl, hmid, htext⟩

end Stages

section Build

variable {directory : Directory} {set : FileSet} {builder : Builder} {options : Options}
  {workspace : Workspace} {entry : Text}

/-- Loading makes a new session ready. -/
theorem exists_ready (hoptions : Literally options)
    (hholds : Holds directory set options workspace.disk)
    (hpresets : ∀ name, IsFileName name → builder.presets.get? name = none)
    (hentry : ∃ pieces, set.files.get? entry = some pieces) (log : List LogEntry) :
    ∃ ready, (Discovery.load (directory.path entry)).run
        { session := builder.newSession options, disk := workspace.disk, log } = (.ok (), ready) ∧
      Ready directory set entry ready := by
  obtain ⟨pieces, hfile⟩ := hentry
  obtain ⟨ready, hload, hfresh, hsetting, hrecords⟩ :=
    @load_reaches directory set
      { session := builder.newSession options, disk := workspace.disk, log } rfl rfl hoptions
      hholds entry (Or.inl ⟨pieces, hfile⟩)
  refine ⟨ready, hload, hfresh, ?_, fun name hname => ?_, set.isFileName entry pieces hfile,
    hrecords⟩
  · rw [hsetting.options]
    exact hoptions
  · rw [hsetting.variants]
    exact hpresets name hname

/-- The result of a build that tidies nothing: what is resolved after loading. -/
theorem build_result (hoptions : Literally options) {base path file : Text}
    (hpath : Path.resolve base path = .ok file) (depth : Nat) :
    ∃ log, (builder.build depth base path options workspace).1 =
      (((Discovery.load file).bind fun _ => resolveFile depth file).run
        { session := builder.newSession options, disk := workspace.disk, log }).1 := by
  obtain ⟨removed, hremoved, -⟩ := hoptions.removes
  have hresult : (builder.build depth base path options workspace).1 =
      ((Builder.steps depth file options).run
        { session := builder.newSession options, disk := workspace.disk,
          log := workspace.log }).1 := by
    simp only [Builder.build, hpath]
    split <;> simp [*]
  rw [hresult]
  simp only [Builder.steps, hremoved, hoptions.tidies, Weave.ofExcept, Weave.bind_eq, Weave.bind,
    Weave.note, Weave.perform, Weave.run, Action.perform, Run.note, Bool.false_eq_true, if_false,
    Weave.pure_eq, Weave.bind_done]
  exact ⟨_, rfl⟩

/-- Includes are expanded exactly, and cycles are found. For the files of a directory
that are made of plain text and of markers that include files of this directory: the
build of a file fails because of a cycle exactly when one can be reached from the file,
and otherwise it is the expansion of the file, in which every marker is replaced by the
expansion of its target, and by nothing when the target does not exist. No preset variant
may stand in for a file, and the bound has to leave room for a path through all files. -/
theorem build_expands (hoptions : Literally options)
    (hholds : Holds directory set options workspace.disk)
    (hpresets : ∀ name, IsFileName name → builder.presets.get? name = none)
    (hentry : ∃ pieces, set.files.get? entry = some pieces) {base path : Text}
    (hpath : Path.resolve base path = .ok (directory.path entry)) {depth : Nat}
    (hdepth : set.files.length < depth) :
    ((∃ key chain, (builder.build depth base path options workspace).1 =
        .error (.circular key chain)) ↔ set.Cyclic entry) ∧
      (¬ set.Cyclic entry → ∃ text,
        (builder.build depth base path options workspace).1 = .ok text ∧
          ∀ other, set.Expands entry other ↔ other = text) := by
  have hbuild : (∃ text, (builder.build depth base path options workspace).1 = .ok text ∧
        set.Expands entry text) ∨
      ∃ key chain, (builder.build depth base path options workspace).1 =
        .error (.circular key chain) ∧ set.Cyclic entry := by
    obtain ⟨log, hresult⟩ := build_result hoptions hpath depth
    obtain ⟨ready, hload, hready⟩ := exists_ready hoptions hholds hpresets hentry log
    rw [hresult, Weave.run_bind_of_ok hload]
    rcases resolveFile_ends hready hdepth with ⟨text, after, hrun, -, htext⟩ |
      ⟨key, chain, after, hrun, hcycle⟩
    · exact Or.inl ⟨text, by rw [hrun], htext⟩
    · exact Or.inr ⟨key, chain, by rw [hrun], hcycle⟩
  rcases hbuild with ⟨text, hresult, htext⟩ | ⟨key, chain, hresult, hcycle⟩
  · have hacyclic := htext.not_cyclic
    refine ⟨⟨?_, fun hcycle => absurd hcycle hacyclic⟩, fun _ => ⟨text, hresult, ?_⟩⟩
    · rintro ⟨key, chain, hcircular⟩
      rw [hresult] at hcircular
      cases hcircular
    · intro other
      constructor
      · exact fun hother => hother.unique htext
      · rintro rfl
        exact htext
  · exact ⟨⟨fun _ => hcycle, fun _ => ⟨key, chain, hresult⟩⟩, fun h => absurd hcycle h⟩

end Build

namespace Pair

/-- A file that includes another one twice. -/
def files : FileSet where
  files := [(['a'], [.file ['b'], .file ['b']]), (['b'], [.literal ['y']])]
  isFileName name pieces h := by
    have hmem := Table.mem_of_get?_eq_some h
    simp only [List.mem_cons, List.not_mem_nil, or_false, Prod.mk.injEq] at hmem
    rcases hmem with ⟨rfl, -⟩ | ⟨rfl, -⟩
    · exact ⟨by simp, by simp, by simp⟩
    · exact ⟨by simp, by simp, by simp⟩
  proper name pieces h := by
    have hmem := Table.mem_of_get?_eq_some h
    simp only [List.mem_cons, List.not_mem_nil, or_false, Prod.mk.injEq] at hmem
    rcases hmem with ⟨-, rfl⟩ | ⟨-, rfl⟩
    · simp only [List.mem_cons, List.not_mem_nil, or_false, or_self, forall_eq]
      exact ⟨by simp, by simp, by simp⟩
    · simp only [List.mem_singleton, forall_eq]
      exact ⟨by simp, by simp, by simp⟩

/-- The root of the disk. -/
def root : Directory := ⟨[], by simp⟩

/-- Options that leave white space alone. -/
def options : Options := { clean := .bool false }

theorem literally : Literally options := by
  refine ⟨rfl, rfl, [['d', 'e', 'b', 'u', 'g'], ['t', 'e', 's', 't']], rfl, ?_⟩
  simp [includeTag]

theorem holds : Holds root files options BlockWeave.Pair.disk := by
  constructor
  · intro name pieces h
    have hmem := Table.mem_of_get?_eq_some h
    simp only [files, List.mem_cons, List.not_mem_nil, or_false, Prod.mk.injEq] at hmem
    rcases hmem with ⟨rfl, rfl⟩ | ⟨rfl, rfl⟩
    · with_unfolding_all rfl
    · with_unfolding_all rfl
  · intro name target hrefers hmissing
    obtain ⟨pieces, h⟩ := FileSet.exists_of_refers hrefers
    have hmem := Table.mem_of_get?_eq_some h
    simp only [files, List.mem_cons, List.not_mem_nil, or_false, Prod.mk.injEq] at hmem
    rcases hmem with ⟨rfl, -⟩ | ⟨rfl, -⟩
    · have htarget : target = ['b'] := by
        simpa [FileSet.Refers, FileSet.pieces, files, Table.get?] using hrefers
      rw [htarget] at hmissing
      simp [files, Table.get?] at hmissing
    · simp [FileSet.Refers, FileSet.pieces, files, Table.get?] at hrefers

end Pair

theorem build_expands_pair : Pair.files.Expands ['a'] ['y', 'y'] ∧
    (BlockWeave.Pair.builder.build 3 ['/'] ['a'] Pair.options
      { disk := BlockWeave.Pair.disk }).1 = .ok ['y', 'y'] := by
  have hinner : Pair.files.Expands ['b'] ['y'] :=
    @FileSet.Expansion.literal Pair.files ['y'] [] [] .nil
  have hsecond : Pair.files.Expansion [.file ['b']] ['y'] := .file hinner .nil
  have hexpands : Pair.files.Expands ['a'] ['y', 'y'] := .file hinner hsecond
  obtain ⟨-, hresult⟩ := @build_expands Pair.root Pair.files BlockWeave.Pair.builder Pair.options
    { disk := BlockWeave.Pair.disk } ['a'] Pair.literally Pair.holds (fun _ _ => rfl) ⟨_, rfl⟩
    ['/'] ['a'] rfl 3 (by decide)
  obtain ⟨text, htext, hunique⟩ := hresult hexpands.not_cyclic
  exact ⟨hexpands, by rw [htext, (hunique ['y', 'y']).1 hexpands]⟩

end BlockWeave.Include
