import BlockWeave.Disk
import BlockWeave.Proofs.Text.Lines
import Mathlib.Data.List.Flatten

/-!
# Writing a file is all or nothing

Making directories only adds directories where nothing was, and the way down to the last one is
open afterwards. A scratch file is made where nothing is, so taking it away again gives the disk
back, however much has been written to it, and moving it over the target changes the target
alone. A write that fails therefore leaves every file as it was, and one that succeeds changes no
file but its target.
-/

namespace BlockWeave

namespace Path

/-- Where a path leads when every double dot takes away the part before it. -/
def place (path : Text) : Text :=
  absolute (normal (parts path))

/-- A directory that is passed, or made, on the way to a path. -/
def OnTheWay (path directory : Text) : Prop :=
  ∃ front, front <+: (parts path).dropLast ∧ directory = absolute (normal front)

theorem of_mem_parts {path part : Text} (h : part ∈ parts path) :
    part ≠ [] ∧ part ≠ here ∧ '/' ∉ part := by
  obtain ⟨hpiece, hproper⟩ := List.mem_filter.1 h
  have hproper : part ≠ [] ∧ part ≠ here := by simpa using hproper
  exact ⟨hproper.1, hproper.2, Text.notMem_of_mem_splitOn hpiece⟩

/-- What is left of a path without a null character are parts that stand for themselves. -/
theorem isPart_of_mem_normal {path part : Text} (hnull : Char.ofNat 0 ∉ absolute (parts path))
    (h : part ∈ normal (parts path)) : IsPart part := by
  have hmem := (normal_sublist (parts path)).subset h
  obtain ⟨hne, hhere, hslash⟩ := of_mem_parts hmem
  refine ⟨hne, hhere, ?_, hslash, fun hpart => hnull (mem_absolute hmem hpart)⟩
  rintro rfl
  exact up_notMem_normal _ h

/-- The last part of a path stands in the directory that the others lead to. -/
theorem normal_parts_eq {path name : Text} (hlast : (parts path).getLast? = some name)
    (hup : name ≠ up) : normal (parts path) = normal (parts path).dropLast ++ [name] := by
  conv_lhs => rw [← List.dropLast_append_getLast? name hlast]
  rw [normal_concat, if_neg hup]

end Path

theorem Table.get?_filter_ne {κ β : Type} [DecidableEq κ] (table : Table κ β) (k l : κ) :
    Table.get? (table.filter fun entry => entry.1 ≠ k) l =
      if l = k then none else table.get? l := by
  induction table with
  | nil => simp [Table.get?]
  | cons entry table ih =>
      by_cases hk : entry.1 = k
      · rw [List.filter_cons_of_neg (by simpa using hk), ih]
        split
        · rfl
        next hl => rw [Table.get?, if_neg (hk ▸ Ne.symm hl)]
      · rw [List.filter_cons_of_pos (by simpa using hk), Table.get?, ih, Table.get?]
        by_cases hl : entry.1 = l
        · rw [if_pos hl, if_pos hl, if_neg (hl ▸ hk)]
        · rw [if_neg hl, if_neg hl]

namespace Disk

/-- The bytes of the regular file at a path. -/
def file? (disk : Disk) (path : Text) : Option (List UInt8) :=
  match disk.node? path with
  | some (.file bytes) => some bytes
  | _ => none

section Nodes

variable {disk : Disk} {path other : Text} {node : Node}

@[simp] theorem node?_root (disk : Disk) : disk.node? ['/'] = some .directory := rfl

theorem node?_put (h : disk.node? path ≠ some .directory) :
    (disk.put path node).node? other = if other = path then some node else disk.node? other := by
  have hroot : path ≠ ['/'] := by
    rintro rfl
    exact h rfl
  by_cases hother : other = path
  · subst hother
    rw [node?, if_neg hroot, put, Table.get?_put_self, if_pos rfl]
  · rw [node?, node?, put, Table.get?_put_of_ne _ _ (Ne.symm hother), if_neg hother]

theorem node?_remove (h : path ≠ ['/']) :
    (disk.remove path).node? other = if other = path then none else disk.node? other := by
  rw [node?, node?, remove, Table.get?_filter_ne]
  by_cases hother : other = path
  · subst hother
    rw [if_neg h, if_pos rfl, if_pos rfl]
  · rw [if_neg hother, if_neg hother]

end Nodes

/-- The second disk is the first one with directories where nothing was. -/
def Grown (places : Text → Prop) (disk after : Disk) : Prop :=
  ∀ path, after.node? path = disk.node? path ∨
    disk.node? path = none ∧ after.node? path = some .directory ∧ places path

namespace Grown

variable {places : Text → Prop} {disk next after : Disk} {path : Text}

theorem refl (disk : Disk) : Grown places disk disk :=
  fun _ => Or.inl rfl

theorem trans (h : Grown places disk next) (h' : Grown places next after) :
    Grown places disk after := by
  intro path
  rcases h path with hsame | ⟨hnone, hmade, hplace⟩
  · rw [← hsame]
    exact h' path
  · refine Or.inr ⟨hnone, ?_, hplace⟩
    rcases h' path with hsame | ⟨hmissing, -⟩
    · rw [hsame, hmade]
    · rw [hmade] at hmissing
      contradiction

/-- A directory is made where nothing is. -/
theorem put (hnone : disk.node? path = none) (hplace : places path) :
    Grown places disk (disk.put path .directory) := by
  intro other
  rw [node?_put (by rw [hnone]; simp)]
  split
  next hother => exact Or.inr ⟨hother ▸ hnone, rfl, hother ▸ hplace⟩
  next => exact Or.inl rfl

theorem mono {others : Text → Prop} (h : Grown places disk after)
    (hplaces : ∀ path, places path → others path) : Grown others disk after := by
  intro path
  rcases h path with hsame | ⟨hnone, hmade, hplace⟩
  · exact Or.inl hsame
  · exact Or.inr ⟨hnone, hmade, hplaces path hplace⟩

theorem of_node?_eq (h : ∀ path, after.node? path = next.node? path)
    (hgrown : Grown places disk next) : Grown places disk after := by
  intro path
  rw [h]
  exact hgrown path

theorem file?_eq (h : Grown places disk after) (path : Text) :
    after.file? path = disk.file? path := by
  rw [file?, file?]
  rcases h path with hsame | ⟨hnone, hmade, -⟩
  · rw [hsame]
  · rw [hnone, hmade]

end Grown

/-- Every place that a list of parts leads through is a directory, each double dot leading back
to the one above. -/
structure Leads (disk : Disk) (above : List Text) : Prop where
  directory : ∀ front, front <+: above →
    disk.node? (Path.absolute (Path.normal front)) = some .directory
  size : ∀ part ∈ above, nameSize part ≤ nameLimit

namespace Leads

variable {disk after : Disk} {above : List Text} {part : Text}

theorem nil (disk : Disk) : Leads disk [] where
  directory := by
    intro front hfront
    rw [List.prefix_nil.1 hfront]
    rfl
  size := by simp

theorem concat (h : Leads disk above) (hsize : nameSize part ≤ nameLimit)
    (hnode : disk.node? (Path.absolute (Path.normal (above ++ [part]))) = some .directory) :
    Leads disk (above ++ [part]) where
  directory := by
    intro front hfront
    rcases List.prefix_concat_iff.1 hfront with rfl | hfront
    · exact hnode
    · exact h.directory front hfront
  size := by
    intro other hother
    rcases List.mem_append.1 hother with hother | hother
    · exact h.size other hother
    · rw [List.mem_singleton.1 hother]
      exact hsize

/-- The directories above the last one were passed on the way. -/
theorem node?_of_prefix {front : List Text} (h : Leads disk above)
    (hfront : front <+: Path.normal above) :
    disk.node? (Path.absolute front) = some .directory := by
  obtain ⟨passed, hpassed, rfl⟩ := Path.exists_normal_eq_of_prefix hfront
  exact h.directory passed hpassed

/-- A double dot leads back to a directory that was passed. -/
theorem back (h : Leads disk above) : Leads disk (above ++ [Path.up]) := by
  apply h.concat (by decide)
  rw [Path.normal_concat, if_pos rfl]
  exact h.node?_of_prefix (List.dropLast_prefix _)

/-- The way without detours is there, too. -/
theorem normal (h : Leads disk above) : Leads disk (Path.normal above) where
  directory := by
    intro front hfront
    have hup : Path.up ∉ front := fun hmem => Path.up_notMem_normal above (hfront.subset hmem)
    rw [Path.normal_of_notMem hup]
    exact h.node?_of_prefix hfront
  size := fun part hpart => h.size part ((Path.normal_sublist above).subset hpart)

/-- Directories stay when nothing else than a file is written. -/
theorem of_directories (h : Leads disk above)
    (hkeep : ∀ path, disk.node? path = some .directory → after.node? path = some .directory) :
    Leads after above where
  directory := fun front hfront => hkeep _ (h.directory front hfront)
  size := h.size

theorem grown {places : Text → Prop} (h : Leads disk above) (hgrown : Grown places disk after) :
    Leads after above := by
  apply h.of_directories
  intro path hpath
  rcases hgrown path with hsame | ⟨hnone, -⟩
  · rw [hsame, hpath]
  · rw [hpath] at hnone
    contradiction

theorem replaced {path : Text} {node : Node} (h : Leads disk above)
    (hdirectory : disk.node? path ≠ some .directory)
    (hafter : ∀ other, after.node? other = if other = path then some node else disk.node? other) :
    Leads after above := by
  apply h.of_directories
  intro other hother
  rw [hafter, if_neg, hother]
  rintro rfl
  exact hdirectory hother

/-- The way down to a name in the last of the directories. -/
theorem descend (h : Leads disk above) (hsize : nameSize part ≤ nameLimit) :
    disk.descend [] (above ++ [part]) = .ok (Path.normal (above ++ [part])) := by
  have hdown (rest front : List Text) (hrest : front ++ rest = above) :
      disk.descend (Path.normal front) (rest ++ [part]) =
        .ok (Path.normal (above ++ [part])) := by
    induction rest generalizing front with
    | nil =>
        obtain rfl : front = above := by rw [← hrest, List.append_nil]
        simp only [List.nil_append, Disk.descend, h.directory front List.prefix_rfl,
          if_neg (Nat.not_lt.2 hsize), Path.normal_concat]
    | cons next rest ih =>
        have hmem : next ∈ above := by simp [← hrest]
        have hthere := h.directory front ⟨next :: rest, hrest⟩
        simp only [List.cons_append, Disk.descend, hthere,
          if_neg (Nat.not_lt.2 (h.size next hmem)), ← Path.normal_concat]
        apply ih
        simpa using hrest
  exact hdown above [] rfl

end Leads

section Parents

/-- One part of a path: the way down goes on from the place that it names, which is a directory
or is made one, or it ends here with nothing changed. -/
theorem makeBelow_cons (disk : Disk) (done : List Text) (made : Bool) (part : Text)
    (rest : List Text) :
    (∃ e, disk.makeBelow (Path.normal done) made (part :: rest) = (.error e, disk)) ∨
    ∃ made' next, disk.makeBelow (Path.normal done) made (part :: rest) =
        next.makeBelow (Path.normal (done ++ [part])) made' rest ∧
      Grown (· = Path.absolute (Path.normal (done ++ [part]))) disk next ∧
      (disk.Leads done → next.Leads (done ++ [part])) := by
  have hplace := Path.normal_concat done part
  simp only [makeBelow, hplace]
  by_cases hup : part = Path.up
  · rw [if_pos hup, if_pos hup]
    refine Or.inr ⟨made, disk, rfl, Grown.refl disk, fun h => ?_⟩
    rw [hup]
    exact h.back
  · rw [if_neg hup] at hplace
    rw [if_neg hup, if_neg hup]
    by_cases hsize : nameLimit < nameSize part
    · exact Or.inl ⟨.nameTooLong, by rw [if_pos hsize]⟩
    · rw [if_neg hsize]
      have hsize := Nat.not_lt.1 hsize
      cases hnode : disk.node? (Path.absolute (Path.normal done ++ [part])) with
      | none =>
          have hgrown : Grown (· = Path.absolute (Path.normal done ++ [part])) disk
              (disk.put (Path.absolute (Path.normal done ++ [part])) .directory) :=
            Grown.put hnode rfl
          refine Or.inr ⟨true, _, rfl, hgrown, fun h => ?_⟩
          apply (h.grown hgrown).concat hsize
          rw [hplace, node?_put (by rw [hnode]; simp), if_pos rfl]
      | some node =>
          cases node with
          | file bytes => exact Or.inl ⟨_, rfl⟩
          | directory =>
              refine Or.inr ⟨made, disk, rfl, Grown.refl disk, fun h => h.concat hsize ?_⟩
              rw [hplace, hnode]

/-- Making directories changes nothing but where they are made. -/
theorem makeBelow_grown (disk : Disk) (done : List Text) (made : Bool) (parts : List Text) :
    Grown (fun path => ∃ front, front <+: done ++ parts ∧ path = Path.absolute (Path.normal front))
      disk (disk.makeBelow (Path.normal done) made parts).2 := by
  induction parts generalizing disk done made with
  | nil => exact Grown.refl disk
  | cons part rest ih =>
      rcases makeBelow_cons disk done made part rest with ⟨e, he⟩ | ⟨made', next, he, hgrown, -⟩
      · rw [he]
        exact Grown.refl disk
      · have hrest := ih next (done ++ [part]) made'
        rw [List.append_assoc, List.singleton_append] at hrest
        rw [he]
        apply Grown.trans (hgrown.mono fun path hpath => ?_) hrest
        exact ⟨done ++ [part], by simp, hpath⟩

/-- Directories that could be made are there. -/
theorem leads_of_makeBelow {disk after : Disk} {done parts above : List Text} {made : Bool}
    (h : disk.makeBelow (Path.normal done) made parts = (.ok above, after))
    (hdone : disk.Leads done) :
    above = Path.normal (done ++ parts) ∧ after.Leads (done ++ parts) := by
  induction parts generalizing disk done made with
  | nil =>
      obtain ⟨rfl, rfl⟩ : Path.normal done = above ∧ disk = after := by simpa [makeBelow] using h
      rw [List.append_nil]
      exact ⟨rfl, hdone⟩
  | cons part rest ih =>
      rcases makeBelow_cons disk done made part rest with ⟨e, he⟩ | ⟨made', next, he, -, hleads⟩
      · rw [he] at h
        simp at h
      · rw [he] at h
        have hrest := ih h (hleads hdone)
        rwa [List.append_assoc, List.singleton_append] at hrest

/-- Making the directory of a path only makes directories on the way to it. -/
theorem makeParent_grown (disk : Disk) (target : Text) :
    Grown (Path.OnTheWay target) disk (disk.makeParent target).2 := by
  rw [makeParent]
  split
  · exact Grown.refl disk
  · exact makeBelow_grown disk [] false _

theorem leads_of_makeParent {disk after : Disk} {target : Text} {above : List Text}
    (h : disk.makeParent target = (.ok above, after)) :
    above = Path.normal (Path.parts target).dropLast ∧
      after.Leads (Path.parts target).dropLast := by
  rw [makeParent] at h
  split at h
  · simp at h
  · exact @leads_of_makeBelow disk after [] _ above false h (Leads.nil disk)

end Parents

section Replacing

variable {disk : Disk} {target scratch : Text} {bytes : List UInt8}

/-- A scratch file is made where nothing is, under a name longer than the target's. -/
theorem of_scratchPath (h : disk.scratchPath target = .ok scratch) :
    disk.node? scratch = none ∧ nameSize (Path.name target) ≤ nameLimit := by
  rw [scratchPath] at h
  simp only at h
  split at h
  · simp at h
  next name hname =>
    have hfree := List.find?_some hname
    have hmem := List.mem_of_find?_eq_some hname
    simp only [Option.isNone_iff_eq_none] at hfree
    simp only [bind, Except.bind] at h
    split at h
    · simp at h
    · split at h
      · simp at h
      next hsize =>
        obtain rfl : Path.join (Path.parent target) name = scratch := by
          simpa [pure, Except.pure] using h
        refine ⟨hfree, Nat.le_trans ?_ (Nat.not_lt.1 hsize)⟩
        obtain ⟨n, -, rfl⟩ := List.mem_map.1 hmem
        simp only [nameSize, Utf8.encode, List.cons_append, List.flatMap_cons,
          List.flatMap_append, List.length_append]
        omega

/-- A disk on which a file has been made at a path where nothing was. -/
structure Staged (disk : Disk) (scratch : Text) (bytes : List UInt8) (staged : Disk) : Prop where
  free : disk.node? scratch = none
  node?_eq (path : Text) :
    staged.node? path = if path = scratch then some (.file bytes) else disk.node? path

namespace Staged

variable {staged : Disk}

theorem ne_root (h : Staged disk scratch bytes staged) : scratch ≠ ['/'] := by
  rintro rfl
  simpa using h.free

/-- Without the file the disk is the one before it was made. -/
theorem node?_remove (h : Staged disk scratch bytes staged) (path : Text) :
    (staged.remove scratch).node? path = disk.node? path := by
  rw [Disk.node?_remove h.ne_root, h.node?_eq]
  split
  next hpath => rw [hpath, h.free]
  next => rfl

/-- A directory is one before and after. -/
theorem directory_iff (h : Staged disk scratch bytes staged) (path : Text) :
    staged.node? path = some .directory ↔ disk.node? path = some .directory := by
  rw [h.node?_eq]
  split
  next hpath => simp [hpath, h.free]
  next => rfl

end Staged

/-- A scratch file gets all of the bytes, or the write fails with some of them written. -/
theorem fill_cases (hfree : disk.node? scratch = none) (bytes : List UInt8) :
    (∃ e written staged, (disk.put scratch (.file [])).fill scratch bytes = (.error e, staged) ∧
      Staged disk scratch written staged) ∨
    ∃ staged, (disk.put scratch (.file [])).fill scratch bytes = (.ok (), staged) ∧
      Staged disk scratch bytes staged := by
  have hmade (path : Text) : (disk.put scratch (.file [])).node? path =
      if path = scratch then some (.file []) else disk.node? path :=
    node?_put (by rw [hfree]; simp)
  have hwritten (written : List UInt8) : Staged disk scratch written
      ((disk.put scratch (.file [])).put scratch (.file written)) := by
    refine ⟨hfree, fun path => ?_⟩
    rw [node?_put (by rw [hmade, if_pos rfl]; simp), hmade]
    split <;> rfl
  rw [fill]
  split
  · exact Or.inr ⟨_, rfl, hwritten bytes⟩
  · split
    · exact Or.inr ⟨_, rfl, hwritten bytes⟩
    · exact Or.inl ⟨_, _, _, rfl, hwritten _⟩

/-- A file is replaced as a whole, or the disk is as it was. -/
theorem replaceFile_cases (disk : Disk) (target : Text) (bytes : List UInt8) :
    (∃ e after, disk.replaceFile target bytes = (.error e, after) ∧
      ∀ path, after.node? path = disk.node? path) ∨
    ∃ after, disk.replaceFile target bytes = (.ok (), after) ∧
      disk.node? target ≠ some .directory ∧ nameSize (Path.name target) ≤ nameLimit ∧
      ∀ path, after.node? path = if path = target then some (.file bytes) else disk.node? path := by
  cases hscratch : disk.scratchPath target with
  | error e => exact Or.inl ⟨e, disk, by simp only [replaceFile, hscratch], fun _ => rfl⟩
  | ok scratch =>
      obtain ⟨hfree, hsize⟩ := of_scratchPath hscratch
      rcases fill_cases hfree bytes with ⟨e, written, staged, hfill, h⟩ | ⟨staged, hfill, h⟩
      · refine Or.inl ⟨e, staged.remove scratch, ?_, h.node?_remove⟩
        simp only [replaceFile, hscratch, hfill]
      · have hsource : staged.node? scratch = some (.file bytes) := by
          rw [h.node?_eq, if_pos rfl]
        by_cases hdirectory : disk.node? target = some .directory
        · have htarget := (h.directory_iff target).2 hdirectory
          refine Or.inl ⟨.isDirectory, staged.remove scratch, ?_, h.node?_remove⟩
          simp only [replaceFile, hscratch, hfill, rename, hsource, htarget]
        · have htarget := mt (h.directory_iff target).1 hdirectory
          refine Or.inr ⟨(staged.remove scratch).put target (.file bytes), ?_, hdirectory, hsize,
            fun path => ?_⟩
          · simp only [replaceFile, hscratch, hfill, rename, hsource]
          · rw [node?_put (by rwa [h.node?_remove]), h.node?_remove]

end Replacing

theorem checkPath_sublist {path other : Text} (h : path.Sublist other)
    (hother : checkPath other = .ok ()) : checkPath path = .ok () := by
  have hsize : nameSize path ≤ nameSize other := (h.flatMap _).length_le
  simp only [checkPath] at hother ⊢
  split at hother
  · simp at hother
  next hnull =>
    split at hother
    · simp at hother
    next hlimit =>
      have hkeep : ¬List.elem (Char.ofNat 0) path = true := by
        intro hmem
        exact hnull (List.elem_iff.2 (h.subset (List.elem_iff.1 hmem)))
      rw [if_neg hkeep, if_neg (by omega)]

theorem notMem_of_checkPath {path : Text} (h : checkPath path = .ok ()) : Char.ofNat 0 ∉ path := by
  intro hmem
  rw [checkPath, if_pos (List.elem_iff.2 hmem)] at h
  contradiction

/-- A file in a directory that is there can be read. -/
theorem readBytes_of_leads {disk : Disk} {above : List Text} {name : Text} {bytes : List UInt8}
    (hleads : disk.Leads above) (hsize : nameSize name ≤ nameLimit)
    (hparts : ∀ part ∈ above ++ [name], Path.IsPart part)
    (hpath : checkPath (Path.absolute (above ++ [name])) = .ok ())
    (hfile : disk.node? (Path.absolute (above ++ [name])) = some (.file bytes)) :
    disk.readBytes (Path.absolute (above ++ [name])) = .ok bytes := by
  simp only [readBytes, find, hpath, Path.parts_absolute hparts, hleads.descend hsize, hfile,
    bind, Except.bind, pure, Except.pure]

/-- A write fails with nothing but directories made, or the file stands where the target leads
to now. -/
theorem write_cases (disk : Disk) (charset : Except Error Charset) (target : Text)
    (content : Content) :
    (∃ e after, disk.write charset target content = (.error e, after) ∧
      Grown (Path.OnTheWay target) disk after) ∨
    ∃ bytes next after, disk.write charset target content = (.ok (), after) ∧
      content.toBytes charset = .ok bytes ∧ Grown (Path.OnTheWay target) disk next ∧
      after.descend [] (Path.parts target) = .ok (Path.normal (Path.parts target)) ∧
      after.readBytes (Path.place target) = .ok bytes ∧
      ∀ path, path ≠ Path.place target → after.node? path = next.node? path := by
  have hgrown := makeParent_grown disk target
  rw [write]
  rcases hparent : disk.makeParent target with ⟨_ | above, next⟩
  all_goals rw [hparent] at hgrown
  case error e => exact Or.inl ⟨e, next, rfl, hgrown⟩
  obtain ⟨rfl, hleads⟩ := leads_of_makeParent hparent
  rcases hbytes : content.toBytes charset with e | bytes
  · exact Or.inl ⟨e, next, rfl, hgrown⟩
  rcases hlast : (Path.parts target).getLast? with _ | name
  · exact Or.inl ⟨.busy, next, rfl, hgrown⟩
  by_cases hup : name = Path.up
  · exact Or.inl ⟨.busy, next, if_pos hup, hgrown⟩
  rcases hcheck : checkPath (Path.absolute (Path.parts target)) with e | _
  · exact Or.inl ⟨e, next, if_neg hup, hgrown⟩
  have hplace := Path.normal_parts_eq hlast hup
  have hparts : ∀ part ∈ Path.normal (Path.parts target), Path.IsPart part :=
    fun part hpart => Path.isPart_of_mem_normal (notMem_of_checkPath hcheck) hpart
  have hpath := checkPath_sublist (Path.absolute_sublist (Path.normal_sublist _)) hcheck
  simp only [if_neg hup, ← hplace]
  rcases replaceFile_cases next (Path.place target) bytes with
    ⟨e, after, he, hsame⟩ | ⟨after, hok, hdirectory, hsize, hafter⟩
  · exact Or.inl ⟨e, after, he, hgrown.of_node?_eq hsame⟩
  · have hname : Path.name (Path.place target) = name := by
      rw [Path.name, Path.place, Path.parts_absolute hparts, hplace, List.getLast?_concat]
      rfl
    rw [hname] at hsize
    have hkeep := hleads.replaced hdirectory hafter
    have hfile : after.node? (Path.place target) = some (.file bytes) := by
      rw [hafter, if_pos rfl]
    refine Or.inr ⟨bytes, next, after, hok, rfl, hgrown, ?_, ?_, fun path hne => ?_⟩
    · have hdown := hkeep.descend hsize
      rwa [List.dropLast_append_getLast? name hlast] at hdown
    · rw [Path.place, hplace] at hfile ⊢
      rw [hplace] at hparts hpath
      exact readBytes_of_leads hkeep.normal hsize hparts hpath hfile
    · rw [hafter, if_neg hne]

/-- Writing a file is all or nothing. A write that fails leaves every file as it was and makes
none. After one that succeeds the target can be followed to a file with the encoded content, and
every other file is as it was. All that is new besides are directories on the way. -/
theorem write_all_or_nothing (disk : Disk) (charset : Except Error Charset) (target : Text)
    (content : Content) :
    match disk.write charset target content with
    | (.error _, after) =>
        (∀ path, after.file? path = disk.file? path) ∧ Grown (Path.OnTheWay target) disk after
    | (.ok (), after) =>
        (∃ bytes, content.toBytes charset = .ok bytes ∧
          after.descend [] (Path.parts target) = .ok (Path.normal (Path.parts target)) ∧
          after.readBytes (Path.place target) = .ok bytes) ∧
        (∀ path, path ≠ Path.place target → after.file? path = disk.file? path) ∧
        ∀ path, path ≠ Path.place target → after.node? path = disk.node? path ∨
          disk.node? path = none ∧ after.node? path = some .directory ∧
            Path.OnTheWay target path := by
  rcases write_cases disk charset target content with
    ⟨e, after, hwrite, hgrown⟩ |
      ⟨bytes, next, after, hwrite, hbytes, hgrown, hdown, hread, hother⟩
  · rw [hwrite]
    constructor
    · exact hgrown.file?_eq
    · exact hgrown
  · rw [hwrite]
    refine ⟨⟨bytes, hbytes, hdown, hread⟩, fun path hne => ?_, fun path hne => ?_⟩
    · rw [← hgrown.file?_eq path, file?, file?, hother path hne]
    · rw [hother path hne]
      exact hgrown path

/-- A file is written over by way of a directory that has to be made, and the file beside it
stays. -/
theorem write_all_or_nothing_over :
    ∃ after, ({ nodes := [(['/', 'a'], .file [0x61]), (['/', 'c'], .file [0x63])] } : Disk).write
        (.ok .latin1) ['/', 'b', '/', '.', '.', '/', 'a'] (.text [Char.ofNat 0xe9]) =
          (.ok (), after) ∧
      after.readBytes ['/', 'a'] = .ok [0xe9] ∧ after.file? ['/', 'c'] = some [0x63] := by
  have hwrite : ({ nodes := [(['/', 'a'], .file [0x61]), (['/', 'c'], .file [0x63])] } : Disk).write
      (.ok .latin1) ['/', 'b', '/', '.', '.', '/', 'a'] (.text [Char.ofNat 0xe9]) =
        (.ok (), { nodes := [(['/', 'a'], .file [0xe9]), (['/', 'c'], .file [0x63]),
          (['/', 'b'], .directory)] }) := rfl
  have h := write_all_or_nothing
    { nodes := [(['/', 'a'], .file [0x61]), (['/', 'c'], .file [0x63])] } (.ok .latin1)
    ['/', 'b', '/', '.', '.', '/', 'a'] (.text [Char.ofNat 0xe9])
  rw [hwrite] at h
  obtain ⟨⟨bytes, hbytes, -, hread⟩, hother, -⟩ := h
  obtain rfl : [0xe9] = bytes := Except.ok.inj hbytes
  exact ⟨_, hwrite, hread, hother ['/', 'c'] (by decide)⟩

/-- On a full disk nothing is left of the scratch file. -/
example : ({ nodes := [(['/', 'a'], .file [0x61])], capacity := some 2 } : Disk).write (.ok .utf8)
      ['/', 'a'] (.text ['x', 'y']) =
    (.error .noSpace, { nodes := [(['/', 'a'], .file [0x61])], capacity := some 2 }) := by
  rfl

/-- A directory at the target stops the write when the scratch file is there already. -/
example : ({ nodes := [(['/', 'a'], .directory)] } : Disk).write (.ok .utf8)
      ['/', 'b', '/', '.', '.', '/', 'a'] (.text ['x']) =
    (.error .isDirectory, { nodes := [(['/', 'a'], .directory), (['/', 'b'], .directory)] }) := by
  rfl

end Disk
end BlockWeave
