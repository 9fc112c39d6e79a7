import BlockWeave.Proofs.Config.Layers
import BlockWeave.Proofs.Document.Sharing
import BlockWeave.Proofs.Value.Lookup
import Mathlib.Data.List.Forall2

/-!
# Settings write their places

A setting of the environment writes one value at the path of keys that its name gives, and the
settings are written one after the other in the order of their names. A write is seen at its own
path, and at no path that neither leads to its place nor goes on from it. So the value of a
setting is in the result if no later setting touches its path, and what no setting touches is as
it was, in a configuration none of whose mappings stands at two places. A mapping that does is
changed at both.
-/

namespace BlockWeave

namespace Text

/-- Texts in the order of the codes of their characters. -/
theorem notAfter_iff {s t : Text} : notAfter s t = true ↔
    s = t ∨ List.Lex (fun c d : Char => c.toNat < d.toNat) s t := by
  induction s generalizing t with
  | nil => cases t <;> simp [notAfter]
  | cons c s ih =>
      cases t with
      | nil => simp [notAfter]
      | cons d t =>
          simp only [notAfter, Bool.or_eq_true, decide_eq_true_eq, Bool.and_eq_true, beq_iff_eq, ih,
            List.cons.injEq, List.cons_lex_cons_iff]
          rw [and_or_left, or_left_comm]

theorem notAfter_trans {s t u : Text} (hst : notAfter s t = true) (htu : notAfter t u = true) :
    notAfter s u = true := by
  induction s generalizing t u with
  | nil => rfl
  | cons c s ih =>
      cases t with
      | nil => cases hst
      | cons d t =>
          cases u with
          | nil => cases htu
          | cons e u =>
              simp only [notAfter, Bool.or_eq_true, decide_eq_true_eq, Bool.and_eq_true,
                beq_iff_eq] at hst htu ⊢
              obtain hcd | ⟨rfl, hst⟩ := hst
              · obtain hde | ⟨rfl, -⟩ := htu
                · exact Or.inl (Nat.lt_trans hcd hde)
                · exact Or.inl hcd
              · obtain hde | ⟨rfl, htu⟩ := htu
                · exact Or.inl hde
                · exact Or.inr ⟨rfl, ih hst htu⟩

theorem notAfter_total (s t : Text) : (notAfter s t || notAfter t s) = true := by
  induction s generalizing t with
  | nil => rfl
  | cons c s ih =>
      cases t with
      | nil => rfl
      | cons d t =>
          have htail := ih t
          simp only [notAfter, Bool.or_eq_true, decide_eq_true_eq, Bool.and_eq_true,
            beq_iff_eq] at htail ⊢
          obtain hlt | heq | hgt := Nat.lt_trichotomy c.toNat d.toNat
          · exact Or.inl (Or.inl hlt)
          · have hcd : c = d := Char.toNat_inj.1 heq
            exact htail.imp (fun h => Or.inr ⟨hcd, h⟩) fun h => Or.inr ⟨hcd.symm, h⟩
          · exact Or.inr (Or.inl hgt)

end Text

namespace Config

/-- Neither of two paths leads to the other one. -/
def Apart (path other : List Key) : Prop :=
  ¬path <+: other ∧ ¬other <+: path

namespace Environment

section Values

variable {fields : Fields} {path other : List Key} {value : Value}

/-- Values with one of them set at the place that keys lead to. -/
def setAt (value : Value) : List Key → Fields → Fields
  | [], fields => fields
  | [key], fields => fields.put key value
  | key :: keys, fields =>
      let below :=
        match fields.get? key with
        | some (.map below) => below
        | _ => []
      fields.put key (.map (setAt value keys below))

/-- The keys of a setting's place are texts. -/
def Textual (path : List Key) : Prop :=
  ∀ key ∈ path, ∃ name, key = .str name

/-- The entries that are written into below a key. -/
theorem setAt_cons (value : Value) (key next : Key) (keys : List Key) (fields : Fields) :
    ∃ below, setAt value (key :: next :: keys) fields =
        fields.put key (.map (setAt value (next :: keys) below)) ∧
      (fields.get? key = some (.map below) ∨
        below = [] ∧ ∀ entries, fields.get? key ≠ some (.map entries)) := by
  cases hget : fields.get? key with
  | none => exact ⟨[], by simp [setAt, hget], by simp⟩
  | some old =>
      cases old with
      | map below => exact ⟨below, by simp [setAt, hget], Or.inl rfl⟩
      | _ => exact ⟨[], by simp [setAt, hget], by simp⟩

theorem lookup_setAt (value : Value) {path : List Key} (hne : path ≠ []) (fields : Fields) :
    (Value.map (setAt value path fields)).lookup path = some value := by
  induction path generalizing fields with
  | nil => exact absurd rfl hne
  | cons key keys ih =>
      cases keys with
      | nil => simp [setAt, Fields.get?_put]
      | cons next keys =>
          obtain ⟨below, heq, -⟩ := setAt_cons value key next keys fields
          rw [heq, Value.lookup_map_cons, Fields.get?_put]
          simpa using ih (by simp) below

/-- No path goes on from what is no mapping. -/
theorem bind_lookup_cons {old : Option Value} (h : ∀ entries, old ≠ some (.map entries)) (key : Key)
    (keys : List Key) : (old.bind fun value => value.lookup (key :: keys)) = none := by
  cases old with
  | none => rfl
  | some value =>
      cases value with
      | map entries => exact absurd rfl (h entries)
      | _ => rfl

/-- A write goes through one key only. -/
theorem get?_setAt_of_ne {name : String} {first : Key} (h : first ≠ .str name) (value : Value)
    (keys : List Key) (fields : Fields) :
    (setAt value (.str name :: keys) fields).get? first = fields.get? first := by
  have hne : ¬(Key.str name).same first = true := by
    rw [Key.same_iff, Key.code_str, eq_comm, Key.code_eq_str]
    exact h
  cases keys with
  | nil => rw [setAt, Fields.get?_put, if_neg hne]
  | cons next keys =>
      obtain ⟨below, heq, -⟩ := setAt_cons value (.str name) next keys fields
      rw [heq, Fields.get?_put, if_neg hne]

/-- A path that a write does not touch leads where it led before. -/
theorem lookup_setAt_of_apart (htextual : Textual path) (h : Apart other path) (value : Value)
    (fields : Fields) :
    (Value.map (setAt value path fields)).lookup other = (Value.map fields).lookup other := by
  induction path generalizing other fields with
  | nil => exact absurd List.nil_prefix h.2
  | cons key keys ih =>
      obtain ⟨⟨name, rfl⟩, hkeys⟩ := List.forall_mem_cons.1 htextual
      cases other with
      | nil => exact absurd List.nil_prefix h.1
      | cons first rest =>
          by_cases hfirst : first = .str name
          · subst hfirst
            have hrest : Apart rest keys := by
              simpa [Apart, List.cons_prefix_cons] using h
            cases keys with
            | nil => exact absurd List.nil_prefix hrest.2
            | cons next keys =>
                obtain ⟨below, heq, hbelow⟩ := setAt_cons value (.str name) next keys fields
                rw [heq, Value.lookup_map_cons, Value.lookup_map_cons, Fields.get?_put]
                simp only [Key.same_iff.2 rfl, if_true, Option.bind_some, ih hkeys hrest below]
                obtain hmap | ⟨rfl, hnone⟩ := hbelow
                · rw [hmap, Option.bind_some]
                · -- The new entries are empty, and the old value led nowhere.
                  cases rest with
                  | nil => exact absurd List.nil_prefix hrest.1
                  | cons after rest =>
                      rw [bind_lookup_cons hnone]
                      rfl
          · rw [Value.lookup_map_cons, Value.lookup_map_cons, get?_setAt_of_ne hfirst]

end Values

section Assign

open Document

theorem mappingAt_cases (key : Key) (entries : Entries) :
    (∃ origin below, entries.get? key = some (.map origin below) ∧
      mappingAt key entries = (origin, below)) ∨
    (∀ origin below, entries.get? key ≠ some (.map origin below)) ∧
      mappingAt key entries = (none, []) := by
  cases hget : entries.get? key with
  | none => exact Or.inr (by simp [mappingAt, hget])
  | some old =>
      cases old with
      | map origin below => exact Or.inl ⟨origin, below, rfl, by simp [mappingAt, hget]⟩
      | scalar | list => exact Or.inr (by simp [mappingAt, hget])

theorem write_cons (value : Value) (key next : Key) (keys : List Key) (entries : Entries) :
    write value (key :: next :: keys) entries =
      (entries.put key (.map (mappingAt key entries).1
          (write value (next :: keys) (mappingAt key entries).2).1),
        (write value (next :: keys) (mappingAt key entries).2).2.or
          ((mappingAt key entries).1.map fun number =>
            (number, (write value (next :: keys) (mappingAt key entries).2).1))) := rfl

theorem setAt_fields_cons (value : Value) (key next : Key) (keys : List Key) (entries : Entries) :
    setAt value (key :: next :: keys) (fields entries) =
      (fields entries).put key
        (.map (setAt value (next :: keys) (fields (mappingAt key entries).2))) := by
  cases hget : entries.get? key with
  | none => simp [setAt, mappingAt, get?_fields, hget, fields]
  | some old =>
      cases old with
      | map origin below => simp [setAt, mappingAt, get?_fields, hget, Document.value]
      | list items => simp [setAt, mappingAt, get?_fields, hget, Document.value, fields]
      | scalar name =>
          cases name <;>
            simp [setAt, mappingAt, get?_fields, hget, Document.value, Value.ofKey, fields]

/-- The values after a write are those with one value set. -/
theorem fields_write (value : Value) (keys : List Key) (entries : Entries) :
    fields (write value keys entries).1 = setAt value keys (fields entries) := by
  induction keys generalizing entries with
  | nil => rfl
  | cons key keys ih =>
      cases keys with
      | nil => rw [write, setAt, fields_put, value_ofValue]
      | cons next keys => rw [write_cons, fields_put, Document.value, ih, setAt_fields_cons]

/-- A write brings no mapping to a second place. -/
theorem entryOrigins_write (value : Value) (keys : List Key) (entries : Entries) :
    (entryOrigins (write value keys entries).1).Sublist (entryOrigins entries) := by
  induction keys generalizing entries with
  | nil => exact List.Sublist.refl _
  | cons key keys ih =>
      cases keys with
      | nil => exact entryOrigins_put_sublist_of_nil entries key (origins_ofValue value)
      | cons next keys =>
          rw [write_cons]
          obtain ⟨origin, below, hget, heq⟩ | ⟨-, heq⟩ := mappingAt_cases key entries
          · rw [heq]
            exact entryOrigins_put_sublist hget ((List.Sublist.refl _).append (ih below))
          · rw [heq]
            apply entryOrigins_put_sublist_of_nil
            exact List.sublist_nil.1 (ih [])

/-- Filling the innermost mapping with a number anew gives the written entries, when it stands at
one place. -/
theorem refillEntries_write {value : Value} {keys : List Key} {entries : Entries}
    (h : Unshared entries) {origin : Nat} {content : Entries}
    (hinner : (write value keys entries).2 = some (origin, content)) :
    origin ∈ entryOrigins entries ∧
      refillEntries origin content entries = (write value keys entries).1 := by
  induction keys generalizing entries with
  | nil => cases hinner
  | cons key keys ih =>
      cases keys with
      | nil => cases hinner
      | cons next keys =>
          rw [write_cons] at hinner ⊢
          obtain ⟨number, below, hget, heq⟩ | ⟨-, heq⟩ := mappingAt_cases key entries
          · rw [heq] at hinner ⊢
            suffices hrefill : origin ∈ origins (.map number below) ∧
                refill origin content (.map number below) =
                  .map number (write value (next :: keys) below).1 by
              rw [h.refillEntries_eq content hget hrefill.1, hrefill.2]
              exact ⟨mem_entryOrigins hget hrefill.1, rfl⟩
            obtain ⟨-, hbelow, hapart⟩ := List.nodup_append'.1 (h.part hget)
            rw [origins, refill, List.mem_append]
            cases hwrite : (write value (next :: keys) below).2 with
            | none =>
                rw [hwrite, Option.none_or] at hinner
                obtain ⟨_, rfl, heq⟩ := Option.map_eq_some_iff.1 hinner
                cases heq
                rw [if_pos rfl]
                exact ⟨Or.inl List.mem_cons_self, rfl⟩
            | some inner =>
                rw [hwrite, Option.some_or] at hinner
                cases hinner
                obtain ⟨hmem, hrefill⟩ := ih hbelow hwrite
                have hne : number ≠ some origin := by
                  rintro rfl
                  exact hapart List.mem_cons_self hmem
                rw [if_neg hne, hrefill]
                exact ⟨Or.inr hmem, rfl⟩
          · -- A new mapping has no number, nor has anything in it.
            rw [heq, Option.map_none, Option.or_none] at hinner
            have hnil : Unshared [] := List.nodup_nil
            exact absurd (ih hnil hinner).1 List.not_mem_nil

/-- Where no mapping stands at two places, an assignment is a write. -/
theorem assign_of_unshared {entries : Entries} (h : Unshared entries) (value : Value)
    (keys : List Key) : assign value keys entries = (write value keys entries).1 := by
  rw [assign]
  split
  next hwrite => rw [hwrite]
  next hwrite =>
    rw [hwrite]
    exact (refillEntries_write h (by rw [hwrite])).2.trans (by rw [hwrite])

theorem fields_assign {entries : Entries} (h : Unshared entries) (value : Value)
    (keys : List Key) : fields (assign value keys entries) = setAt value keys (fields entries) := by
  rw [assign_of_unshared h, fields_write]

theorem unshared_assign {entries : Entries} (h : Unshared entries) (value : Value)
    (keys : List Key) : Unshared (assign value keys entries) := by
  rw [assign_of_unshared h]
  exact h.sublist (entryOrigins_write value keys entries)

end Assign

section Settings

/-- The settings of an environment that lead to a place: the place with the text, in the order of
their names. -/
def placed (settings : List (Text × Text)) : List (List Key × Text) :=
  settings.filterMap fun setting =>
    (place? (setting.1.drop settingLead.length)).map fun place => (place, setting.2)

/-- The configuration with values written at places, one after the other. -/
def written (config : Fields) (writes : List (List Key × Value)) : Fields :=
  writes.foldl (fun fields write => setAt write.2 write.1 fields) config

/-- The writes that placed settings stand for. -/
def Writes (settings : List (List Key × Text)) (writes : List (List Key × Value)) : Prop :=
  List.Forall₂ (fun setting write => write.1 = setting.1 ∧ readSetting setting.2 = .ok write.2)
    settings writes

variable {config result : Entries} {log after : List LogEntry} {writes : List (List Key × Value)}

/-- Loading the settings writes them, in their order. -/
theorem run_applySetting_none {name raw : Text}
    (hplace : place? (name.drop settingLead.length) = none) (log : List LogEntry) :
    (applySetting config (name, raw)).run log = (.ok config, log ++ [.warning .configuration
      ("Ignoring malformed environment override " ++ String.ofList name)]) := by
  simp only [applySetting, hplace]
  rfl

theorem run_applySetting {name raw : Text} {place : List Key} {value : Value}
    (hplace : place? (name.drop settingLead.length) = some place)
    (hvalue : readSetting raw = .ok value) (log : List LogEntry) :
    (applySetting config (name, raw)).run log = (.ok (assign value place config), log) := by
  simp only [applySetting, hplace, Loading.run_bind, Loading.run_ofExcept, hvalue]
  rfl

theorem exists_writes {settings : List (Text × Text)} (hunshared : Document.Unshared config)
    (h : (settings.foldlM applySetting config).run log = (.ok result, after)) :
    ∃ writes, Writes (placed settings) writes ∧
      Document.fields result = written (Document.fields config) writes := by
  induction settings generalizing config log with
  | nil =>
      cases h
      exact ⟨[], .nil, rfl⟩
  | cons setting settings ih =>
      obtain ⟨name, raw⟩ := setting
      rw [List.foldlM_cons, Loading.run_bind] at h
      cases hplace : place? (name.drop settingLead.length) with
      | none =>
          rw [run_applySetting_none hplace] at h
          obtain ⟨writes, hwrites, hresult⟩ := ih hunshared h
          refine ⟨writes, ?_, hresult⟩
          rw [placed, List.filterMap_cons, hplace]
          exact hwrites
      | some place =>
          cases hvalue : readSetting raw with
          | error e =>
              simp only [applySetting, hplace, Loading.run_bind, Loading.run_ofExcept,
                hvalue] at h
              cases h
          | ok value =>
              rw [run_applySetting hplace hvalue] at h
              obtain ⟨writes, hwrites, hresult⟩ := ih (unshared_assign hunshared value place) h
              refine ⟨(place, value) :: writes, ?_, ?_⟩
              · rw [placed, List.filterMap_cons, hplace]
                exact .cons ⟨rfl, hvalue⟩ hwrites
              · rw [hresult, fields_assign hunshared]
                rfl

theorem splitDouble_ne_nil (s : Text) : splitDouble s ≠ [] := by
  fun_cases splitDouble s <;> simp_all

theorem pieces_ne_nil (name : Text) : pieces name ≠ [] := by
  rw [pieces]
  split
  · exact splitDouble_ne_nil name
  · split <;> simp

/-- A place is a path of texts, and there is a first one. -/
theorem textual_of_place? {name : Text} {place : List Key} (h : place? name = some place) :
    Textual place ∧ place ≠ [] := by
  rw [place?] at h
  split at h
  · cases h
  · cases h
    constructor
    · intro key hkey
      obtain ⟨piece, -, rfl⟩ := List.mem_map.1 hkey
      exact ⟨_, rfl⟩
    · simpa using pieces_ne_nil name

theorem textual_of_placed {settings : List (Text × Text)} :
    ∀ setting ∈ placed settings, Textual setting.1 ∧ setting.1 ≠ [] := by
  intro setting hsetting
  obtain ⟨_, -, hplaced⟩ := List.mem_filterMap.1 hsetting
  obtain ⟨place, hplace, rfl⟩ := Option.map_eq_some_iff.1 hplaced
  exact textual_of_place? hplace

theorem Writes.textual {settings : List (List Key × Text)} (h : Writes settings writes)
    (hsettings : ∀ setting ∈ settings, Textual setting.1 ∧ setting.1 ≠ []) :
    ∀ write ∈ writes, Textual write.1 ∧ write.1 ≠ [] := by
  induction h with
  | nil => simp
  | cons hwrite _ ih =>
      obtain ⟨hsetting, hothers⟩ := List.forall_mem_cons.1 hsettings
      rw [List.forall_mem_cons]
      constructor
      · rwa [hwrite.1]
      · exact ih hothers

/-- What no write touches is as it was. -/
theorem lookup_written_of_apart {path : List Key} (htextual : ∀ write ∈ writes, Textual write.1)
    (h : ∀ write ∈ writes, Apart path write.1) (config : Fields) :
    (Value.map (written config writes)).lookup path = (Value.map config).lookup path := by
  induction writes generalizing config with
  | nil => rfl
  | cons write writes ih =>
      obtain ⟨hwrite, hwrites⟩ := List.forall_mem_cons.1 htextual
      obtain ⟨hapart, hothers⟩ := List.forall_mem_cons.1 h
      exact (ih hwrites hothers _).trans (lookup_setAt_of_apart hwrite hapart _ _)

/-- A write that no later one touches is seen at its path. -/
theorem lookup_written {earlier later : List (List Key × Value)} {write : List Key × Value}
    (hne : write.1 ≠ []) (htextual : ∀ other ∈ later, Textual other.1)
    (h : ∀ other ∈ later, Apart write.1 other.1) (config : Fields) :
    (Value.map (written config (earlier ++ write :: later))).lookup write.1 = some write.2 := by
  have hsplit : written config (earlier ++ write :: later) =
      written (setAt write.2 write.1 (written config earlier)) later := by
    rw [written, List.foldl_append, List.foldl_cons]
    rfl
  rw [hsplit, lookup_written_of_apart htextual h, lookup_setAt write.2 hne]

/-- Settings are taken in the order of their names. -/
theorem pairwise_settings (environment : Environment) : environment.settings.Pairwise fun a b =>
    a.1 = b.1 ∨ List.Lex (fun c d : Char => c.toNat < d.toNat) a.1 b.1 := by
  have hsorted := @List.pairwise_mergeSort _ (fun a b : Text × Text => Text.notAfter a.1 b.1)
    (fun _ _ _ => Text.notAfter_trans) (fun a b => Text.notAfter_total a.1 b.1)
    (environment.filter fun entry => Text.startsWith settingLead entry.1)
  exact hsorted.imp Text.notAfter_iff.1

end Settings

namespace Respelled

/-- One setting in two spellings, another one with a truth value, one without a place, and a
variable that is no setting. -/
def environment : Environment := [
  ("JDISTS_BUILD__TRIGGER".toList, ['b']), ("PATH".toList, ['c']),
  ("JDISTS_BUILD_TRIGGER".toList, ['a']), ("JDISTS_".toList, ['d']),
  ("JDISTS_build__CLEAN".toList, "False".toList)]

def result : Fields := [
  (.str "build", .map [
    (.str "clean", .bool false),
    (.str "remove", .str "debug,test"),
    (.str "trigger", .str "b"),
    (.str "encoding", .str "utf-8"),
    (.str "binary_extensions", .list (defaultExtensions.map .str))]),
  (.str "logging", .map [(.str "level", .str "WARNING")])]

def log : List LogEntry :=
  [.warning .configuration "Ignoring malformed environment override JDISTS_"]

theorem settings_eq : environment.settings = [
    ("JDISTS_".toList, ['d']), ("JDISTS_BUILD_TRIGGER".toList, ['a']),
    ("JDISTS_BUILD__TRIGGER".toList, ['b']), ("JDISTS_build__CLEAN".toList, "False".toList)] := by
  have hfilter : (environment.filter fun entry => Text.startsWith settingLead entry.1) = [
      ("JDISTS_BUILD__TRIGGER".toList, ['b']), ("JDISTS_BUILD_TRIGGER".toList, ['a']),
      ("JDISTS_".toList, ['d']), ("JDISTS_build__CLEAN".toList, "False".toList)] := by
    with_unfolding_all rfl
  rw [settings, hfilter]
  simp [List.mergeSort, List.MergeSort.Internal.splitInTwo, Text.notAfter]

theorem place?_nowhere : place? ("JDISTS_".toList.drop settingLead.length) = none := by
  rfl

theorem place?_single : place? ("JDISTS_BUILD_TRIGGER".toList.drop settingLead.length) =
    some [.str "build", .str "trigger"] := by
  rfl

theorem place?_double : place? ("JDISTS_BUILD__TRIGGER".toList.drop settingLead.length) =
    some [.str "build", .str "trigger"] := by
  rfl

theorem place?_clean : place? ("JDISTS_build__CLEAN".toList.drop settingLead.length) =
    some [.str "build", .str "clean"] := by
  rfl

theorem readSetting_last : readSetting ['b'] = .ok (.str "b") := by
  rfl

theorem run_overlay : (environment.overlay (Document.ofFields defaults)).run [] =
    (.ok (Document.ofFields result), log) := by
  have hfirst : readSetting ['a'] = .ok (.str "a") := by rfl
  have hclean : readSetting "False".toList = .ok (.bool false) := by rfl
  rw [overlay, settings_eq]
  simp only [List.foldlM_cons, List.foldlM_nil, Loading.run_bind,
    run_applySetting_none place?_nowhere, run_applySetting place?_single hfirst,
    run_applySetting place?_double readSetting_last, run_applySetting place?_clean hclean]
  rfl

theorem placed_settings : placed environment.settings = [
    ([.str "build", .str "trigger"], ['a']),
    ([.str "build", .str "trigger"], ['b']),
    ([.str "build", .str "clean"], "False".toList)] := by
  rw [settings_eq, placed]
  simp only [List.filterMap_cons, List.filterMap_nil, place?_nowhere, place?_single,
    place?_double, place?_clean, Option.map_none, Option.map_some]

end Respelled

namespace Aliased

/-- A mapping that stands at two places. -/
def config : Entries := [
  (.str "x", .map (some 0) [(.str "k", .scalar (.int 1))]),
  (.str "y", .map (some 0) [(.str "k", .scalar (.int 1))])]

/-- One setting, for the first place. -/
def environment : Environment := [("JDISTS_X__K".toList, ['2'])]

def result : Entries := [
  (.str "x", .map (some 0) [(.str "k", .scalar (.int 2))]),
  (.str "y", .map (some 0) [(.str "k", .scalar (.int 2))])]

theorem settings_eq : environment.settings = [("JDISTS_X__K".toList, ['2'])] := by
  have hfilter : (environment.filter fun entry => Text.startsWith settingLead entry.1) =
      [("JDISTS_X__K".toList, ['2'])] := by
    with_unfolding_all rfl
  rw [settings, hfilter, List.mergeSort_singleton]

theorem place?_eq : place? ("JDISTS_X__K".toList.drop settingLead.length) =
    some [.str "x", .str "k"] := by
  rfl

theorem run_overlay : (environment.overlay config).run [] = (.ok result, []) := by
  have hvalue : readSetting ['2'] = .ok (.int 2) := by rfl
  rw [overlay, settings_eq]
  simp only [List.foldlM_cons, List.foldlM_nil, Loading.run_bind,
    run_applySetting place?_eq hvalue]
  rfl

theorem placed_settings :
    placed environment.settings = [([.str "x", .str "k"], ['2'])] := by
  rw [settings_eq, placed]
  simp only [List.filterMap_cons, List.filterMap_nil, place?_eq, Option.map_some]

end Aliased

end Environment
end Config
end BlockWeave
