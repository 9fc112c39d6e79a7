import BlockWeave.Config.Schema
import BlockWeave.Proofs.Value.Keys

/-!
# What the rules accept

Whether a rule objects to a value does not depend on where the value stands. For each way of
putting rules together this says which values are accepted, and so which configurations are.
-/

namespace BlockWeave.Config

/-- A text that starts with something other than a period. -/
def StartsBare (text : String) : Prop :=
  ∃ first rest, text.toList = first :: rest ∧ first ≠ '.'

/-- The section of the builds in a configuration that is accepted. -/
structure BuildSection (fields : Fields) : Prop where
  known : ∀ field ∈ fields,
    ∃ name ∈ ["clean", "remove", "trigger", "encoding", "binary_extensions"], field.1 = .str name
  clean : ∀ value, fields.get? (.str "clean") = some value → ∃ b, value = .bool b
  remove : ∀ value, fields.get? (.str "remove") = some value →
    (∃ text, value = .str text) ∨ ∃ texts : List String, value = .list (texts.map .str)
  trigger : ∀ value, fields.get? (.str "trigger") = some value →
    ∃ text, text ≠ "" ∧ value = .str text
  encoding : ∀ value, fields.get? (.str "encoding") = some value →
    ∃ text, text ≠ "" ∧ value = .str text
  binaryExtensions : ∀ value, fields.get? (.str "binary_extensions") = some value →
    ∃ texts : List String, (∀ text ∈ texts, StartsBare text) ∧ value = .list (texts.map .str)

/-- The section of the log in a configuration that is accepted. -/
structure LoggingSection (fields : Fields) : Prop where
  known : ∀ field ∈ fields, field.1 = .str "level"
  level : ∀ value, fields.get? (.str "level") = some value →
    ∃ name ∈ ["DEBUG", "INFO", "WARNING", "ERROR", "CRITICAL"], value = .str name

/-- A configuration that is accepted. -/
structure Accepted (fields : Fields) : Prop where
  build : ∀ value, fields.get? (.str "build") = some value →
    ∃ entries, value = .map entries ∧ BuildSection entries
  logging : ∀ value, fields.get? (.str "logging") = some value →
    ∃ entries, value = .map entries ∧ LoggingSection entries

theorem ValueKind.admits_iff {kind : ValueKind} {value : Value} : kind.admits value = true ↔
    match kind with
    | .truth => ∃ b, value = .bool b
    | .text => ∃ text, value = .str text
    | .list => ∃ items, value = .list items
    | .mapping => ∃ fields, value = .map fields := by
  cases kind <;> cases value <;> simp [ValueKind.admits]

/-- The items of a list are texts. -/
theorem exists_texts {items : List Value} (h : ∀ item ∈ items, ∃ text, item = .str text) :
    ∃ texts : List String, items = texts.map .str := by
  induction items with
  | nil => exact ⟨[], rfl⟩
  | cons item items ih =>
      obtain ⟨text, rfl⟩ := h item List.mem_cons_self
      obtain ⟨texts, rfl⟩ := ih fun other hother => h other (List.mem_cons_of_mem _ hother)
      exact ⟨text :: texts, rfl⟩

namespace Rule

/-- A rule has no objection exactly to the values with a property, wherever they stand. -/
def Accepts (rule : Rule) (P : Value → Prop) : Prop :=
  ∀ place value, rule place value = [] ↔ P value

section Combinations

variable {rule : Rule} {rules : List Rule} {P Q : Value → Prop}

theorem Accepts.congr (h : rule.Accepts P) (hiff : ∀ value, P value ↔ Q value) : rule.Accepts Q :=
  fun place value => (h place value).trans (hiff value)

theorem accepts_ofKind (kind : ValueKind) :
    (ofKind kind).Accepts fun v => kind.admits v = true := by
  intro place value
  by_cases h : kind.admits value = true <;> simp [ofKind, h]

theorem accepts_all_nil : (all []).Accepts fun _ => True := by
  intro place value
  simp [all]

theorem Accepts.all_cons (h : rule.Accepts P) (hrest : (all rules).Accepts Q) :
    (all (rule :: rules)).Accepts fun v => P v ∧ Q v := by
  intro place value
  calc all (rule :: rules) place value = []
      ↔ rule place value = [] ∧ all rules place value = [] := by simp [all]
    _ ↔ P value ∧ Q value := and_congr (h place value) (hrest place value)

/-- Two rules. -/
theorem Accepts.pair {other : Rule} (h : rule.Accepts P) (hother : other.Accepts Q) :
    (all [rule, other]).Accepts fun v => P v ∧ Q v :=
  (h.all_cons (hother.all_cons accepts_all_nil)).congr fun value => by simp

theorem Accepts.items (h : rule.Accepts P) :
    (items rule).Accepts fun v => ∀ items, v = .list items → ∀ item ∈ items, P item := by
  intro place value
  cases value with
  | list items =>
      have hitem (item : Value) (index : Nat) :
          rule (place ++ [.index index]) item = [] ↔ P item := h _ item
      simp only [Rule.items, List.flatMap_eq_nil_iff, Prod.forall, hitem, Value.list.injEq]
      constructor
      · rintro hall items rfl item hmem
        obtain ⟨index, hindex⟩ := List.mem_iff_getElem?.1 hmem
        exact hall item index (List.mk_mem_zipIdx_iff_getElem?.2 hindex)
      · intro hall item index hmem
        exact hall items rfl item (List.fst_mem_of_mem_zipIdx hmem)
  | _ => simp [Rule.items]

theorem accepts_entries_nil : (entries []).Accepts fun _ => True := by
  intro place value
  simp [entries]

theorem Accepts.entries_cons {parts : List (String × Rule)} (h : rule.Accepts P)
    (hrest : (entries parts).Accepts Q) (name : String) :
    (entries ((name, rule) :: parts)).Accepts fun v =>
      (∀ part, v.field? name = some part → P part) ∧ Q v := by
  intro place value
  change _ ↔ (∀ part, value.field? name = some part → P part) ∧ Q value
  rw [← hrest place value]
  cases hpart : value.field? name with
  | none => simp [entries, hpart]
  | some part => simp [entries, hpart, h (place ++ [.key name]) part]

theorem unknownKeys_eq_nil {names : List String} {fields : Fields} :
    unknownKeys names fields = [] ↔ ∀ field ∈ fields, ∃ name ∈ names, field.1 = .str name := by
  rw [unknownKeys, ← List.length_eq_zero_iff, List.length_mergeSort, List.length_eq_zero_iff]
  simp [List.filter_eq_nil_iff]

theorem accepts_closed (names : List String) : (closed names).Accepts fun v =>
    ∀ fields, v = .map fields → ∀ field ∈ fields, ∃ name ∈ names, field.1 = .str name := by
  intro place value
  cases value with
  | map fields =>
      simp only [closed, Value.map.injEq, forall_eq']
      rw [← unknownKeys_eq_nil]
      split
      next h => simp [h]
      next h => simpa using h
  | _ => simp [closed]

theorem Accepts.record {parts : List (String × Rule)} (h : (entries parts).Accepts P) :
    (record parts).Accepts fun v => ∃ fields, v = .map fields ∧ P v ∧
      ∀ field ∈ fields, ∃ name ∈ parts.map Prod.fst, field.1 = .str name := by
  apply ((accepts_ofKind _).all_cons (h.pair (accepts_closed _))).congr
  intro value
  rw [ValueKind.admits_iff]
  constructor
  · rintro ⟨⟨fields, rfl⟩, hparts, hclosed⟩
    exact ⟨fields, rfl, hparts, hclosed fields rfl⟩
  · rintro ⟨fields, rfl, hparts, hclosed⟩
    refine ⟨⟨fields, rfl⟩, hparts, ?_⟩
    rintro _ ⟨⟩
    exact hclosed

end Combinations

theorem accepts_nonEmptyText : (all [ofKind .text, nonEmpty]).Accepts fun v =>
    ∃ text, text ≠ "" ∧ v = .str text := by
  intro place value
  cases value <;> simp [all, ofKind, ValueKind.admits, nonEmpty, Value.equal]

theorem accepts_bareText : (all [ofKind .text, noPeriod]).Accepts fun v =>
    ∃ text, StartsBare text ∧ v = .str text := by
  intro place value
  cases value with
  | str text =>
      cases htext : text.toList with
      | nil => simp [all, ofKind, ValueKind.admits, noPeriod, StartsBare, htext]
      | cons first rest => simp [all, ofKind, ValueKind.admits, noPeriod, StartsBare, htext]
  | _ => simp [all, ofKind, ValueKind.admits]

theorem accepts_bareTexts :
    (all [ofKind .list, items (all [ofKind .text, noPeriod])]).Accepts fun v =>
      ∃ texts : List String, (∀ text ∈ texts, StartsBare text) ∧ v = .list (texts.map .str) := by
  apply ((accepts_ofKind _).pair accepts_bareText.items).congr
  intro value
  rw [ValueKind.admits_iff]
  constructor
  · rintro ⟨⟨items, rfl⟩, hitems⟩
    have hbare := hitems items rfl
    obtain ⟨texts, rfl⟩ := exists_texts fun item hitem => (hbare item hitem).imp fun _ h => h.2
    refine ⟨texts, ?_, rfl⟩
    intro text htext
    obtain ⟨_, hstart, ⟨⟩⟩ := hbare _ (List.mem_map_of_mem htext)
    exact hstart
  · rintro ⟨texts, hbare, rfl⟩
    refine ⟨⟨_, rfl⟩, ?_⟩
    rintro _ ⟨⟩ item hitem
    obtain ⟨text, htext, rfl⟩ := List.mem_map.1 hitem
    exact ⟨text, hbare text htext, rfl⟩

theorem accepts_textOrTexts : textOrTexts.Accepts fun v =>
    (∃ text, v = .str text) ∨ ∃ texts : List String, v = .list (texts.map .str) := by
  intro place value
  cases value with
  | str text => simp [textOrTexts]
  | list items =>
      have htexts := (accepts_ofKind .text).items place (.list items)
      simp only [ValueKind.admits_iff, Value.list.injEq, forall_eq'] at htexts
      calc textOrTexts place (.list items) = []
          ↔ ofKind .list place (.list items) ++ Rule.items (ofKind .text) place (.list items) =
              [] := by
            simp only [textOrTexts]
            split
            next h => simp [h]
            next h => simp [h]
        _ ↔ ∀ item ∈ items, ∃ text, item = .str text := by
            simp [htexts, ofKind, ValueKind.admits]
        _ ↔ ∃ texts : List String, items = texts.map .str := by
            constructor
            · exact exists_texts
            · rintro ⟨texts, rfl⟩
              simp
        _ ↔ _ := by simp
  | _ => simp [textOrTexts, ofKind, ValueKind.admits, items]

theorem accepts_build :
    build.Accepts fun v => ∃ fields, v = .map fields ∧ BuildSection fields := by
  have hextensions := accepts_bareTexts.entries_cons accepts_entries_nil "binary_extensions"
  have hencoding := accepts_nonEmptyText.entries_cons hextensions "encoding"
  have htrigger := accepts_nonEmptyText.entries_cons hencoding "trigger"
  have hremove := accepts_textOrTexts.entries_cons htrigger "remove"
  have hclean := (accepts_ofKind .truth).entries_cons hremove "clean"
  apply hclean.record.congr
  intro value
  constructor
  · rintro ⟨fields, rfl, ⟨hclean, hremove, htrigger, hencoding, hextensions, -⟩, hknown⟩
    refine ⟨fields, rfl, hknown, ?_, hremove, htrigger, hencoding, hextensions⟩
    exact fun value hvalue => ValueKind.admits_iff.1 (hclean value hvalue)
  · rintro ⟨fields, rfl, h⟩
    have hclean : ∀ part, (Value.map fields).field? "clean" = some part →
        ValueKind.truth.admits part = true :=
      fun value hvalue => ValueKind.admits_iff.2 (h.clean value hvalue)
    exact ⟨fields, rfl, ⟨hclean, h.remove, h.trigger, h.encoding, h.binaryExtensions, trivial⟩,
      h.known⟩

theorem accepts_level : (all [ofKind .text,
    oneOf ["DEBUG", "INFO", "WARNING", "ERROR", "CRITICAL"]]).Accepts fun v =>
    ∃ name ∈ ["DEBUG", "INFO", "WARNING", "ERROR", "CRITICAL"], v = .str name := by
  intro place value
  cases value with
  | str name => simp [all, ofKind, ValueKind.admits, oneOf, Value.equal, or_iff_not_imp_left]
  | _ => simp [all, ofKind, ValueKind.admits]

theorem accepts_logging :
    logging.Accepts fun v => ∃ fields, v = .map fields ∧ LoggingSection fields := by
  have hlevel := accepts_level.entries_cons accepts_entries_nil "level"
  apply hlevel.record.congr
  intro value
  constructor
  · rintro ⟨fields, rfl, ⟨hlevel, -⟩, hknown⟩
    exact ⟨fields, rfl, by simpa using hknown, hlevel⟩
  · rintro ⟨fields, rfl, h⟩
    exact ⟨fields, rfl, ⟨h.level, trivial⟩, by simpa using h.known⟩

theorem accepts_config : config.Accepts fun v => ∃ fields, v = .map fields ∧ Accepted fields := by
  have hlogging := accepts_logging.entries_cons accepts_entries_nil "logging"
  have hbuild := accepts_build.entries_cons hlogging "build"
  apply ((accepts_ofKind .mapping).pair hbuild).congr
  intro value
  rw [ValueKind.admits_iff]
  constructor
  · rintro ⟨⟨fields, rfl⟩, hbuild, hlogging, -⟩
    exact ⟨fields, rfl, hbuild, hlogging⟩
  · rintro ⟨fields, rfl, h⟩
    exact ⟨⟨fields, rfl⟩, h.build, h.logging, trivial⟩

end Rule

/-- The check passes exactly the configurations that no rule objects to. -/
theorem check_eq_ok_iff {config : Value} :
    check config = .ok () ↔ ∃ fields, config = .map fields ∧ Accepted fields := by
  calc check config = .ok () ↔ Rule.config [] config = [] := by
        rw [check]
        cases Rule.config [] config with
        | nil => simp [Violation.worst?]
        | cons first rest => simp [Violation.worst?]
    _ ↔ _ := Rule.accepts_config [] config

end BlockWeave.Config
