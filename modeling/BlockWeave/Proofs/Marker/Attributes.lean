import BlockWeave.Proofs.Marker.Writing
import Mathlib.Data.List.Forall2

/-!
# The attributes of a marker

The rules read the attributes behind a tag as a run of items, and the attributes are later
collected from the same text by a search that may start anywhere. Both find the same items. A
value holds no quote, so the search passes over the blanks in front of an item, takes the item
whole, and goes on behind its closing quote: it never starts inside a value, also where the value
is written like an assignment.
-/

namespace BlockWeave

/-- A traversal that may fail succeeds with the results of its steps. -/
theorem mapM_eq_ok_iff {α β : Type} {f : α → Except Error β} {inputs : List α} {results : List β} :
    inputs.mapM f = .ok results ↔
      List.Forall₂ (fun input result => f input = .ok result) inputs results := by
  induction inputs generalizing results with
  | nil =>
      rw [List.mapM_nil, List.forall₂_nil_left_iff]
      exact ⟨fun h => (Except.ok.inj h).symm, fun h => congrArg Except.ok h.symm⟩
  | cons input inputs ih =>
      rw [List.mapM_cons]
      constructor
      · intro h
        obtain ⟨result, hresult, h⟩ := ok_of_bind h
        obtain ⟨others, hothers, h⟩ := ok_of_bind h
        cases h
        exact .cons hresult (ih.1 hothers)
      · intro h
        obtain ⟨result, others, hresult, hothers, rfl⟩ := List.forall₂_cons_left_iff.1 h
        rw [hresult, ih.2 hothers]
        rfl

/-- The bindings that items write: their names, each with its decoded value, in order. -/
def Binds (items : List (Text × Assignment)) (bindings : List (Text × Text)) : Prop :=
  List.Forall₂ (fun item binding => binding.1 = item.2.name ∧
    Text.decodeEntities item.2.value = .ok binding.2) items bindings

section Items

variable {items others : List (Text × Assignment)} {bindings : List (Text × Text)}

theorem Binds.names (h : Binds items bindings) :
    bindings.map Prod.fst = items.map (·.2.name) := by
  rw [← List.forall₂_eq_eq_eq, List.forall₂_map_left_iff, List.forall₂_map_right_iff]
  exact h.flip.imp fun _ _ hbinding => hbinding.1

/-- An attribute text is made of items in one way only. -/
theorem ProperItems.unique (h : ProperItems items) (hothers : ProperItems others)
    (heq : attributeText others = attributeText items) : others = items := by
  have hnone : Assignment.read? ([].dropWhile Text.isAsciiBlank) = none := rfl
  have hread := attributeList_attributeText h hnone
  have hother := attributeList_attributeText hothers hnone
  rw [heq, hread] at hother
  exact (Prod.mk.inj hother).1.symm

/-- Collecting the attributes of an attribute text makes the bindings of its items. -/
theorem Attributes.decodeItems_eq_ok_iff (h : ProperItems items) {table : Table Text Text} :
    decodeItems (attributeText items) = .ok table ↔
      ∃ bindings, Binds items bindings ∧ table = Table.ofList bindings := by
  have hstep (a : Assignment) (binding : Text × Text) :
      (do return (a.name, ← Text.decodeEntities a.value) : Except Error (Text × Text)) =
          .ok binding ↔
        binding.1 = a.name ∧ Text.decodeEntities a.value = .ok binding.2 := by
    obtain ⟨name, value⟩ := binding
    constructor
    · intro hok
      obtain ⟨decoded, hdecoded, hok⟩ := ok_of_bind hok
      cases hok
      exact ⟨rfl, hdecoded⟩
    · rintro ⟨rfl, hdecoded⟩
      simp only [hdecoded]
      rfl
  have hall (bindings : List (Text × Text)) :
      (items.map Prod.snd).mapM (fun a => do
          return (a.name, ← Text.decodeEntities a.value)) = (.ok bindings : Except Error _) ↔
        Binds items bindings := by
    rw [mapM_eq_ok_iff, List.forall₂_map_left_iff, Binds]
    simp only [hstep]
  rw [decodeItems, findAssignments_attributeText h]
  constructor
  · intro hok
    obtain ⟨bindings, hbindings, hok⟩ := ok_of_bind hok
    exact ⟨bindings, (hall bindings).1 hbindings, (Except.ok.inj hok).symm⟩
  · rintro ⟨bindings, hbindings, rfl⟩
    rw [(hall bindings).2 hbindings]
    rfl

end Items

theorem Written.isAttributeText {rule : Rule} {m : Marker} (h : Written rule m) :
    IsAttributeText m.attrText := by
  cases h <;> assumption

/-- The attribute text of a marker follows the grammar. -/
theorem isAttributeText_of_markerAt? {content : Text} {pointer base : Int} {m : Marker}
    (h : markerAt? content pointer base = some m) : IsAttributeText m.attrText := by
  obtain ⟨rule, -, hread⟩ := List.exists_of_findSome?_eq_some h
  exact (Rule.reads_of_read? hread).1.isAttributeText

/-- The rules and the search agree on the attributes of a marker. Its attribute text is made of
items in exactly one way, and the search finds these items and no others. The attributes, where
all values can be decoded and all paths resolved, are the names of the items in the order in
which they first stand, each with the decoded value of its last item. -/
theorem markerAt?_attributes {content : Text} {pointer base : Int} {m : Marker}
    (h : markerAt? content pointer base = some m) :
    (∃! items, ProperItems items ∧ m.attrText = attributeText items) ∧
    ∀ items, ProperItems items → m.attrText = attributeText items →
      findAssignments m.attrText = items.map Prod.snd ∧
      ∀ directory attributes, Attributes.parse directory m.attrText = .ok attributes →
        ∃ bindings, Binds items bindings ∧
          attributes.items.names = (items.map (·.2.name)).eraseDups ∧
          ∀ name, attributes.items.get? name = bindings.reverse.lookup name := by
  constructor
  · obtain ⟨items, hitems, htext⟩ := isAttributeText_of_markerAt? h
    refine ⟨items, ⟨hitems, htext⟩, ?_⟩
    rintro others ⟨hothers, heq⟩
    exact hitems.unique hothers (heq.symm.trans htext)
  · intro items hitems htext
    rw [htext]
    refine ⟨findAssignments_attributeText hitems, ?_⟩
    intro directory attributes hparse
    obtain ⟨table, htable, -⟩ := ok_of_bind hparse
    obtain ⟨bindings, hbindings, rfl⟩ := (Attributes.decodeItems_eq_ok_iff hitems).1 htable
    rw [Attributes.items_eq_of_parse hparse htable]
    refine ⟨bindings, hbindings, ?_, Table.get?_ofList bindings⟩
    rw [Table.names_ofList, hbindings.names]

namespace Repeated

/-- A name that is given twice, around a value that is written like an assignment. -/
def items : List (Text × Assignment) := [
  ([' '], { name := ['a'], gapBefore := [' '], gapAfter := [' '], value := ['x'] }),
  ([' '], { name := ['b'], gapBefore := [], gapAfter := [], value := "a=&lt;".toList }),
  (['\n'], { name := ['a'], gapBefore := [], gapAfter := [], value := "&gt;".toList })]

def bindings : List (Text × Text) := [(['a'], ['x']), (['b'], "a=<".toList), (['a'], ['>'])]

def marker : Marker :=
  .pair .block ['t'] (attributeText items) [] 0

theorem properItems : ProperItems items := by
  have hspace : Blanks [' '] := List.all_eq_true.1 rfl
  have hfeed : Blanks ['\n'] := List.all_eq_true.1 rfl
  have hnil : Blanks [] := List.all_eq_true.1 rfl
  simp only [items, ProperItems, List.forall_mem_cons]
  refine ⟨⟨hspace, ⟨by decide, List.all_eq_true.1 rfl⟩, hspace, hspace, by decide, by decide⟩,
    ⟨hspace, ⟨by decide, List.all_eq_true.1 rfl⟩, hnil, hnil, by decide, by decide⟩,
    ⟨hfeed, ⟨by decide, List.all_eq_true.1 rfl⟩, hnil, hnil, by decide, by decide⟩, ?_⟩
  intro item hitem
  cases hitem

theorem markerAt?_text : markerAt? marker.text 0 0 = some marker := by
  have hspaced : Spaced items := by
    simp [Spaced, items]
  have hread := @readMarker?_markerPair .block items properItems hspaced 0 ['t'] []
    ⟨by decide, List.all_eq_true.1 rfl⟩ (by decide) (fun _ _ _ => Nat.zero_le _) []
  rwa [List.append_nil] at hread

theorem binds : Binds items bindings :=
  .cons ⟨rfl, Text.decodeEntities_encodeEntities ['x']⟩
    (.cons ⟨rfl, Text.decodeEntities_encodeEntities "a=<".toList⟩
      (.cons ⟨rfl, Text.decodeEntities_encodeEntities ['>']⟩ .nil))

theorem parse_attrText : Attributes.parse ['/'] marker.attrText =
    .ok { items := Table.ofList bindings, filePath := none, exportPath := none } := by
  have hdecode := (Attributes.decodeItems_eq_ok_iff properItems).2 ⟨bindings, binds, rfl⟩
  rw [Attributes.parse, show marker.attrText = attributeText items from rfl, hdecode]
  rfl

end Repeated

theorem markerAt?_attributes_repeated : ∃ m attributes,
    markerAt? Repeated.marker.text 0 0 = some m ∧
    Attributes.parse ['/'] m.attrText = .ok attributes ∧
    (∃! items, ProperItems items ∧ m.attrText = attributeText items) ∧
    attributes.items.names = [['a'], ['b']] ∧
    attributes.items.get? ['a'] = some ['>'] := by
  obtain ⟨hunique, hitems⟩ := markerAt?_attributes Repeated.markerAt?_text
  obtain ⟨-, hparse⟩ := hitems Repeated.items Repeated.properItems rfl
  obtain ⟨-, -, hnames, -⟩ := hparse _ _ Repeated.parse_attrText
  refine ⟨_, _, Repeated.markerAt?_text, Repeated.parse_attrText, hunique, ?_, ?_⟩
  · rw [hnames]
    decide
  · decide

end BlockWeave
