import BlockWeave.Proofs.Discovery.Shift
import BlockWeave.Proofs.Include.Splicing
import BlockWeave.Proofs.Text.Tidy
import BlockWeave.Proofs.Weaving.Gives

/-!
# Building the output of a build

The output of a build may hold markers: those that are kept, and those whose parts came
together when something between them was left out. Building it again gives the same text
exactly when none of its markers is one that is dropped, as long as no marker in it refers
to anything and no shorthand can form.

## Implementation notes

Without references and shorthands, resolving a text only leaves characters out. A text that
is left is the same as before exactly when nothing was left out (`Cut`), and this is
followed through the pieces of a text and the bodies of its markers.
-/

namespace BlockWeave

open Weaving Discovery

/-- Characters are left out of a text exactly where something is dropped. -/
structure Cut (dropped : Prop) (out text : Text) : Prop where
  sublist : out.Sublist text
  eq_iff : out = text ↔ ¬dropped

namespace Cut

variable {p q : Prop} {out text rest more : Text}

theorem refl (h : ¬p) : Cut p text text :=
  ⟨List.Sublist.refl text, iff_of_true rfl h⟩

theorem nil (h : p) (hne : text ≠ []) : Cut p [] text :=
  ⟨List.nil_sublist text, iff_of_false hne.symm (not_not_intro h)⟩

theorem congr (h : Cut p out text) (hpq : p ↔ q) : Cut q out text :=
  ⟨h.sublist, h.eq_iff.trans (not_congr hpq)⟩

/-- Two texts in a row are whole when both are. -/
theorem append (h : Cut p out text) (h' : Cut q rest more) :
    Cut (p ∨ q) (out ++ rest) (text ++ more) := by
  refine ⟨h.sublist.append h'.sublist, ?_⟩
  rw [not_or, ← h.eq_iff, ← h'.eq_iff]
  constructor
  · intro he
    have hle := h.sublist.length_le
    have hle' := h'.sublist.length_le
    have hlength := congrArg List.length he
    rw [List.length_append, List.length_append] at hlength
    exact List.append_inj he (by omega)
  · rintro ⟨rfl, rfl⟩
    rfl

/-- A marker is whole when its body is. -/
theorem rebuild (marker : Marker) (h : Cut p out marker.body) :
    Cut p (marker.rebuild out) marker.text := by
  have hhead : Cut False marker.head marker.head := refl not_false
  have hclosing : Cut False marker.closing marker.closing := refl not_false
  exact ((hhead.append h).append hclosing).congr (by simp)

end Cut

/-- No marker of a text that the search looks at refers to anything or is malformed. -/
def Discovery.NoReferences (file : Text) (trigger : Option Text) (text : Text) : Prop :=
  ∀ found ∈ findings file trigger 0 text, ∃ finding, found = .ok finding ∧
    finding.tag ∉ referenceTags

namespace Discovery.NoReferences

variable {file text : Text} {trigger : Option Text} {marker : Marker} {attributes : Attributes}

theorem refersNowhere (h : NoReferences file trigger text) : RefersNowhere file trigger text := by
  intro found hfound
  obtain ⟨finding, he, htag⟩ := h found hfound
  exact ⟨finding, he, if_neg htag⟩

/-- All that the search finds at a marker is found in the text. -/
theorem of_mem (h : NoReferences file trigger text) (hmarker : marker ∈ markers 0 text)
    (found : Except Error Finding) (hfound : found ∈ findingsAt file trigger marker) :
    ∃ finding, found = .ok finding ∧ finding.tag ∉ referenceTags := by
  refine h found ?_
  rw [findings_eq]
  exact List.mem_flatMap.2 ⟨marker, hmarker, hfound⟩

theorem exists_parse (h : NoReferences file trigger text) (hmarker : marker ∈ markers 0 text) :
    ∃ attributes, Attributes.parse (Path.parent file) marker.attrText = .ok attributes := by
  cases hparse : Attributes.parse (Path.parent file) marker.attrText with
  | ok attributes => exact ⟨attributes, rfl⟩
  | error e =>
      obtain ⟨finding, he, -⟩ := h.of_mem hmarker (.error e) (by simp [findingsAt, hparse])
      cases he

theorem tag_notMem (h : NoReferences file trigger text) (hmarker : marker ∈ markers 0 text)
    (hlive : Live file trigger marker attributes) : marker.tag ∉ referenceTags := by
  obtain ⟨finding, he, htag⟩ := h.of_mem hmarker
    (.ok ⟨file, marker.tag, marker.occurrence attributes⟩) (by simp [findingsAt_live hlive])
  cases he
  exact htag

/-- The body of a marker has no references either. -/
theorem body (h : NoReferences file trigger text) (hmarker : marker ∈ markers 0 text)
    (hlive : Live file trigger marker attributes) : NoReferences file trigger marker.body := by
  intro found hfound
  have hshift := findings_shift file trigger 0 marker.bodyOffset marker.body
  rw [Int.zero_add] at hshift
  have hmem : found.map (Finding.shift · marker.bodyOffset) ∈ findingsAt file trigger marker := by
    rw [findingsAt_live hlive, hshift]
    exact List.mem_cons_of_mem _ (List.mem_map_of_mem hfound)
  obtain ⟨finding, he, htag⟩ := h.of_mem hmarker _ hmem
  cases found with
  | error e => cases he
  | ok found =>
      cases he
      exact ⟨found, rfl, htag⟩

end Discovery.NoReferences

/-- A marker that is dropped stands in a text: one with a removed tag, one for another trigger
that exports, or a `remove`; or it stands in the body of a marker for the active trigger. -/
inductive Drops (removed : List Text) (file : Text) (trigger : Option Text) : Text → Prop
  | removed {text marker} (hmarker : marker ∈ markers 0 text) (htag : marker.tag ∈ removed) :
      Drops removed file trigger text
  | suppressed {text marker attributes} (hmarker : marker ∈ markers 0 text)
      (hparse : Attributes.parse (Path.parent file) marker.attrText = .ok attributes)
      (hexcludes : attributes.excludes trigger = true)
      (hexports : attributes.exportTarget.isSome = true) : Drops removed file trigger text
  | remove {text marker attributes} (hmarker : marker ∈ markers 0 text)
      (hlive : Live file trigger marker attributes) (htag : marker.tag = removeTag) :
      Drops removed file trigger text
  | inside {text marker attributes} (hmarker : marker ∈ markers 0 text)
      (hlive : Live file trigger marker attributes)
      (hbody : Drops removed file trigger marker.body) : Drops removed file trigger text

/-- Something is dropped at a marker. -/
def DropsAt (removed : List Text) (file : Text) (trigger : Option Text) (marker : Marker) : Prop :=
  marker.tag ∈ removed ∨
    (∃ attributes, Attributes.parse (Path.parent file) marker.attrText = .ok attributes ∧
      attributes.excludes trigger = true ∧ attributes.exportTarget.isSome = true) ∨
    ∃ attributes, Live file trigger marker attributes ∧
      (marker.tag = removeTag ∨ Drops removed file trigger marker.body)

section Drops

variable {removed : List Text} {file text : Text} {trigger : Option Text} {marker : Marker}
  {attributes : Attributes}

theorem drops_iff : Drops removed file trigger text ↔
    ∃ marker ∈ markers 0 text, DropsAt removed file trigger marker := by
  constructor
  · intro h
    cases h with
    | removed hmarker htag => exact ⟨_, hmarker, Or.inl htag⟩
    | suppressed hmarker hparse hexcludes hexports =>
        exact ⟨_, hmarker, Or.inr (Or.inl ⟨_, hparse, hexcludes, hexports⟩)⟩
    | remove hmarker hlive htag => exact ⟨_, hmarker, Or.inr (Or.inr ⟨_, hlive, Or.inl htag⟩)⟩
    | inside hmarker hlive hbody => exact ⟨_, hmarker, Or.inr (Or.inr ⟨_, hlive, Or.inr hbody⟩)⟩
  · rintro ⟨marker, hmarker, htag | ⟨attributes, hparse, hexcludes, hexports⟩ |
      ⟨attributes, hlive, htag | hbody⟩⟩
    · exact .removed hmarker htag
    · exact .suppressed hmarker hparse hexcludes hexports
    · exact .remove hmarker hlive htag
    · exact .inside hmarker hlive hbody

/-- At a marker for another trigger, only an export is dropped. -/
theorem dropsAt_iff_of_excludes (hkept : marker.tag ∉ removed)
    (hparse : Attributes.parse (Path.parent file) marker.attrText = .ok attributes)
    (hexcludes : attributes.excludes trigger = true) :
    DropsAt removed file trigger marker ↔ attributes.exportTarget.isSome = true := by
  constructor
  · rintro (htag | ⟨others, hothers, -, hexports⟩ | ⟨others, hlive, -⟩)
    · exact absurd htag hkept
    · obtain rfl := Except.ok.inj (hparse.symm.trans hothers)
      exact hexports
    · obtain rfl := Except.ok.inj (hparse.symm.trans hlive.parse)
      rw [hlive.excludes] at hexcludes
      cases hexcludes
  · exact fun hexports => Or.inr (Or.inl ⟨attributes, hparse, hexcludes, hexports⟩)

/-- At a marker for the active trigger, it is dropped itself, or something in its body. -/
theorem dropsAt_iff_of_live (hkept : marker.tag ∉ removed)
    (hlive : Live file trigger marker attributes) :
    DropsAt removed file trigger marker ↔
      marker.tag = removeTag ∨ Drops removed file trigger marker.body := by
  constructor
  · rintro (htag | ⟨others, hothers, hexcludes, -⟩ | ⟨others, -, hdrops⟩)
    · exact absurd htag hkept
    · obtain rfl := Except.ok.inj (hlive.parse.symm.trans hothers)
      rw [hlive.excludes] at hexcludes
      cases hexcludes
    · exact hdrops
  · exact fun hdrops => Or.inr (Or.inr ⟨attributes, hlive, hdrops⟩)

variable {options : Options}

/-- What is left of a marker without references. -/
theorem emitMarker_cut {resolve : Resolver} {fetch : Fetcher} {depth : Nat}
    (hquiet : NoReferences file options.activeTrigger text) (hmarker : marker ∈ markers 0 text)
    (hbody : ∀ attributes, Live file options.activeTrigger marker attributes →
      ∃ out, (resolve file marker.body).Gives options out ∧
        Cut (Drops removed file options.activeTrigger marker.body) out marker.body) :
    ∃ out, (emitMarker resolve fetch depth file removed marker).Gives options out ∧
      Cut (DropsAt removed file options.activeTrigger marker) out marker.text := by
  by_cases hremoved : marker.tag ∈ removed
  · refine ⟨[], ?_, Cut.nil (Or.inl hremoved) marker.text_ne_nil⟩
    exact emitMarker_gives_removed hremoved
  · obtain ⟨attributes, hparse⟩ := hquiet.exists_parse hmarker
    cases hexcludes : attributes.excludes options.activeTrigger with
    | true =>
        have hdrops := dropsAt_iff_of_excludes hremoved hparse hexcludes
        have hgives := @emitMarker_gives_excluded _ _ _ _ _ resolve fetch depth hremoved hparse
          hexcludes
        cases hexports : attributes.exportTarget.isSome with
        | true =>
            rw [hexports] at hgives
            exact ⟨[], hgives, Cut.nil (hdrops.2 hexports) marker.text_ne_nil⟩
        | false =>
            rw [hexports] at hgives hdrops
            exact ⟨marker.text, hgives, Cut.refl fun h => Bool.false_ne_true (hdrops.1 h)⟩
    | false =>
        have hlive : Live file options.activeTrigger marker attributes := ⟨hparse, hexcludes⟩
        have hdrops := dropsAt_iff_of_live hremoved hlive
        by_cases htag : marker.tag = removeTag
        · exact ⟨[], emitMarker_gives_remove hremoved hlive htag,
            Cut.nil (hdrops.2 (Or.inl htag)) marker.text_ne_nil⟩
        · obtain ⟨out, hgives, hcut⟩ := hbody attributes hlive
          refine ⟨marker.rebuild out, ?_, (hcut.rebuild marker).congr ?_⟩
          · exact emitMarker_gives_kept hremoved hlive (hquiet.tag_notMem hmarker hlive) htag
              hgives
          · rw [hdrops]
            simp [htag]

/-- What is left of a text whose markers are cut. -/
theorem replaceMarkers_cut {handler : Marker → Weave Text} {dropped : Marker → Prop}
    {offset : Int}
    (h : ∀ marker ∈ markers offset text, ∃ out, (handler marker).Gives options out ∧
      Cut (dropped marker) out marker.text) :
    ∃ out, (replaceMarkers handler offset text).Gives options out ∧
      Cut (∃ marker ∈ markers offset text, dropped marker) out text := by
  induction offset, text using scan_induction with
  | nil offset =>
      rw [replaceMarkers_nil, markers_nil]
      exact ⟨[], Weave.Gives.done [], Cut.refl (by simp)⟩
  | marker offset marker rest hread ih =>
      rw [markers_marker hread] at h ⊢
      obtain ⟨first, hfirst, hcut⟩ := h marker (by simp)
      obtain ⟨out, hout, hrest⟩ := ih fun other ho => h other (by simp [ho])
      refine ⟨first ++ out, ?_, (hcut.append hrest).congr (by simp)⟩
      rw [replaceMarkers_marker handler hread]
      exact hfirst.bind (hout.bind (Weave.Gives.done _))
  | char offset c rest hread ih =>
      rw [markers_char hread] at h ⊢
      obtain ⟨out, hout, hrest⟩ := ih h
      have hchar : Cut False [c] [c] := Cut.refl not_false
      refine ⟨c :: out, ?_, (hchar.append hrest).congr (by simp)⟩
      rw [replaceMarkers_char handler hread]
      exact hout.bind (Weave.Gives.done _)

/-- What is left of a text without references, where no shorthand stands in it, and none forms
when something is left out. -/
theorem resolveText_cut (hremoved : options.removeList = .ok removed)
    (hquiet : NoReferences file options.activeTrigger text)
    (hshort : ∀ part : Text, part <:+: text → Shorthand.expand part = part)
    (hleft : Drops removed file options.activeTrigger text →
      ∀ part : Text, part.Sublist text → Shorthand.expand part = part) {depth : Nat}
    (hdepth : text.length < depth) :
    ∃ out, (resolveText depth file text).Gives options out ∧
      Cut (Drops removed file options.activeTrigger text) out text := by
  induction depth generalizing text with
  | zero => exact absurd hdepth (Nat.not_lt_zero _)
  | succ depth ih =>
      have hmarkers : ∀ marker ∈ markers 0 text, ∃ out,
          (emitMarker (resolveText depth) (fetchBlock (resolveRecord (resolveText depth))) depth
            file removed marker).Gives options out ∧
          Cut (DropsAt removed file options.activeTrigger marker) out marker.text := by
        intro marker hmarker
        refine emitMarker_cut hquiet hmarker fun attributes hlive => ?_
        obtain ⟨before, rest, hplace, -⟩ := exists_place_of_mem_markers hmarker
        have hbody : marker.body <:+: text :=
          ⟨before ++ marker.head, marker.closing ++ rest, by
            simp [hplace, Marker.text, Marker.rebuild]⟩
        have hlength := marker.body_length_lt.trans_le (length_text_le_of_mem_markers hmarker)
        apply ih (hquiet.body hmarker hlive)
        · exact fun part hpart => hshort part (hpart.trans hbody)
        · intro hdrops part hpart
          exact hleft (.inside hmarker hlive hdrops) part (hpart.trans hbody.sublist)
        · omega
      obtain ⟨out, hgives, hcut⟩ := replaceMarkers_cut hmarkers
      replace hcut := hcut.congr drops_iff.symm
      have hexpand : Shorthand.expand out = out := by
        by_cases hdrops : Drops removed file options.activeTrigger text
        · exact hleft hdrops out hcut.sublist
        · obtain rfl := hcut.eq_iff.2 hdrops
          exact hshort out List.infix_rfl
      have hresolve := resolveText_gives hremoved hgives
      rw [hexpand] at hresolve
      exact ⟨out, hresolve, hcut⟩

end Drops

namespace Builder

variable {builder : Builder} {options : Options} {directory path : Text} {workspace : Workspace}
  {depth : Nat} {out : Text}

/-- A text as the options of a build leave it. -/
def tidied (options : Options) (text : Text) : Text :=
  if options.tidies then Text.tidy text else text

/-- The output of a build is tidy. -/
theorem tidied_of_build (h : (builder.build depth directory path options workspace).1 = .ok out) :
    tidied options out = out := by
  rw [build_eq, buildWith] at h
  cases hpath : Path.resolve directory path with
  | error e =>
      rw [hpath] at h
      cases h
  | ok entry =>
      simp only [hpath, finish_fst, stepsWith, Weave.bind_eq, Weave.pure_eq] at h
      obtain ⟨_, mid, -, hrest⟩ := Weave.run_bind_eq_ok_iff.1 (Prod.ext h rfl)
      obtain ⟨text, last, -, hdone⟩ := Weave.run_bind_eq_ok_iff.1 hrest
      have hout : tidied options text = out := Except.ok.inj (congrArg Prod.fst hdone)
      rw [← hout, tidied, tidied]
      split
      · exact Text.tidy_tidy text
      · rfl

theorem length_tidied_le (options : Options) (text : Text) :
    (tidied options text).length ≤ text.length := by
  rw [tidied]
  split
  · exact Text.length_tidy_le text
  · exact Nat.le_refl _

variable {removed : List Text} {entry source left : Text}

/-- A build of a text without references is what is left of it, tidied. -/
theorem build_eq_tidied (hpath : Path.resolve directory path = .ok entry)
    (hremoved : options.removeList = .ok removed)
    (hreading : reading options workspace.disk entry = .ok (.text source))
    (hquiet : NoReferences entry options.activeTrigger source)
    (hleft : (resolveText depth entry source).Gives options left) :
    (builder.build depth directory path options workspace).1 = .ok (tidied options left) := by
  obtain ⟨last, hbuild, -⟩ := build_alone hpath hremoved hreading hquiet.refersNowhere
    fun now hnow => ⟨now, hleft now hnow.options, rfl, rfl, hnow.variants⟩
  rw [hbuild, finish_fst]
  rfl

/-- Building the output of a build gives it back exactly when no marker in it is one that is
dropped. The output stands in any text file, no marker in it refers to anything or has
malformed attributes, and no shorthand stands in it, nor, where a marker is dropped, in
anything that may be left of it. -/
theorem rebuild_eq_iff
    (hbuild : (builder.build depth directory path options workspace).1 = .ok out)
    (hremoved : options.removeList = .ok removed) {place name : Text} {others : Workspace}
    (hpath : Path.resolve place name = .ok entry)
    (htext : options.treatsAsBinary entry = .ok false)
    (hread : others.disk.readText options.fileCharset entry = .ok out)
    (hquiet : NoReferences entry options.activeTrigger out)
    (hshort : ∀ part : Text, part <:+: out → Shorthand.expand part = part)
    (hforms : Drops removed entry options.activeTrigger out →
      ∀ part : Text, part.Sublist out → Shorthand.expand part = part) {bound : Nat}
    (hbound : out.length < bound) :
    (builder.build bound place name options others).1 = .ok out ↔
      ¬Drops removed entry options.activeTrigger out := by
  have htidied := tidied_of_build hbuild
  have hreading : reading options others.disk entry = .ok (.text out) := by
    rw [tidied] at htidied
    simp [reading, Disk.exists?_of_readText hread, htext, hread, htidied, bind, Except.bind,
      pure, Except.pure]
  obtain ⟨left, hleft, hcut⟩ := resolveText_cut hremoved hquiet hshort hforms hbound
  rw [build_eq_tidied hpath hremoved hreading hquiet hleft, ← hcut.eq_iff]
  constructor
  · -- Tidying does not make a text longer, so it cannot make up for what was left out.
    intro he
    have hle := length_tidied_le options left
    rw [Except.ok.inj he] at hle
    exact hcut.sublist.eq_of_length_le hle
  · rintro rfl
    rw [htidied]

end Builder

namespace Rebuilding

/-- A block without attributes. -/
def block (tag body : Text) : Text :=
  ['/', '*', '<'] ++ tag ++ ['>', '*', '/'] ++ body ++
    ['/', '*', '<', '/'] ++ tag ++ ['>', '*', '/']

/-- A block that is removed from where it stands. -/
def removal : Text := block removeTag []

/-- A tag that the options keep. -/
def note : Text := ['n', 'o', 't', 'e']

/-- A tag that the options remove. -/
def debug : Text := ['d', 'e', 'b', 'u', 'g']

/-- A block that is kept. -/
def kept : Text := block note ['x']

/-- The same behind a block that is removed. -/
def noted : Text := removal ++ kept

/-- A block that is removed for its tag. -/
def joined : Text := block debug ['x']

/-- The same with a block that is removed in the middle of its tag. -/
def spliced : Text :=
  ['/', '*', '<', 'd', 'e'] ++ removal ++ ['b', 'u', 'g', '>', '*', '/', 'x', '/', '*', '<', '/'] ++
    debug ++ ['>', '*', '/']

/-- A text in one file, and what is left of it in another. -/
def disk (source left : Text) : Disk :=
  { nodes := [(['/', 'a'], .file (Utf8.encode source)),
    (['/', 'b'], .file (Utf8.encode left))] }

def builder : Builder := { registry := Registry.encodings }

/-- A block without attributes as it is found. -/
def finding (file tag : Text) (offset : Int) (body : Text) : Finding :=
  ⟨file, tag, ⟨offset, { items := [], filePath := none, exportPath := none }, body⟩⟩

def removed : List Text := [debug, ['t', 'e', 's', 't']]

theorem removeList : ({} : Options).removeList = .ok removed := by rfl

theorem noReferences {file text : Text} {found : List Finding}
    (h : findings file ({} : Options).activeTrigger 0 text = found.map .ok)
    (htags : ∀ finding ∈ found, finding.tag ∉ referenceTags) :
    NoReferences file ({} : Options).activeTrigger text := by
  intro result hresult
  rw [h] at hresult
  obtain ⟨finding, hfinding, he⟩ := List.mem_map.1 hresult
  exact ⟨finding, he.symm, htags finding hfinding⟩

theorem noReferences_noted : NoReferences ['/', 'a'] ({} : Options).activeTrigger noted :=
  @noReferences _ _ [finding ['/', 'a'] removeTag 0 [], finding ['/', 'a'] note 25 ['x']]
    (by with_unfolding_all rfl) (by decide)

theorem noReferences_kept : NoReferences ['/', 'b'] ({} : Options).activeTrigger kept :=
  @noReferences _ _ [finding ['/', 'b'] note 0 ['x']] (by with_unfolding_all rfl) (by decide)

theorem noReferences_spliced : NoReferences ['/', 'a'] ({} : Options).activeTrigger spliced :=
  @noReferences _ _ [finding ['/', 'a'] removeTag 5 []] (by with_unfolding_all rfl) (by decide)

theorem noReferences_joined : NoReferences ['/', 'b'] ({} : Options).activeTrigger joined :=
  @noReferences _ _ [finding ['/', 'b'] debug 0 ['x']] (by with_unfolding_all rfl) (by decide)

/-- Such a block as a marker. -/
def blockMarker (tag body : Text) (offset : Int) : Marker where
  family := .block
  shape := .markerPair
  tag := tag
  attrText := []
  openingClose := ['>', '*', '/']
  body := body
  closing := ['/', '*', '<', '/'] ++ tag ++ ['>', '*', '/']
  offset := offset

/-- It is for every trigger. -/
theorem live {file : Text} (h : file ∈ [['/', 'a'], ['/', 'b']]) (tag body : Text) (offset : Int) :
    Live file ({} : Options).activeTrigger (blockMarker tag body offset)
      (finding file tag offset body).occurrence.attributes := by
  have hparse : ∀ file ∈ [['/', 'a'], ['/', 'b']], Attributes.parse (Path.parent file) [] =
      .ok { items := [], filePath := none, exportPath := none } := by
    with_unfolding_all decide
  exact ⟨hparse file h, rfl⟩

theorem body_gives (depth : Nat) : (resolveText (depth + 1) ['/', 'a'] ['x']).Gives {} ['x'] := by
  have hsegments : segments 0 ['x'] = [.literal ['x']] := by with_unfolding_all rfl
  have hexpand : Shorthand.expand [['x']].flatten = ['x'] := by with_unfolding_all rfl
  exact resolveText_gives_of_segments removeList hsegments hexpand (.cons rfl .nil)

theorem noted_gives (depth : Nat) : (resolveText (depth + 2) ['/', 'a'] noted).Gives {} kept := by
  have hsegments : segments 0 noted = [.literal [], .marker (blockMarker removeTag [] 0),
      .literal [], .marker (blockMarker note ['x'] 25), .literal []] := by
    with_unfolding_all rfl
  have hexpand : Shorthand.expand [[], [], [], kept, []].flatten = kept := by with_unfolding_all rfl
  refine resolveText_gives_of_segments removeList hsegments hexpand
    (.cons rfl (.cons ?_ (.cons rfl (.cons ?_ (.cons rfl .nil)))))
  · exact emitMarker_gives_remove (by decide) (live (by simp) removeTag [] 0) rfl
  · exact emitMarker_gives_kept (by decide) (live (by simp) note ['x'] 25) (by decide) (by decide)
      (body_gives depth)

theorem spliced_gives (depth : Nat) :
    (resolveText (depth + 1) ['/', 'a'] spliced).Gives {} joined := by
  have hsegments : segments 0 spliced = [.literal "/".toList, .literal "*<de".toList,
      .marker (blockMarker removeTag [] 5), .literal "bug>*/x/".toList,
      .literal "*</debug>*/".toList] := by
    with_unfolding_all rfl
  have hexpand : Shorthand.expand ["/".toList, "*<de".toList, [], "bug>*/x/".toList,
      "*</debug>*/".toList].flatten = joined := by
    with_unfolding_all rfl
  refine resolveText_gives_of_segments removeList hsegments hexpand
    (.cons rfl (.cons rfl (.cons ?_ (.cons rfl (.cons rfl .nil)))))
  exact emitMarker_gives_remove (by decide) (live (by simp) removeTag [] 5) rfl

theorem joined_gives (depth : Nat) :
    (resolveText (depth + 1) ['/', 'b'] joined).Gives {} [] := by
  have hsegments : segments 0 joined =
      [.literal [], .marker (blockMarker debug ['x'] 0), .literal []] := by
    with_unfolding_all rfl
  have hexpand : Shorthand.expand [[], [], []].flatten = [] := by with_unfolding_all rfl
  exact resolveText_gives_of_segments removeList hsegments hexpand
    (.cons rfl (.cons (emitMarker_gives_removed (by decide)) (.cons rfl .nil)))

theorem not_drops_kept : ¬Drops removed ['/', 'b'] ({} : Options).activeTrigger kept := by
  have hmarkers : markers 0 kept = [blockMarker note ['x'] 0] := by with_unfolding_all rfl
  have hbody : markers 0 (blockMarker note ['x'] 0).body = [] := by with_unfolding_all rfl
  have hlive := @live ['/', 'b'] (by simp) note ['x'] 0
  rw [drops_iff, hmarkers]
  rintro ⟨marker, hmarker, hdrops⟩
  obtain rfl := List.mem_singleton.1 hmarker
  rw [dropsAt_iff_of_live (by decide) hlive, drops_iff, hbody] at hdrops
  rcases hdrops with htag | ⟨marker, hmarker, -⟩
  · exact absurd htag (by decide)
  · cases hmarker

end Rebuilding

section

open Rebuilding

/-- A block of a tag that is kept stands in the output of one build and of the next. -/
theorem Builder.rebuild_eq_iff_note :
    (builder.build 1000 ['/'] ['b'] {} { disk := disk noted kept }).1 = .ok kept := by
  have hreading : reading {} (disk noted kept) ['/', 'a'] = .ok (.text noted) := by
    with_unfolding_all rfl
  have htidied : tidied {} kept = kept := by with_unfolding_all rfl
  have hbuild : (builder.build 1000 ['/'] ['a'] {} { disk := disk noted kept }).1 = .ok kept :=
    (build_eq_tidied rfl removeList hreading noReferences_noted (noted_gives 998)).trans
      (congrArg Except.ok htidied)
  have hshort (part : Text) (hpart : part <:+: kept) : Shorthand.expand part = part := by
    apply Shorthand.expand_of_notMem (c := '#') (d := ',') (by simp) (by simp)
    · exact fun h => absurd (hpart.subset h) (by decide)
    · exact fun h => absurd (hpart.subset h) (by decide)
  have hread : (disk noted kept).readText ({} : Options).fileCharset ['/', 'b'] = .ok kept := by
    with_unfolding_all rfl
  exact (rebuild_eq_iff hbuild removeList rfl rfl hread noReferences_kept hshort
    (fun hdrops => absurd hdrops not_drops_kept) (by decide)).2 not_drops_kept

/-- The output of a build is a block of a tag that is removed, and is gone after the next. -/
theorem Builder.rebuild_splice :
    (builder.build 1000 ['/'] ['a'] {} { disk := disk spliced joined }).1 = .ok joined ∧
      (builder.build 1000 ['/'] ['b'] {} { disk := disk spliced joined }).1 = .ok [] := by
  have hspliced : reading {} (disk spliced joined) ['/', 'a'] = .ok (.text spliced) := by
    with_unfolding_all rfl
  have hjoined : reading {} (disk spliced joined) ['/', 'b'] = .ok (.text joined) := by
    with_unfolding_all rfl
  have htidied : tidied {} joined = joined := by with_unfolding_all rfl
  constructor
  · exact (build_eq_tidied rfl removeList hspliced noReferences_spliced (spliced_gives 999)).trans
      (congrArg Except.ok htidied)
  · exact build_eq_tidied rfl removeList hjoined noReferences_joined (joined_gives 999)

end
end BlockWeave
