import BlockWeave.Processor.Standard
import BlockWeave.Proofs.Path
import BlockWeave.Proofs.Text.Literal
import BlockWeave.Proofs.Weaving.Cycle
import BlockWeave.Proofs.Weaving.Verbatim

/-!
# Content in a string literal

A reference may turn its resolved body into a string literal. The literal is resolved once
more. The quotes inside it stand behind backslashes, so no marker in it has attributes: each
of them is for the active trigger, also one that was for another trigger in the body. Hence
the literal stays as it is when none of its markers has a tag that is removed or replaced and
no shorthand stands in it, and otherwise characters of it are lost.
-/

namespace BlockWeave

open Weaving Discovery

section Attributes

variable {s : Text}

/-- No assignment can be written in a literal, as a quote does not come behind a blank or
the sign. -/
theorem Text.Escaped.read?_eq_none (h : Escaped s) : Assignment.read? s = none := by
  cases hread : Assignment.read? s with
  | none => rfl
  | some found =>
      obtain ⟨a, rest⟩ := found
      have hproper := Assignment.proper_of_read? hread
      obtain ⟨d, value, hvalue⟩ := List.exists_cons_of_ne_nil hproper.value_ne_nil
      obtain ⟨before, c, hbefore, hc⟩ : ∃ before c,
          a.name ++ a.gapBefore ++ '=' :: a.gapAfter = before ++ [c] ∧ c ≠ '\\' := by
        rcases List.eq_nil_or_concat a.gapAfter with hgap | ⟨gap, c, hgap⟩
        · exact ⟨a.name ++ a.gapBefore, '=', by rw [hgap], by decide⟩
        · refine ⟨a.name ++ a.gapBefore ++ '=' :: gap, c, by simp [hgap], ?_⟩
          rintro rfl
          have hblank := hproper.gapAfter '\\' (by simp [hgap])
          exact absurd hblank (by decide)
      have hs : s = before ++ (c :: '"' :: d :: (value ++ '"' :: rest)) := by
        have htext : a.text = before ++ [c] ++ '"' :: d :: value ++ ['"'] := by
          rw [Assignment.text, hbefore, hvalue]
        rw [Assignment.read?_append hread, htext]
        simp
      exact absurd (h.eq_of_quote hs) hc

theorem Text.Escaped.findAssignments_eq_nil (h : Escaped s) : findAssignments s = [] := by
  induction s with
  | nil => rw [findAssignments]
  | cons c s ih =>
      rw [findAssignments]
      split
      next hread =>
        rw [h.read?_eq_none] at hread
        cases hread
      next => exact ih (h.of_infix (List.suffix_cons c s).isInfix)

/-- The attributes of a marker that has none. -/
def Attributes.bare : Attributes where
  items := []
  filePath := none
  exportPath := none

theorem Attributes.parse_of_escaped (h : Text.Escaped s) (directory : Text) :
    parse directory s = .ok bare := by
  have hitems : decodeItems s = .ok [] := by
    rw [decodeItems, h.findAssignments_eq_nil]
    rfl
  rw [parse, hitems]
  rfl

/-- A marker in a literal has no attributes, so it is for the active trigger. -/
theorem Discovery.live_of_escaped {text file : Text} {trigger : Option Text} {marker : Marker}
    {offset : Int} (h : Text.Escaped text) (hmarker : marker ∈ markers offset text) :
    Live file trigger marker .bare := by
  obtain ⟨before, rest, rfl, -⟩ := exists_place_of_mem_markers hmarker
  have hattrText : marker.attrText <:+: before ++ (marker.text ++ rest) :=
    ⟨before ++ (marker.opening ++ marker.tag),
      marker.openingClose ++ (marker.body ++ (marker.closing ++ rest)), by
        simp [Marker.text, Marker.rebuild, Marker.head]⟩
  exact ⟨Attributes.parse_of_escaped (h.of_infix hattrText) _, rfl⟩

end Attributes

namespace Weaving

variable {resolve : Resolver} {fetch : Fetcher} {bound : Nat} {file out : Text} {marker : Marker}
  {attributes : Attributes} {now after : Run}

/-- A reference that only has a processor puts its body through it, and what comes out of it is
tidied and resolved. -/
theorem exists_processed_of_own (hfile : attributes.file = none) (hblock : attributes.block = none)
    (hslice : attributes.slice = none) (hexport : attributes.exportTarget = none)
    (hrun : (emitReference resolve fetch bound file marker attributes).run now =
      (.ok out, after)) :
    ∃ processed mid text,
      (applyProcessor resolve bound file marker attributes { content := .text marker.body }).run
          now = (.ok processed, mid) ∧
      processed.toText now.session.options.charset = .ok text ∧
      (resolve file (if now.session.options.tidies then Text.tidy text else text)).run mid =
        (.ok out, after) := by
  have htarget := @run_findTarget_own fetch file marker attributes now hfile hblock
  rcases emitReference_cases hrun with ⟨hnone, -⟩ | ⟨target, found, processed, mid, text, resolved,
    last, hfound, hprocessed, htext, hresolved, hexported⟩
  · cases htarget.symm.trans hnone
  · cases htarget.symm.trans hfound
    simp only [keptPart, keptNotes, hslice, List.append_nil] at htext hresolved
    cases hexported with
    | stays => exact ⟨processed, mid, text, hprocessed, htext, hresolved⟩
    | variant htarget | file htarget | nowhere htarget => simp [hexport] at htarget

/-- The processor of a text gets it resolved. -/
theorem exists_of_processorInput_text {source : Text} {content : Content} {options : Options}
    (hrun : (processorInput resolve options file { content := .text source }).run now =
      (.ok content, after)) :
    ∃ body, (resolve file source).run now = (.ok body, after) ∧ content = .text body := by
  simp only [processorInput, Bool.false_eq_true, if_false, Weave.bind_eq, Weave.pure_eq] at hrun
  obtain ⟨read, mid, hread, hrun⟩ := Weave.run_bind_eq_ok_iff.1 hrun
  obtain ⟨hsource, rfl⟩ := Weave.run_ofExcept_eq_ok_iff.1 hread
  cases hsource
  obtain ⟨body, last, hbody, hrun⟩ := Weave.run_bind_eq_ok_iff.1 hrun
  cases hrun
  exact ⟨body, hbody, rfl⟩

/-- A reference that makes a literal of its body is replaced by what the literal is resolved
to. -/
theorem exists_literal_of_own {name : Text} (hencoding : attributes.encoding = some name)
    (hfind : now.session.registry.find? name = some Processor.string)
    (hfile : attributes.file = none) (hblock : attributes.block = none)
    (hslice : attributes.slice = none) (hexport : attributes.exportTarget = none)
    (hrun : (emitReference resolve fetch bound file marker attributes).run now =
      (.ok out, after)) :
    ∃ body mid, (resolve file marker.body).run now = (.ok body, mid) ∧
      (resolve file (Text.literal body)).run mid = (.ok out, after) := by
  obtain ⟨processed, mid, text, hprocessed, htext, hresolved⟩ :=
    exists_processed_of_own hfile hblock hslice hexport hrun
  obtain ⟨content, hcontent, rfl⟩ := exists_processorInput hencoding hfind hprocessed
  cases htext
  obtain ⟨body, hbody, rfl⟩ := exists_of_processorInput_text hcontent
  simp only [Content.asText, Text.tidy_literal, ite_self] at hresolved
  exact ⟨body, mid, hbody, hresolved⟩

/-- A reference without attributes stands for its body. -/
theorem resolve_of_emitReference_bare
    (hrun : (emitReference resolve fetch bound file marker .bare).run now = (.ok out, after)) :
    (resolve file (if now.session.options.tidies then Text.tidy marker.body else marker.body)).run
      now = (.ok out, after) := by
  obtain ⟨processed, mid, text, hprocessed, htext, hresolved⟩ :=
    exists_processed_of_own rfl rfl rfl rfl hrun
  have hself : (applyProcessor resolve bound file marker .bare { content := .text marker.body }).run
      now = (.ok (.text marker.body), now) := rfl
  cases hself.symm.trans hprocessed
  cases htext
  exact hresolved

end Weaving

/-- A marker is not whole where only something of its body is left. -/
theorem Cut.of_body {p : Prop} {out : Text} (marker : Marker) (h : p)
    (hout : out.Sublist marker.body) : Cut p out marker.text := by
  have hbody : marker.body.Sublist marker.text :=
    (List.sublist_append_right marker.head marker.body).trans (List.sublist_append_left _ _)
  refine ⟨hout.trans hbody, iff_of_false ?_ (not_not_intro h)⟩
  rintro rfl
  exact absurd marker.body_length_lt (Nat.not_lt.2 hout.length_le)

/-- Markers with these tags do not stay, even when they have no attributes. -/
def Transient (removed : List Text) (tag : Text) : Prop :=
  tag ∈ removed ∨ tag ∈ referenceTags ∨ tag = removeTag

section Run

variable {removed : List Text} {file text out : Text} {marker : Marker} {now after : Run}
  {depth : Nat}

/-- Every marker in a literal is looked into. -/
theorem exists_nested_iff {trigger : Option Text} {p : Marker → Prop} (h : Text.Escaped text) :
    (∃ marker, Nested file trigger text marker ∧ p marker) ↔
      ∃ marker ∈ markers 0 text, p marker ∨ ∃ other, Nested file trigger marker.body other ∧
        p other := by
  constructor
  · rintro ⟨marker, hnested, hp⟩
    cases hnested with
    | shown hmarker => exact ⟨marker, hmarker, Or.inl hp⟩
    | inside houter _ hnested => exact ⟨_, houter, Or.inr ⟨marker, hnested, hp⟩⟩
  · rintro ⟨marker, hmarker, hp | ⟨other, hnested, hp⟩⟩
    · exact ⟨marker, .shown hmarker, hp⟩
    · exact ⟨other, .inside hmarker (live_of_escaped h hmarker) hnested, hp⟩

theorem Nested.live_of_escaped {trigger : Option Text} (h : Text.Escaped text)
    (hnested : Nested file trigger text marker) : Live file trigger marker .bare := by
  induction hnested with
  | shown hmarker => exact Discovery.live_of_escaped h hmarker
  | inside houter _ _ ih => exact ih (h.of_infix (infix_of_mem_markers houter))

/-- In a literal it is for its tag only that a marker stays. -/
theorem stays_of_escaped {trigger : Option Text} (h : Text.Escaped text)
    (hnested : Nested file trigger text marker) (hstays : ¬Transient removed marker.tag) :
    Stays removed file trigger marker := by
  have hlive := hnested.live_of_escaped h
  obtain ⟨hremoved, hothers⟩ := not_or.1 hstays
  refine ⟨hremoved, fun attributes hparse hexcludes => ?_, fun _ _ => not_or.1 hothers⟩
  obtain rfl := Except.ok.inj (hlive.parse.symm.trans hparse)
  exact absurd hexcludes (by simp [hlive.excludes])

/-- Resolving what stands in a literal only leaves characters out, and does so where a marker
does not stay, if no shorthand can form. -/
theorem cut_of_escaped (hremoved : now.session.options.removeList = .ok removed)
    (hescaped : Text.Escaped text)
    (hfree : ∀ part : Text, part.Sublist text → Shorthand.Free part)
    (hrun : (resolveText depth file text).run now = (.ok out, after)) :
    after = now ∧ Cut (∃ marker, Nested file now.session.options.activeTrigger text marker ∧
      Transient removed marker.tag) out text := by
  induction depth generalizing text out after with
  | zero => cases hrun
  | succ depth ih =>
      obtain ⟨others, woven, hothers, hwoven, rfl⟩ := exists_woven hrun
      obtain rfl := Except.ok.inj (hremoved.symm.trans hothers)
      have hmarkers : ∀ marker ∈ markers 0 text, ∀ out after,
          (emitMarker (resolveText depth) (fetchBlock (resolveRecord (resolveText depth))) depth
            file removed marker).run now = (.ok out, after) →
          after = now ∧ Cut (Transient removed marker.tag ∨
            ∃ other, Nested file now.session.options.activeTrigger marker.body other ∧
              Transient removed other.tag) out marker.text := by
        intro marker hmarker out after hmarkerRun
        have hlive : Live file now.session.options.activeTrigger marker .bare :=
          live_of_escaped hescaped hmarker
        have hbody := infix_of_mem_markers hmarker
        cases replaced_of_emitMarker hmarkerRun with
        | removed htag => exact ⟨rfl, Cut.nil (Or.inl (Or.inl htag)) marker.text_ne_nil⟩
        | excluded _ hparse hexcludes =>
            obtain rfl := Except.ok.inj (hlive.parse.symm.trans hparse)
            exact absurd hexcludes (by simp [hlive.excludes])
        | reference _ hother hreference hemit =>
            obtain rfl := hlive.unique hother
            have hresolve := resolve_of_emitReference_bare hemit
            have htidied : (if now.session.options.tidies then Text.tidy marker.body
                else marker.body) <+: marker.body := by
              split
              · exact (hescaped.of_infix hbody).tidy_leads
              · exact List.prefix_rfl
            have hinside := htidied.isInfix.trans hbody
            obtain ⟨rfl, hcut⟩ := ih (hescaped.of_infix hinside)
              (fun part hpart => hfree part (hpart.trans hinside.sublist)) hresolve
            exact ⟨rfl, Cut.of_body marker (Or.inl (Or.inr (Or.inl hreference)))
              (hcut.sublist.trans htidied.sublist)⟩
        | dropped _ _ hremove =>
            exact ⟨rfl, Cut.nil (Or.inl (Or.inr (Or.inr hremove))) marker.text_ne_nil⟩
        | kept htag _ hreference hremove hresolve =>
            obtain ⟨rfl, hcut⟩ := ih (hescaped.of_infix hbody)
              (fun part hpart => hfree part (hpart.trans hbody.sublist)) hresolve
            have hstays : ¬Transient removed marker.tag := by
              simp [Transient, htag, hreference, hremove]
            exact ⟨rfl, (hcut.rebuild marker).congr (or_iff_right hstays).symm⟩
      obtain ⟨rfl, hcut⟩ := cut_of_replaceMarkers hmarkers hwoven
      rw [(hfree woven hcut.sublist).expand_eq]
      exact ⟨rfl, hcut.congr (exists_nested_iff hescaped).symm⟩

/-- A reference that makes a string literal of its body. The literal reads back as the resolved
body, and it is resolved once more. What stands in the place of the reference is the literal
itself, with nothing done to the run, where no shorthand stands in it and no marker in it, at any
depth, is removed or replaced; and where no shorthand can form in it, what stands there reads
back as the resolved body only then. -/
theorem emitReference_string {fetch : Fetcher} {bound : Nat} {attributes : Attributes} {name : Text}
    (hencoding : attributes.encoding = some name)
    (hfind : now.session.registry.find? name = some Processor.string)
    (hfile : attributes.file = none) (hblock : attributes.block = none)
    (hslice : attributes.slice = none) (hexport : attributes.exportTarget = none)
    (hrun : (emitReference (resolveText depth) fetch bound file marker attributes).run now =
      (.ok out, after)) :
    ∃ body mid removed, (resolveText depth file marker.body).run now = (.ok body, mid) ∧
      now.session.options.removeList = .ok removed ∧
      Json.parse? (Text.literal body) = some (.str (String.ofList body)) ∧
      (resolveText depth file (Text.literal body)).run mid = (.ok out, after) ∧
      (Shorthand.Free (Text.literal body) →
        (∀ marker, Nested file now.session.options.activeTrigger (Text.literal body) marker →
          ¬Transient removed marker.tag) →
        out = Text.literal body ∧ after = mid) ∧
      ((∀ part : Text, part.Sublist (Text.literal body) → Shorthand.Free part) →
        (Json.parse? out = some (.str (String.ofList body)) ↔ ∀ marker,
          Nested file now.session.options.activeTrigger (Text.literal body) marker →
            ¬Transient removed marker.tag)) := by
  obtain ⟨body, mid, hbody, hresolved⟩ :=
    exists_literal_of_own hencoding hfind hfile hblock hslice hexport hrun
  have hescaped := Text.escaped_literal body
  have hoptions := Weave.options_of_run hbody
  obtain ⟨inner, rfl, hweave⟩ := exists_weaveText hbody
  obtain ⟨removed, -, hremoved, -, -⟩ := exists_woven hweave
  refine ⟨body, mid, removed, hbody, hremoved, Json.parse?_literal body, hresolved, ?_⟩
  rw [← hoptions] at hremoved ⊢
  constructor
  · intro hfree hstays
    exact eq_of_stays hremoved hfree
      (fun other hnested => stays_of_escaped hescaped hnested (hstays other hnested)) hresolved
  · intro hfree
    obtain ⟨-, hcut⟩ := cut_of_escaped hremoved hescaped hfree hresolved
    have hsame : Json.parse? out = some (.str (String.ofList body)) ↔ out = Text.literal body :=
      ⟨fun hparse => hcut.sublist.eq_of_length_le (Json.length_literal_le hparse),
        fun he => he ▸ Json.parse?_literal body⟩
    rw [hsame, hcut.eq_iff, not_exists]
    exact forall_congr' fun other => not_and

end Run

namespace Quoting

open Verbatim (file run removed removeList)

/-- The name of the encoding that makes literals. -/
def name : Text := ['s', 't', 'r', 'i', 'n', 'g']

def attributes : Attributes where
  items := [(Attributes.encodingName, name)]
  filePath := none
  exportPath := none

/-- A reference that makes a literal of its body. -/
def marker (body : Text) : Marker where
  family := .block
  shape := .markerPair
  tag := replaceTag
  attrText := " encoding=\"string\"".toList
  openingClose := ['>', '*', '/']
  body := body
  closing := "/*</replace>*/".toList
  offset := 0

/-- A quote in front of a marker that is kept. -/
def quoted : Text := "\"/*<p>*/x/*</p>*/".toList

/-- The marker as it stands in the literal. -/
def kept : Marker where
  family := .block
  shape := .markerPair
  tag := ['p']
  attrText := []
  openingClose := ['>', '*', '/']
  body := ['x']
  closing := "/*</p>*/".toList
  offset := 3

theorem eq_of_nested {other : Marker}
    (h : Nested file run.session.options.activeTrigger (Text.literal quoted) other) :
    other = kept := by
  have hmarkers : markers 0 (Text.literal quoted) = [kept] := by with_unfolding_all rfl
  have hbody : markers 0 kept.body = [] := by with_unfolding_all rfl
  cases h with
  | shown hmarker => simpa [hmarkers] using hmarker
  | inside houter _ h =>
      rw [hmarkers, List.mem_singleton] at houter
      subst houter
      cases h with
      | shown hmarker => simp [hbody] at hmarker
      | inside houter => simp [hbody] at houter

/-- A marker that is dropped in one for another trigger. -/
def enclosed : Text := "/*<a trigger=\"x\">*//*<remove>*/b/*</remove>*//*</a>*/".toList

theorem enclosed_gives : (resolveText 3 file enclosed).run run = (.ok enclosed, run) := by
  have hsegments : segments 0 enclosed = [.literal [],
      .marker (Verbatim.elsewhere [] "/*<remove>*/b/*</remove>*/".toList), .literal []] := by
    with_unfolding_all rfl
  have hexpand : Shorthand.expand [[], enclosed, []].flatten = enclosed := by with_unfolding_all rfl
  have hemit := @emitMarker_gives_excluded {} removed file
    (Verbatim.elsewhere [] "/*<remove>*/b/*</remove>*/".toList) _ (resolveText 2)
    (fetchBlock (resolveRecord (resolveText 2))) 2 (by decide) Verbatim.parse_silent
    (Verbatim.excludes [])
  exact resolveText_gives_of_segments removeList hsegments hexpand
    (.cons rfl (.cons hemit (.cons rfl .nil))) run rfl

/-- The inner marker as it stands in the literal. The one around it is none there, as its
attribute does not stand in quotes any more. -/
def dropped : Marker :=
  { kept with
    tag := removeTag
    body := ['b']
    closing := "/*</remove>*/".toList
    offset := 22 }

/-- What is left of the literal. -/
def bare : Text := "\"/*<a trigger=\\\"x\\\">*//*</a>*/\"".toList

theorem literal_gives : (resolveText 3 file (Text.literal enclosed)).Gives {} bare := by
  have hsegments : segments 0 (Text.literal enclosed) = [.literal ['"', '/'],
      .literal "*<a trigger=\\\"x\\\">*/".toList, .marker dropped, .literal ['/'],
      .literal "*</a>*/\"".toList] := by
    with_unfolding_all rfl
  have hexpand : Shorthand.expand [['"', '/'], "*<a trigger=\\\"x\\\">*/".toList, [], ['/'],
      "*</a>*/\"".toList].flatten = bare := by
    with_unfolding_all rfl
  have hlive : Live file ({} : Options).activeTrigger dropped
      { items := [], filePath := none, exportPath := none } := ⟨Verbatim.parse_around, rfl⟩
  exact resolveText_gives_of_segments removeList hsegments hexpand (.cons rfl (.cons rfl
    (.cons (emitMarker_gives_remove (by decide) hlive rfl) (.cons rfl (.cons rfl .nil)))))

end Quoting

section

open Quoting
open Verbatim (file run removed removeList)

/-- A quote and a kept marker in a literal. -/
theorem emitReference_string_quoted :
    ∃ out after, (emitReference (resolveText 3) (fetchBlock (resolveRecord (resolveText 3))) 3 file
        (marker quoted) attributes).run run = (.ok out, after) ∧
      out = Text.literal quoted := by
  have hok : ((emitReference (resolveText 3) (fetchBlock (resolveRecord (resolveText 3))) 3 file
      (marker quoted) attributes).run run).1 = .ok (Text.literal quoted) := by
    with_unfolding_all rfl
  obtain ⟨out, after, hrun⟩ : ∃ out after, (emitReference (resolveText 3)
      (fetchBlock (resolveRecord (resolveText 3))) 3 file (marker quoted) attributes).run run =
        (.ok out, after) := ⟨_, _, Prod.ext hok rfl⟩
  have hencoding : attributes.encoding = some name := by rfl
  obtain ⟨body, mid, others, hbody, hothers, -, -, hstays, -⟩ :=
    emitReference_string hencoding rfl rfl rfl rfl rfl hrun
  obtain rfl := Except.ok.inj (removeList.symm.trans hothers)
  have hself : ((resolveText 3 file quoted).run run).1 = .ok quoted := by with_unfolding_all rfl
  obtain rfl : quoted = body := Except.ok.inj (hself.symm.trans (congrArg Prod.fst hbody))
  refine ⟨out, after, hrun, (hstays ?_ fun other hother => ?_).1⟩
  · exact Shorthand.free_of_notMem (by decide) (by decide)
  · obtain rfl := eq_of_nested hother
    simp [Transient, kept, removed, referenceTags, includeTag, replaceTag, removeTag]

/-- A marker for another trigger stays in the body, but what it holds is lost in the literal,
where it has no attributes. -/
theorem emitReference_string_enclosed :
    attributes.encoding = some name ∧
      run.session.registry.find? name = some Processor.string ∧
      attributes.file = none ∧ attributes.block = none ∧ attributes.slice = none ∧
      attributes.exportTarget = none ∧
      (resolveText 3 file enclosed).run run = (.ok enclosed, run) ∧
      ∃ out, (emitReference (resolveText 3) (fetchBlock (resolveRecord (resolveText 3))) 3 file
          (marker enclosed) attributes).run run = (.ok out, run) ∧
        Json.parse? out ≠ some (.str (String.ofList enclosed)) := by
  have hok : ((emitReference (resolveText 3) (fetchBlock (resolveRecord (resolveText 3))) 3 file
      (marker enclosed) attributes).run run).1 = .ok bare := by
    with_unfolding_all rfl
  obtain ⟨after, hrun⟩ : ∃ after, (emitReference (resolveText 3)
      (fetchBlock (resolveRecord (resolveText 3))) 3 file (marker enclosed) attributes).run run =
        (.ok bare, after) := ⟨_, Prod.ext hok rfl⟩
  obtain ⟨body, mid, hbody, hresolved⟩ :=
    @exists_literal_of_own _ _ _ _ _ _ _ _ _ name rfl rfl rfl rfl rfl rfl hrun
  cases enclosed_gives.symm.trans hbody
  cases (literal_gives run rfl).symm.trans hresolved
  refine ⟨rfl, rfl, rfl, rfl, rfl, rfl, enclosed_gives, bare, hrun, fun hparse => ?_⟩
  exact absurd (Json.length_literal_le hparse) (by with_unfolding_all decide)

end

end BlockWeave
