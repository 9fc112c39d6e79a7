import BlockWeave.Proofs.Discovery.Nesting
import BlockWeave.Proofs.Weaving.Alone
import Mathlib.Data.List.Forall2

/-!
# Texts that the options decide

A text without references is resolved to the same text in every run with the same options,
and the run is left as it was. The text is put together from what stands in the places of its
pieces.
-/

namespace BlockWeave

open Weaving Discovery

/-- A script gives a value in every run with the options, and leaves the run as it is. -/
def Weave.Gives {α : Type} (script : Weave α) (options : Options) (value : α) : Prop :=
  ∀ now : Run, now.session.options = options → script.run now = (.ok value, now)

namespace Weave.Gives

variable {α β : Type} {script : Weave α} {next : α → Weave β} {options : Options} {a : α} {b : β}

theorem done (a : α) : (Weave.done a).Gives options a :=
  fun _ _ => rfl

theorem bind (h : script.Gives options a) (hnext : (next a).Gives options b) :
    (script.bind next).Gives options b := by
  intro now hnow
  rw [Weave.run_bind_of_ok (h now hnow)]
  exact hnext now hnow

/-- The options that a script asks for are those of the run. -/
theorem options_bind {next : Options → Weave β} (h : (next options).Gives options b) :
    (Weave.options.bind next).Gives options b := by
  intro now hnow
  subst hnow
  exact h now rfl

end Weave.Gives

/-- What stands in the place of a piece of a text. -/
def Segment.Becomes (handler : Marker → Weave Text) (options : Options) : Segment → Text → Prop
  | .literal text, out => out = text
  | .marker m, out => (handler m).Gives options out

variable {options : Options} {removed : List Text} {file text out : Text} {marker : Marker}
  {attributes : Attributes}

theorem replaceMarkers_gives {handler : Marker → Weave Text} {offset : Int}
    {pieces : List Segment} {outs : List Text} (hsegments : segments offset text = pieces)
    (h : List.Forall₂ (Segment.Becomes handler options) pieces outs) :
    (replaceMarkers handler offset text).Gives options outs.flatten := by
  rw [replaceMarkers, hsegments]
  refine @Weave.Gives.bind _ _ _ _ options outs _ ?_ (Weave.Gives.done _)
  clear hsegments
  induction h with
  | nil => exact Weave.Gives.done []
  | @cons segment out pieces outs hsegment _ ih =>
      rw [List.mapM_cons]
      refine @Weave.Gives.bind _ _ _ _ options out _ ?_ (ih.bind (Weave.Gives.done _))
      cases segment with
      | literal text =>
          obtain rfl := hsegment
          exact Weave.Gives.done _
      | marker marker => exact hsegment

/-- A text is resolved where its pieces are replaced. -/
theorem resolveText_gives (hremoved : options.removeList = .ok removed) {depth : Nat}
    (h : (replaceMarkers (emitMarker (resolveText depth)
      (fetchBlock (resolveRecord (resolveText depth))) depth file removed) 0 text).Gives
        options out) :
    (resolveText (depth + 1) file text).Gives options (Shorthand.expand out) := by
  intro now hnow
  exact run_weaveText (hnow.symm ▸ hremoved) (h now hnow)

/-- A text is resolved to what its pieces become. -/
theorem resolveText_gives_of_segments (hremoved : options.removeList = .ok removed) {depth : Nat}
    {pieces : List Segment} {outs : List Text} (hsegments : segments 0 text = pieces)
    (hexpand : Shorthand.expand outs.flatten = out)
    (h : List.Forall₂ (Segment.Becomes (emitMarker (resolveText depth)
      (fetchBlock (resolveRecord (resolveText depth))) depth file removed) options) pieces outs) :
    (resolveText (depth + 1) file text).Gives options out := by
  subst hexpand
  exact resolveText_gives hremoved (replaceMarkers_gives hsegments h)

section Emit

variable {resolve : Resolver} {fetch : Fetcher} {depth : Nat}

/-- A marker with a removed tag is left out. -/
theorem emitMarker_gives_removed (hremoved : marker.tag ∈ removed) :
    (emitMarker resolve fetch depth file removed marker).Gives options [] := by
  rw [emitMarker, if_pos (by simpa using hremoved)]
  exact Weave.Gives.done []

/-- A marker for another trigger stays, unless it exports. -/
theorem emitMarker_gives_excluded (hkept : marker.tag ∉ removed)
    (hparse : Attributes.parse (Path.parent file) marker.attrText = .ok attributes)
    (hexcludes : attributes.excludes options.activeTrigger = true) :
    (emitMarker resolve fetch depth file removed marker).Gives options
      (if attributes.exportTarget.isSome then [] else marker.text) := by
  have hcontains : removed.contains marker.tag = false := by simpa using hkept
  simp only [emitMarker, hcontains, hparse, Weave.ofExcept, Weave.bind_eq, Weave.bind,
    Bool.false_eq_true, if_false]
  apply Weave.Gives.options_bind
  rw [if_pos hexcludes]
  exact Weave.Gives.done _

/-- A `remove` for the active trigger is left out. -/
theorem emitMarker_gives_remove (hkept : marker.tag ∉ removed)
    (hlive : Live file options.activeTrigger marker attributes) (htag : marker.tag = removeTag) :
    (emitMarker resolve fetch depth file removed marker).Gives options [] := by
  have hcontains : removed.contains marker.tag = false := by simpa using hkept
  have hreference : referenceTags.contains marker.tag = false := by
    rw [htag]
    decide
  simp only [emitMarker, hcontains, hlive.parse, Weave.ofExcept, Weave.bind_eq, Weave.bind,
    Bool.false_eq_true, if_false]
  apply Weave.Gives.options_bind
  simp only [hlive.excludes, hreference, Bool.false_eq_true, if_false]
  rw [if_pos htag]
  exact Weave.Gives.done []

/-- Any other marker for the active trigger stays around what its body becomes. -/
theorem emitMarker_gives_kept (hkept : marker.tag ∉ removed)
    (hlive : Live file options.activeTrigger marker attributes)
    (hreference : marker.tag ∉ referenceTags) (htag : marker.tag ≠ removeTag)
    (hbody : (resolve file marker.body).Gives options out) :
    (emitMarker resolve fetch depth file removed marker).Gives options (marker.rebuild out) := by
  have hcontains : removed.contains marker.tag = false := by simpa using hkept
  have hother : referenceTags.contains marker.tag = false := by simpa using hreference
  simp only [emitMarker, hcontains, hlive.parse, Weave.ofExcept, Weave.bind_eq, Weave.bind,
    Bool.false_eq_true, if_false]
  apply Weave.Gives.options_bind
  simp only [hlive.excludes, hother, htag, Bool.false_eq_true, if_false]
  exact hbody.bind (Weave.Gives.done _)

end Emit

end BlockWeave
