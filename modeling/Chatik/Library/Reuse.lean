import Mathlib.Data.List.Induction

/-!
# Reused objects

A pool hands out an object that is freshly loaded or one that has been in use,
after `prepareForReuse`; either is then configured for a model.  What an object
shows for a model may depend on the models before it.  It does not where
configuring reads nothing but a frame of the object and preparing restores the
frame whatever has been configured.
-/

namespace Chatik.Library

structure Reusable (Model Object : Type*) where
  loaded : Object
  prepareForReuse : Object → Object
  configure : Object → Model → Object

namespace Reusable

variable {Model Object Frame : Type*}

def dequeue (r : Reusable Model Object) : Option Object → Object
  | none => r.loaded
  | some object => r.prepareForReuse object

/-- The object after a history of models; `none` before its first use. -/
def used (r : Reusable Model Object) (history : List Model) : Option Object :=
  history.foldl (fun reused model => some (r.configure (r.dequeue reused) model)) none

/-- The object configured for a model after a history. -/
def shown (r : Reusable Model Object) (history : List Model) (model : Model) : Object :=
  r.configure (r.dequeue (r.used history)) model

theorem used_append_singleton (r : Reusable Model Object) (history : List Model)
    (model : Model) : r.used (history ++ [model]) = some (r.shown history model) := by
  simp [used, shown]

structure Framed (r : Reusable Model Object) (frame : Object → Frame) : Prop where
  configure_congr : ∀ object object' model, frame object = frame object' →
    r.configure object model = r.configure object' model
  prepare_configure : ∀ object model,
    frame (r.prepareForReuse (r.configure object model)) =
      frame (r.prepareForReuse object)
  prepare_prepare : ∀ object,
    frame (r.prepareForReuse (r.prepareForReuse object)) =
      frame (r.prepareForReuse object)

variable {r : Reusable Model Object} {frame : Object → Frame}

/-- After any use the frame is the one that a loaded object is prepared with. -/
theorem Framed.frame_prepared (h : r.Framed frame) {history : List Model}
    {object : Object} (hused : r.used history = some object) :
    frame (r.prepareForReuse object) = frame (r.prepareForReuse r.loaded) := by
  induction history using List.reverseRecOn generalizing object with
  | nil => cases hused
  | append_singleton history model ih =>
      rw [used_append_singleton, Option.some.injEq] at hused
      rw [← hused, shown, h.prepare_configure]
      cases hbefore : r.used history with
      | none => rfl
      | some object' =>
          rw [dequeue, h.prepare_prepare]
          exact ih hbefore

theorem used_eq_none {history : List Model} : r.used history = none ↔ history = [] := by
  cases history using List.reverseRecOn with
  | nil => exact iff_of_true rfl rfl
  | append_singleton history model =>
      rw [used_append_singleton]
      simp

theorem Framed.frame_dequeue (h : r.Framed frame) {history : List Model}
    (hne : history ≠ []) :
    frame (r.dequeue (r.used history)) = frame (r.prepareForReuse r.loaded) := by
  obtain ⟨object, hused⟩ := Option.ne_none_iff_exists'.mp (mt used_eq_none.mp hne)
  rw [hused]
  exact h.frame_prepared hused

/-- Two objects that have both been used, or neither, show the same. -/
theorem Framed.shown_congr (h : r.Framed frame) {history history' : List Model}
    (hused : history = [] ↔ history' = []) (model : Model) :
    r.shown history model = r.shown history' model := by
  apply h.configure_congr
  by_cases hempty : history = []
  · rw [hempty, hused.mp hempty]
  · rw [h.frame_dequeue hempty, h.frame_dequeue (mt hused.mpr hempty)]

/-- Where preparing a loaded object changes nothing in the frame, the history does
not matter at all. -/
theorem Framed.shown_eq (h : r.Framed frame)
    (hloaded : frame (r.prepareForReuse r.loaded) = frame r.loaded)
    (history history' : List Model) (model : Model) :
    r.shown history model = r.shown history' model := by
  have hframe : ∀ history, frame (r.dequeue (r.used history)) = frame r.loaded := by
    intro history
    by_cases hempty : history = []
    · rw [hempty]
      rfl
    · rw [h.frame_dequeue hempty, hloaded]
  exact h.configure_congr _ _ model ((hframe history).trans (hframe history').symm)

end Reusable

end Chatik.Library
