import Viewpoint.Proofs.Session

/-! A widget fetches again for exactly those changes that alter its request. -/

namespace Viewpoint.Widget

variable {widget : Widget} {a b : Snapshot} {slot : Slot}

/--
A snapshot is changed in a way that a widget has no use for.

No widget tells a preset from its range or reads the drill-down. A selector passes over the filter
of its own dimension, and only a time series is zoomed.
-/
inductive Overlooks (widget : Widget) (a : Snapshot) : Snapshot → Prop where
  | label (preset : Option PresetId) :
    Overlooks widget a (a.withRange { a.range with preset })
  | trail (trail : Trail) : Overlooks widget a (a.withDrill (trail, a.filters))
  | ownFilter {d : Dimension} (selector : widget = .options d) (value : Option String) :
    Overlooks widget a (a.withFilter d value)
  | zoom (unzoomed : ∀ interval, widget ≠ .timeseries interval) (zoom : Zoom) :
    Overlooks widget a (a.withZoom zoom)

/-- What a widget reads is the same after a change that it overlooks. -/
theorem Overlooks.readsAlike (overlooks : widget.Overlooks a b) : widget.ReadsAlike a b := by
  cases overlooks with
  | label preset | trail trail =>
    -- Neither is read by a widget of any kind.
    cases widget <;> simp [ReadsAlike, Snapshot.withRange, Snapshot.withDrill]
  | ownFilter selector value =>
    subst selector
    intro other apart
    exact ((Filters.get_set a.filters _ other value).trans (if_neg apart)).symm
  | zoom unzoomed zoom =>
    cases widget with
    | timeseries interval => exact absurd rfl (unzoomed interval)
    | aggregated _ _ | metrics => exact ⟨rfl, rfl, rfl⟩
    | options d => exact fun _ _ => rfl

/--
A widget that notices a snapshot needs a fetch unless it asked for the same before.

The last answer that it accepted may be for an equal request, or a fetch for one may be out.
-/
theorem needsFetch_observe_iff {answered : Option Snapshot} {out : List Snapshot}
    (completed : slot.tracker.completed = answered.map slot.widget.key)
    (keysOut : slot.tracker.keysOut = out.map slot.widget.key) :
    (slot.observe b).tracker.needsFetch = true ↔
      (∀ seen ∈ answered, slot.widget.request seen ≠ slot.widget.request b) ∧
        ∀ asked ∈ out, slot.widget.request asked ≠ slot.widget.request b := by
  have position : (slot.observe b).tracker.current = some (slot.widget.key b) := rfl
  rw [Tracker.needsFetch_iff position]
  -- To notice a snapshot is to move to its key; what was answered and what is out stay.
  change slot.tracker.completed ≠ _ ∧ _ ∉ slot.tracker.keysOut ↔ _
  rw [completed, keysOut]
  simp only [request_eq_iff_key_eq, ne_eq, List.mem_map, not_exists, not_and]
  cases answered <;> simp

/--
Two snapshots give a widget the same key exactly when they give it the same request, which is when
they agree in all that the widget reads.

So a widget that comes to a snapshot fetches unless its last answer or a fetch that is out is for an
equal request, and no change that the widget overlooks makes it fetch again.
-/
theorem key_eq_iff_request_eq (widget : Widget) (a b : Snapshot) :
    (QueryKey.derive a widget.deps = QueryKey.derive b widget.deps ↔
        widget.request a = widget.request b) ∧
      (widget.request a = widget.request b ↔ widget.ReadsAlike a b) ∧
      (widget.Overlooks a b → widget.request a = widget.request b) ∧
      ∀ (slot : Slot) (answered : Option Snapshot) (out : List Snapshot), slot.widget = widget →
        slot.tracker.completed = answered.map widget.key →
        slot.tracker.keysOut = out.map widget.key →
        ((slot.observe b).tracker.needsFetch = true ↔
          (∀ seen ∈ answered, widget.request seen ≠ widget.request b) ∧
            ∀ asked ∈ out, widget.request asked ≠ widget.request b) := by
  -- Keys and requests are both equal exactly if the widget reads the snapshots alike, so a need for
  -- a fetch, which is told by keys, is told by requests as well.
  refine ⟨widget.request_eq_iff_key_eq.symm, widget.request_eq_iff,
    fun overlooks => widget.request_eq_iff.2 overlooks.readsAlike, ?_⟩
  rintro slot answered out rfl completed keysOut
  exact needsFetch_observe_iff completed keysOut

open Session (answered chart noon) in
/-- The chart that was answered needs no fetch when a zoom is set, but one when a filter is. -/
theorem key_eq_iff_request_eq_answered :
    ∃ slot, answered.slot? "chart" = some slot ∧ slot.widget = chart ∧
      (slot.observe (answered.snapshot.withZoom ⟨some noon, none⟩)).tracker.needsFetch = false ∧
      (slot.observe (answered.snapshot.withFilter .service (some "a"))).tracker.needsFetch =
        true := by
  obtain ⟨slot, found⟩ : ∃ slot, answered.slot? "chart" = some slot := ⟨_, rfl⟩
  have known : (answered.slot? "chart").map (fun slot =>
      (slot.widget, slot.tracker.completed, slot.tracker.keysOut)) =
      some (chart, some (chart.key answered.snapshot), []) := by rfl
  obtain ⟨kind, completed, keysOut⟩ : slot.widget = chart ∧
      slot.tracker.completed = some (chart.key answered.snapshot) ∧ slot.tracker.keysOut = [] := by
    simpa [found] using known
  have unzoomed : ∀ interval, chart ≠ .timeseries interval := by simp [chart]
  obtain ⟨-, -, overlooks, zoomed⟩ := key_eq_iff_request_eq chart answered.snapshot
    (answered.snapshot.withZoom ⟨some noon, none⟩)
  obtain ⟨-, -, -, filtered⟩ := key_eq_iff_request_eq chart answered.snapshot
    (answered.snapshot.withFilter .service (some "a"))
  refine ⟨slot, found, kind, ?_, ?_⟩
  · -- A chart overlooks the zoom, so its last answer is for an equal request.
    refine Bool.eq_false_iff.2 fun needed => ?_
    obtain ⟨unasked, -⟩ := (zoomed slot (some answered.snapshot) [] kind completed keysOut).1 needed
    exact unasked _ rfl (overlooks (.zoom unzoomed _))
  · -- No request was made under the filter yet.
    refine (filtered slot (some answered.snapshot) [] kind completed keysOut).2
      ⟨?_, List.forall_mem_nil _⟩
    rintro _ ⟨⟩
    decide

end Viewpoint.Widget
