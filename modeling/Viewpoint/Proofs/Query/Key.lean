import Viewpoint.Proofs.Filters
import Viewpoint.Widget

/-! The key of a widget and its request carry the same parts of a snapshot. -/

namespace Viewpoint

/-- The suggested interval depends on the ends of a range, not on its preset. -/
theorem TimeRange.suggestedInterval_congr {a b : TimeRange} (start : a.start = b.start)
    (finish : a.finish = b.finish) : a.suggestedInterval = b.suggestedInterval := by
  -- The interval is chosen by the width, which is measured between the ends.
  have width : a.width = b.width := by simp only [TimeRange.width, start, finish]
  simp only [TimeRange.suggestedInterval, width]

/-- Zooms with equal bounds are equal. -/
theorem Zoom.eq_iff {a b : Zoom} : a = b ↔ a.min = b.min ∧ a.max = b.max := by
  -- A zoom is no more than its two bounds.
  cases a
  cases b
  simp only [mk.injEq]

namespace Widget

/--
Two snapshots agree in all that a widget reads.

Charts read the ends of the range and all filters, and a time series the zoom as well. A selector
reads the filters of the other dimensions.
-/
def ReadsAlike (widget : Widget) (a b : Snapshot) : Prop :=
  match widget with
  | aggregated _ _ | metrics =>
    a.range.start = b.range.start ∧ a.range.finish = b.range.finish ∧ a.filters = b.filters
  | timeseries _ =>
    a.range.start = b.range.start ∧ a.range.finish = b.range.finish ∧ a.filters = b.filters ∧
      a.zoom = b.zoom
  | options d => ∀ other, other ≠ d → a.filters.get other = b.filters.get other

/-- The key of a widget is made of what the widget reads. -/
theorem key_eq_iff (widget : Widget) {a b : Snapshot} :
    widget.key a = widget.key b ↔ widget.ReadsAlike a b := by
  -- A key lists the filters that are set, which is all that there is to know of them.
  cases widget with
  | aggregated groupBy aggregation | metrics =>
    simp [key, deps, Deps.chart, QueryKey.derive, FilterScope.select, ReadsAlike,
      Filters.active_inj, and_assoc]
  | timeseries interval =>
    simp [key, deps, Deps.timeSeries, Deps.chart, QueryKey.derive, FilterScope.select, ReadsAlike,
      Filters.active_inj, and_assoc]
  | options d =>
    simp [key, deps, Deps.candidatesOf, QueryKey.derive, FilterScope.select, ReadsAlike,
      Filters.activeExcluding_eq_iff]

/-- The request of a widget tells what the widget reads, and nothing else. -/
theorem request_eq_iff (widget : Widget) {a b : Snapshot} :
    widget.request a = widget.request b ↔ widget.ReadsAlike a b := by
  cases widget with
  | aggregated groupBy aggregation =>
    -- The request takes the metric out of the filters; together they are all filters.
    simp only [request, AggregatedRequest.ofSnapshot, ReadsAlike, Request.aggregated.injEq,
      AggregatedRequest.mk.injEq, ← Filters.active_inj,
      Filters.active_eq_iff_split .metricName, true_and]
  | timeseries interval =>
    simp only [request, TimeseriesRequest.ofSnapshot, ReadsAlike, Request.timeseries.injEq,
      TimeseriesRequest.mk.injEq, ← Filters.active_inj,
      Filters.active_eq_iff_split .metricName, Zoom.eq_iff]
    constructor
    · rintro ⟨start, finish, metric, _, min, max, others⟩
      exact ⟨start, finish, ⟨metric, others⟩, min, max⟩
    · -- The interval is no more than a function of the ends of the range.
      rintro ⟨start, finish, ⟨metric, others⟩, min, max⟩
      have suggested := TimeRange.suggestedInterval_congr start finish
      exact ⟨start, finish, metric, by rw [suggested], min, max, others⟩
  | metrics =>
    -- Nothing is taken out of the filters, so the parts agree one by one.
    simp only [request, MetricsRequest.ofSnapshot, ReadsAlike, Request.metrics.injEq,
      MetricsRequest.mk.injEq, Filters.active_inj]
  | options d =>
    simp only [request, OptionsRequest.ofSnapshot, ReadsAlike, Request.options.injEq,
      OptionsRequest.mk.injEq, Filters.activeExcluding_eq_iff, true_and]

/-- Two snapshots give a widget the same request exactly when they give it the same key. -/
theorem request_eq_iff_key_eq (widget : Widget) {a b : Snapshot} :
    widget.request a = widget.request b ↔ widget.key a = widget.key b :=
  -- Both are equal when the widget reads the snapshots alike.
  widget.request_eq_iff.trans widget.key_eq_iff.symm

end Widget

end Viewpoint
