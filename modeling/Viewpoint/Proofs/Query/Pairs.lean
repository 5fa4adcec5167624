import Viewpoint.Proofs.Query.Key
import Viewpoint.Proofs.Reconcile
import Viewpoint.Proofs.Wire.Encoding

/-!
Query strings name nothing twice, and tell the key of a request up to the second in which each
instant is read.
-/

namespace Viewpoint

/-- The time range between the starts of the seconds of its ends. -/
def TimeRange.truncated (range : TimeRange) : TimeRange :=
  { range with start := range.start.truncated, finish := range.finish.truncated }

/-- The zoom between the starts of the seconds of its bounds. -/
def Zoom.truncated (zoom : Zoom) : Zoom :=
  ⟨zoom.min.map Instant.truncated, zoom.max.map Instant.truncated⟩

/-- The snapshot with every instant at the start of its second. -/
def Snapshot.truncated (snapshot : Snapshot) : Snapshot :=
  { snapshot with range := snapshot.range.truncated, zoom := snapshot.zoom.truncated }

/-- Whether an instant is read before or after the rest of its second is dropped does not matter. -/
theorem Instant.truncated_asRead (t : Instant) : t.asRead.truncated = t.truncated.asRead := by
  have nanos := t.nanos_lt
  -- The start of a leap second lies in it, so both are legible or neither is.
  have alike : t.truncated.IsLegible ↔ t.IsLegible := by
    simp only [IsLegible, truncated, nanosPerSecond]
    omega
  by_cases legible : t.IsLegible
  · rw [asRead_of_isLegible legible, asRead_of_isLegible (alike.2 legible)]
  · -- Either way the next second starts with its first nanosecond.
    rw [asRead, asRead, dif_neg legible, dif_neg (mt alike.1 legible)]
    simp only [IsLegible, nanosPerSecond] at legible nanos
    simp only [truncated, nanosPerSecond, mk.injEq, true_and]
    omega

/-- Instants are alike in a query string when they are read within the same second. -/
theorem queryTime_eq_iff {a b : Instant} :
    queryTime a = queryTime b ↔ a.asRead.truncated = b.asRead.truncated := by
  -- A query string has the written form of the start of a second.
  rw [Instant.truncated_asRead, Instant.truncated_asRead]
  exact Instant.written_wire_eq_iff

/-- Instants that may be missing are told apart in the same way. -/
theorem map_queryTime_eq_iff {a b : Option Instant} : a.map queryTime = b.map queryTime ↔
    (a.map Instant.asRead).map Instant.truncated
      = (b.map Instant.asRead).map Instant.truncated := by
  -- A missing instant is missing in the query string too.
  rw [Option.map_map, Option.map_map]
  exact map_eq_map_iff queryTime_eq_iff

/-- The dimensions of selected filters are in their order. -/
theorem FilterScope.dimensions_select (scope : FilterScope) (filters : Filters) :
    ((scope.select filters).map Prod.fst).Sublist Dimension.all := by
  -- Each dimension gives at most one pair, which carries it.
  have active : (filters.active.map Prod.fst).Sublist Dimension.all := by
    have listed : (filters.active.map Prod.fst).Sublist (Dimension.all.map id) := by
      refine sublist_map_filterMap fun d _ pair found => ?_
      obtain ⟨value, -, rfl⟩ := Option.map_eq_some_iff.1 found
      rfl
    rwa [List.map_id] at listed
  cases scope with
  | none => exact List.nil_sublist _
  | all => exact active
  | excluding d => exact (List.filter_sublist.map Prod.fst).trans active

/-- Selected filters are of distinct dimensions. -/
theorem FilterScope.nodup_select (scope : FilterScope) (filters : Filters) :
    ((scope.select filters).map Prod.fst).Nodup :=
  -- Dimensions that follow their own order are listed once each.
  Dimension.nodup_all.sublist (scope.dimensions_select filters)

/-- Selected filters are told apart by what they filter by, whatever the order. -/
theorem FilterScope.select_eq_of_mem {scope : FilterScope} {a b : Filters}
    (same : ∀ d value, (d, value) ∈ scope.select a ↔ (d, value) ∈ scope.select b) :
    scope.select a = scope.select b := by
  -- A scope selects a filter of each dimension in it, so members tell the filters, and these the
  -- list.
  cases scope with
  | none => rfl
  | all =>
    refine Filters.active_inj.2 (Filters.ext_get fun d => Option.ext fun value => ?_)
    rw [← Filters.mem_active, ← Filters.mem_active]
    exact same d value
  | excluding excluded =>
    refine Filters.activeExcluding_eq_iff.2 fun d apart => Option.ext fun value => ?_
    have pair := same d value
    simp only [select, Filters.mem_activeExcluding] at pair
    simpa [apart] using pair

/-- All filters are the one of a dimension and those of the others, in some order. -/
theorem Filters.active_perm (filters : Filters) (d : Dimension) :
    (((filters.get d).map fun value => (d, value)).toList ++ filters.activeExcluding d).Perm
      filters.active := by
  have all := (FilterScope.all.nodup_select filters).of_map
  have others := ((FilterScope.excluding d).nodup_select filters).of_map
  -- No pair is listed twice on either side, so it is enough to compare the members.
  refine (List.perm_ext_iff_of_nodup (List.nodup_append'.2 ⟨?_, others, ?_⟩) all).2 ?_
  · cases filters.get d <;> simp
  · rintro ⟨found, value⟩ own other
    have apart := (mem_activeExcluding.1 other).1
    simp [Ne.symm apart] at own
  · rintro ⟨found, value⟩
    by_cases own : found = d
    · subst own
      simp [FilterScope.select, mem_active, mem_activeExcluding]
    · simp [FilterScope.select, mem_active, mem_activeExcluding, own, Ne.symm own]

section Names

variable {name other value : String} {d : Dimension} {filters : List (Dimension × String)}

/-- The names in query strings that do not belong to a dimension. -/
def parameterNames : List String :=
  ["start_time", "end_time", "group_by", "aggregation", "interval", "zoom_min", "zoom_max"]

/-- No dimension goes by the name of a parameter. -/
theorem Dimension.name_not_mem_parameterNames (d : Dimension) : d.name ∉ parameterNames := by
  -- Each of the names is compared with all parameters.
  cases d <;> decide

/-- Dimensions are told apart by their names. -/
theorem Dimension.name_injective : Function.Injective Dimension.name :=
  -- This holds of all types with names.
  (Named.name_injective : Function.Injective (Named.name : Dimension → String))

/-- An optional value stands under its name, if there is one. -/
theorem mem_optionalPair {α : Type} {text : α → String} {optional : Option α} :
    (other, value) ∈ optionalPair name text optional ↔
      other = name ∧ optional.map text = some value := by
  -- There is at most one pair.
  cases optional with
  | none => simp [optionalPair]
  | some present => simp [optionalPair, eq_comm]

/-- A filter stands under the name of its dimension. -/
theorem mem_filterPairs : (d.name, value) ∈ filterPairs filters ↔ (d, value) ∈ filters := by
  -- The pair of a filter tells its dimension by the name.
  constructor
  · intro listed
    obtain ⟨⟨found, text⟩, member, same⟩ := List.mem_map.1 listed
    obtain ⟨names, rfl⟩ := Prod.mk.inj same
    rwa [← Dimension.name_injective names]
  · exact List.mem_map_of_mem

/-- No filter stands under the name of a parameter. -/
theorem not_mem_filterPairs (parameter : name ∈ parameterNames) :
    (name, value) ∉ filterPairs filters := by
  -- Filters go by the names of dimensions.
  intro listed
  obtain ⟨⟨d, text⟩, -, same⟩ := List.mem_map.1 listed
  obtain ⟨rfl, -⟩ := Prod.mk.inj same
  exact d.name_not_mem_parameterNames parameter

end Names

namespace Widget

variable {widget : Widget} {snapshot a b : Snapshot}

/-- What a widget asks for besides filters. -/
def parameters (widget : Widget) (snapshot : Snapshot) : QueryPairs :=
  let bounds := [("start_time", queryTime snapshot.range.start),
    ("end_time", queryTime snapshot.range.finish)]
  match widget with
  | aggregated groupBy aggregation =>
    bounds ++ [("group_by", groupBy.name), ("aggregation", aggregation.name)]
  | timeseries interval =>
    bounds ++ [("interval", (interval.getD snapshot.range.suggestedInterval).name)]
      ++ optionalPair "zoom_min" queryTime snapshot.zoom.min
      ++ optionalPair "zoom_max" queryTime snapshot.zoom.max
  | metrics => bounds
  | options _ => []

/-- The metric and the other filters make up all filters. -/
theorem metricPairs_perm (filters : Filters) :
    (optionalPair "metric_name" id (filters.get .metricName)
      ++ filterPairs (filters.activeExcluding .metricName)).Perm (filterPairs filters.active) := by
  -- The metric goes by the name of its dimension, so it is a filter like the others.
  have metric : optionalPair "metric_name" id (filters.get .metricName) =
      filterPairs ((filters.get .metricName).map fun value => (.metricName, value)).toList := by
    cases filters.get .metricName <;> rfl
  rw [metric, filterPairs, filterPairs, ← List.map_append]
  exact (filters.active_perm .metricName).map _

/-- A query string is made of parameters and of the filters that the widget depends on. -/
theorem pairs_perm (widget : Widget) (snapshot : Snapshot) :
    (widget.request snapshot).pairs.Perm (widget.parameters snapshot
      ++ filterPairs (widget.deps.filters.select snapshot.filters)) := by
  -- A metric that stands among the parameters can move to the other filters.
  cases widget with
  | aggregated groupBy aggregation =>
    refine .trans ?_ ((metricPairs_perm snapshot.filters).append_left _)
    simp [request, Request.pairs, AggregatedRequest.pairs, AggregatedRequest.ofSnapshot,
      parameters]
  | timeseries interval =>
    have moved := List.perm_append_comm_assoc
      (optionalPair "metric_name" id (snapshot.filters.get .metricName))
      (("interval", (interval.getD snapshot.range.suggestedInterval).name)
        :: optionalPair "zoom_min" queryTime snapshot.zoom.min
          ++ optionalPair "zoom_max" queryTime snapshot.zoom.max)
      (filterPairs (snapshot.filters.activeExcluding .metricName))
    refine .trans ?_ ((metricPairs_perm snapshot.filters).append_left _)
    simpa [request, Request.pairs, TimeseriesRequest.pairs, TimeseriesRequest.ofSnapshot,
      parameters] using moved
  | metrics => exact .rfl
  | options d => exact .rfl

/-- The parameters of a widget go by names that no dimension has, each by another one. -/
theorem names_parameters (widget : Widget) (snapshot : Snapshot) :
    ((widget.parameters snapshot).map Prod.fst).Sublist parameterNames := by
  cases widget with
  | aggregated groupBy aggregation =>
    have names : ["start_time", "end_time", "group_by", "aggregation"].Sublist parameterNames := by
      decide
    exact names
  | timeseries interval =>
    -- A bound of the zoom gives its name or none.
    have bound : ∀ name (t : Option Instant),
        ((optionalPair name queryTime t).map Prod.fst).Sublist [name] := by
      intro name t
      cases t <;> simp [optionalPair]
    have zoom := (bound "zoom_min" snapshot.zoom.min).append (bound "zoom_max" snapshot.zoom.max)
    have names : (["start_time", "end_time", "interval"] ++ ["zoom_min", "zoom_max"]).Sublist
        parameterNames := by
      decide
    simpa [parameters] using (zoom.append_left _).trans names
  | metrics =>
    have names : ["start_time", "end_time"].Sublist parameterNames := by decide
    exact names
  | options d => exact List.nil_sublist _

/-- No name stands twice in a query string. -/
theorem nodup_names (widget : Widget) (snapshot : Snapshot) :
    ((widget.request snapshot).pairs.map Prod.fst).Nodup := by
  have parameters := widget.names_parameters snapshot
  have dimensions := widget.deps.filters.nodup_select snapshot.filters
  -- Filters go by the names of their dimensions, which are no names of parameters.
  have filters : (filterPairs (widget.deps.filters.select snapshot.filters)).map Prod.fst =
      ((widget.deps.filters.select snapshot.filters).map Prod.fst).map Dimension.name := by
    simp [filterPairs]
  refine ((widget.pairs_perm snapshot).map Prod.fst).nodup_iff.2 ?_
  rw [List.map_append, filters]
  refine List.nodup_append'.2 ⟨(by decide : parameterNames.Nodup).sublist parameters,
    dimensions.map Dimension.name_injective, fun name parameter named => ?_⟩
  obtain ⟨d, -, rfl⟩ := List.mem_map.1 named
  exact d.name_not_mem_parameterNames (parameters.subset parameter)

/-- Under the name of a parameter a query string has the parameter of that name. -/
theorem mem_pairs_parameter {name value : String} (parameter : name ∈ parameterNames) :
    (name, value) ∈ (widget.request snapshot).pairs ↔
      (name, value) ∈ widget.parameters snapshot := by
  -- A pair stands among the parameters or the filters, and no filter has this name.
  rw [(widget.pairs_perm snapshot).mem_iff, List.mem_append,
    or_iff_left (not_mem_filterPairs parameter)]

/-- Under the name of a dimension a query string has the filter of it that the widget reads. -/
theorem mem_pairs_filter {d : Dimension} {value : String} :
    (d.name, value) ∈ (widget.request snapshot).pairs ↔
      (d, value) ∈ widget.deps.filters.select snapshot.filters := by
  -- A pair stands among the parameters or the filters, and no parameter has this name.
  rw [(widget.pairs_perm snapshot).mem_iff, List.mem_append, mem_filterPairs, or_iff_right]
  intro parameter
  have named := (widget.names_parameters snapshot).subset (List.mem_map_of_mem parameter)
  exact d.name_not_mem_parameterNames named

/-- A widget that reads the time range tells where it starts and where it ends. -/
theorem mem_parameters_bounds {value : String} (timed : widget.deps.timeRange = true) :
    (("start_time", value) ∈ widget.parameters snapshot ↔
        queryTime snapshot.range.start = value) ∧
      (("end_time", value) ∈ widget.parameters snapshot ↔
        queryTime snapshot.range.finish = value) := by
  -- The bounds are the first two parameters of every widget that reads the range.
  cases widget with
  | aggregated groupBy aggregation => simp [parameters, eq_comm]
  | timeseries interval => simp [parameters, mem_optionalPair, eq_comm]
  | metrics => simp [parameters, eq_comm]
  | options d => cases timed

/-- A widget that reads the zoom tells the bounds that it has. -/
theorem mem_parameters_zoom {value : String} (zoomed : widget.deps.zoom = true) :
    (("zoom_min", value) ∈ widget.parameters snapshot ↔
        snapshot.zoom.min.map queryTime = some value) ∧
      (("zoom_max", value) ∈ widget.parameters snapshot ↔
        snapshot.zoom.max.map queryTime = some value) := by
  -- Only a time series reads the zoom.
  cases widget with
  | timeseries interval => simp [parameters, mem_optionalPair]
  | aggregated _ _ | metrics | options _ => cases zoomed

/-- Equal query strings tell the same filters of those that the widget depends on. -/
theorem select_eq (same : (widget.request a).pairs = (widget.request b).pairs) :
    widget.deps.filters.select a.filters = widget.deps.filters.select b.filters := by
  -- Each selected filter is a pair of the query string, and the other way round.
  refine FilterScope.select_eq_of_mem fun d value => ?_
  rw [← mem_pairs_filter, same, mem_pairs_filter]

/-- Equal query strings tell the same parameters. -/
theorem mem_parameters_congr (same : (widget.request a).pairs = (widget.request b).pairs)
    {name value : String} (parameter : name ∈ parameterNames) :
    (name, value) ∈ widget.parameters a ↔ (name, value) ∈ widget.parameters b := by
  -- Each parameter is a pair of the query string, and the other way round.
  rw [← mem_pairs_parameter parameter, same, mem_pairs_parameter parameter]

/-- Equal query strings tell the same bounds as they are read, up to the second. -/
theorem truncated_bounds_eq (same : (widget.request a).pairs = (widget.request b).pairs)
    (timed : widget.deps.timeRange = true) :
    a.range.start.asRead.truncated = b.range.start.asRead.truncated ∧
      a.range.finish.asRead.truncated = b.range.finish.asRead.truncated := by
  -- Both bounds stand under their names in the other query string too.
  have start : ("start_time", queryTime a.range.start) ∈ widget.parameters b :=
    (mem_parameters_congr same (by decide)).1 ((mem_parameters_bounds timed).1.2 rfl)
  have finish : ("end_time", queryTime a.range.finish) ∈ widget.parameters b :=
    (mem_parameters_congr same (by decide)).1 ((mem_parameters_bounds timed).2.2 rfl)
  rw [(mem_parameters_bounds timed).1] at start
  rw [(mem_parameters_bounds timed).2] at finish
  exact ⟨queryTime_eq_iff.1 start.symm, queryTime_eq_iff.1 finish.symm⟩

/-- Equal query strings tell the same zoom as it is read, up to the second. -/
theorem truncated_zoom_eq (same : (widget.request a).pairs = (widget.request b).pairs)
    (zoomed : widget.deps.zoom = true) : a.zoom.asRead.truncated = b.zoom.asRead.truncated := by
  -- A bound that is missing is told by a missing pair, so all values are compared.
  refine Zoom.eq_iff.2 ⟨map_queryTime_eq_iff.1 (Option.ext fun value => ?_),
    map_queryTime_eq_iff.1 (Option.ext fun value => ?_)⟩
  · rw [← (mem_parameters_zoom zoomed).1, ← (mem_parameters_zoom zoomed).1]
    exact mem_parameters_congr same (by decide)
  · rw [← (mem_parameters_zoom zoomed).2, ← (mem_parameters_zoom zoomed).2]
    exact mem_parameters_congr same (by decide)

/-- The keys of two snapshots are read as equal up to the second if the query strings are. -/
theorem key_truncated_eq (same : (widget.request a).pairs = (widget.request b).pairs) :
    widget.key a.asRead.truncated = widget.key b.asRead.truncated := by
  have filters := select_eq same
  have untrailed : widget.deps.trail = false := by cases widget <;> rfl
  simp only [key, QueryKey.derive, QueryKey.mk.injEq]
  -- A part is in the key exactly if the widget reads it.
  refine ⟨?bounds, filters, ?crumbs, ?zoom⟩
  case bounds =>
    split
    · obtain ⟨start, finish⟩ := truncated_bounds_eq same ‹_›
      exact congrArg some (Prod.ext start finish)
    · rfl
  case crumbs => simp [untrailed]
  case zoom =>
    split
    · exact congrArg some (truncated_zoom_eq same ‹_›)
    · rfl

/--
A query string determines the key of its request up to the second, and names nothing twice.

Two snapshots for which a widget has the same query string give it the same key once all their
instants are moved to the starts of the seconds in which they are read. These are their own seconds,
unless one of them lies in a leap second within a minute.
-/
theorem pairs_tell_key (widget : Widget) (a b : Snapshot) :
    ((widget.request a).pairs = (widget.request b).pairs →
      widget.key a.asRead.truncated = widget.key b.asRead.truncated) ∧
    (a.asRead = a ↔ ∀ t ∈ a.instants, t.IsLegible) ∧
    ((widget.request a).pairs.map Prod.fst).Nodup :=
  -- Which instants are read as others does not depend on the widget.
  ⟨key_truncated_eq, Snapshot.asRead_eq_self_iff, widget.nodup_names a⟩

/-- The range from 1970 to the end of 2016, with a leap second from the billionth nanosecond on. -/
def untilLeap (nanos : Nat) (fits : nanos < 2 * nanosPerSecond) : Snapshot :=
  .initial ⟨.epoch, ⟨1483228799, nanos, by decide, fits⟩, none⟩

/-- The half of a leap second is lost in a query string, but not the leap second itself. -/
theorem pairs_tell_key_leap :
    (metrics.request (untilLeap 0 (by decide))).pairs ≠
        (metrics.request (untilLeap 1500000000 (by decide))).pairs ∧
      (metrics.request (untilLeap 1000000000 (by decide))).pairs =
        (metrics.request (untilLeap 1500000000 (by decide))).pairs ∧
      (∀ nanos fits, (untilLeap nanos fits).asRead = untilLeap nanos fits) ∧
      metrics.key (untilLeap 1000000000 (by decide)).truncated =
        metrics.key (untilLeap 1500000000 (by decide)).truncated := by
  have same : (metrics.request (untilLeap 1000000000 (by decide))).pairs =
      (metrics.request (untilLeap 1500000000 (by decide))).pairs := by
    have cut : queryTime (untilLeap 1000000000 (by decide)).range.finish =
        queryTime (untilLeap 1500000000 (by decide)).range.finish :=
      queryTime_eq_iff.2 (by decide)
    show [_, ("end_time", queryTime (untilLeap 1000000000 (by decide)).range.finish)] ++ [] = _
    rw [cut]
    rfl
  -- The leap second ends a minute, so the range is read as it is.
  have read (nanos : Nat) (fits : nanos < 2 * nanosPerSecond) :
      (untilLeap nanos fits).asRead = untilLeap nanos fits := by
    refine (pairs_tell_key metrics _ (untilLeap nanos fits)).2.1.2 ?_
    rintro t (_ | ⟨_, _ | ⟨_, ⟨⟩⟩⟩)
    · exact .inl (show 0 < nanosPerSecond by decide)
    · exact .inr (show (1483228799 : Int) % 60 = 59 by decide)
  have told := (pairs_tell_key metrics _ _).1 same
  rw [read, read] at told
  refine ⟨fun alike => ?_, same, read, told⟩
  -- The leap second is a second of its own, so the keys differ even up to the second.
  have apart := (pairs_tell_key metrics _ _).1 alike
  revert apart
  decide

/--
Metrics are asked for in the same words over ranges that start in different seconds: in the leap
second after the fourth second of a minute, and in the fifth second.
-/
theorem pairs_shared : ¬ ∀ (widget : Widget) (a b : Snapshot), widget.validate = .ok () →
    (widget.request a).pairs = (widget.request b).pairs →
      widget.key a.truncated = widget.key b.truncated := by
  intro told
  -- Both starts are written as the fifth second.
  have alike : queryTime .withinMinute = queryTime .secondAfter := queryTime_eq_iff.2 (by decide)
  have same := told metrics (.initial ⟨.withinMinute, .minuteEnd, none⟩)
    (.initial ⟨.secondAfter, .minuteEnd, none⟩) rfl (by
      show ("start_time", queryTime .withinMinute) :: _ = ("start_time", _) :: _
      rw [alike]
      rfl)
  revert same
  decide

end Widget

end Viewpoint
