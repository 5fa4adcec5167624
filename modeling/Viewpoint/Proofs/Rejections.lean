import Viewpoint.Proofs.Facets
import Viewpoint.Proofs.InPlace
import Viewpoint.Proofs.Presets
import Viewpoint.Proofs.Validation

/-! A dashboard refuses exactly what cannot be done, and a refusal leaves it as it was. -/

namespace Viewpoint

/-- What is done to an accepted value does not change a refusal. -/
theorem map_eq_error {ε α β : Type} {x : Except ε α} {f : α → β} {e : ε} :
    x.map f = .error e ↔ x = .error e := by
  -- A refusal is mapped to itself.
  cases x <;> simp [Except.map]

/-- A range is refused exactly if it does not start before it ends. -/
theorem TimeRange.between_eq_error_iff {start finish : Instant} {rejection : Rejection} :
    between start finish = .error rejection
      ↔ finish ≤ start ∧ rejection = .invalidTimeRange start finish := by
  -- The check compares the ends, and for them not to be in order is to be in reverse.
  rw [between]
  split
  case isTrue ordered =>
    have notReversed : ¬ finish ≤ start := fun reversed => reversed ordered
    simp [notReversed]
  case isFalse reversed =>
    have reversed : finish ≤ start := reversed
    simp [reversed, eq_comm]

/-- A zoom is refused exactly if it has both bounds in reverse order. -/
theorem Zoom.within_eq_error_iff {min max : Option Instant} {rejection : Rejection} :
    within min max = .error rejection ↔ ∃ low high, min = some low ∧ max = some high ∧
      high < low ∧ rejection = .invalidZoom low high := by
  unfold within
  split
  case h_1 low high =>
    by_cases ordered : low ≤ high
    · have notReversed : ¬ high < low := ordered
      simp [ordered, notReversed]
    · have reversed : high < low := Decidable.not_not.1 ordered
      simp [ordered, reversed, eq_comm]
  case h_2 unbounded =>
    -- A bound is missing.
    constructor
    · intro refused
      cases refused
    · rintro ⟨low, high, rfl, rfl, _⟩
      exact absurd rfl (unbounded low high rfl)

namespace Navigator

variable {navigator : Navigator} {trail : Trail} {filters : Filters} {value : String}
  {rejection : Rejection}

/-- A step is refused exactly if it is to no value. -/
theorem drillDown_eq_error_iff {d : Dimension} :
    drillDown trail filters d value = .error rejection
      ↔ value = "" ∧ rejection = .emptyDrillValue d := by
  -- The value is the only thing that is checked.
  unfold drillDown
  split
  case isTrue empty => simp [String.isEmpty_iff.1 empty, eq_comm]
  case isFalse filled =>
    have filled : value ≠ "" := fun empty => filled (String.isEmpty_iff.2 empty)
    simp [filled]

/-- The next step is refused exactly if no level is left for it, or if it is to no value. -/
theorem drillNext_eq_error_iff :
    navigator.drillNext trail filters value = .error rejection
      ↔ (navigator.hierarchy.levels.length ≤ trail.level
          ∧ rejection = .drillDepthExceeded trail.level)
        ∨ ∃ d, navigator.hierarchy.levels[trail.level]? = some d ∧ value = ""
          ∧ rejection = .emptyDrillValue d := by
  -- The level is looked up first, and then drilled into as usual.
  unfold drillNext Hierarchy.at?
  cases reached : navigator.hierarchy.levels[trail.level]? with
  | none => simp [List.getElem?_eq_none_iff.1 reached, eq_comm]
  | some d =>
    obtain ⟨inside, _⟩ := List.getElem?_eq_some_iff.1 reached
    simp [drillDown_eq_error_iff, Nat.not_le.2 inside]

/-- Going back is refused exactly to a level that was not reached. -/
theorem drillUp_eq_error_iff {level : Nat} :
    navigator.drillUp trail filters level = .error rejection
      ↔ trail.level < level ∧ rejection = .invalidDrillLevel level trail.level := by
  -- The level is checked before the trail is cut, and filters are only looked at after that.
  rw [drillUp, map_eq_error, Trail.truncate]
  split
  case isTrue deeper => simp [deeper, eq_comm]
  case isFalse reached => simp [reached]

end Navigator

namespace Dashboard

/-- Why an event cannot be carried out on a dashboard. -/
inductive Refuses (dashboard : Dashboard) : Event → Rejection → Prop
  | emptyRange {start finish : Instant} : finish ≤ start →
      Refuses dashboard (.setTimeRange start finish) (.invalidTimeRange start finish)
  | unlistedPreset {id : PresetId} : id ∉ dashboard.config.presets.map Preset.id →
      Refuses dashboard (.applyPreset id) (.unknownPreset id.name)
  | presetTooWide {preset : Preset} : preset ∈ dashboard.config.presets →
      dashboard.store.now.secondBefore preset.seconds < firstSecond →
      Refuses dashboard (.applyPreset preset.id)
        (.invalidTimeRange dashboard.store.now dashboard.store.now)
  | emptyStep {d : Dimension} :
      Refuses dashboard (.drillDown d "") (.emptyDrillValue d)
  | deepest {value : String} :
      dashboard.config.hierarchy.levels.length ≤ dashboard.snapshot.trail.level →
      Refuses dashboard (.drillNext value) (.drillDepthExceeded dashboard.snapshot.trail.level)
  | emptyNextStep {d : Dimension} :
      dashboard.config.hierarchy.levels[dashboard.snapshot.trail.level]? = some d →
      Refuses dashboard (.drillNext "") (.emptyDrillValue d)
  | notReached {level : Nat} : dashboard.snapshot.trail.level < level →
      Refuses dashboard (.drillUp level)
        (.invalidDrillLevel level dashboard.snapshot.trail.level)
  | reversedZoom {low high : Instant} : high < low →
      Refuses dashboard (.setZoom (some low) (some high)) (.invalidZoom low high)
  | reversedBrush {low high : Instant} : high < low →
      Refuses dashboard (.brush (some low) (some high)) (.invalidZoom low high)

/-- Why a widget cannot be registered under a name; its grouping is looked at first. -/
inductive RefusesWidget (dashboard : Dashboard) (id : String) : Widget → Rejection → Prop
  | byStatus {aggregation : Aggregation} :
      RefusesWidget dashboard id (.aggregated .status aggregation) (.unsupportedGroupBy .status)
  | taken {widget : Widget} : (∀ aggregation, widget ≠ .aggregated .status aggregation) →
      id ∈ dashboard.slots.names → RefusesWidget dashboard id widget (.duplicateWidget id)

/-- The settings that a dashboard works with are those of a valid configuration. -/
structure Configured (dashboard : Dashboard) : Prop where
  valid : dashboard.config.validate = .ok ()
  presets : dashboard.store.presets = dashboard.config.presets
  navigator : dashboard.store.navigator =
    ⟨dashboard.config.drillPolicy, dashboard.config.hierarchy⟩

variable {dashboard after : Dashboard} {config : Config} {event : Event} {rejection : Rejection}

/-- A valid configuration has a table of presets in order. -/
theorem Configured.table (configured : dashboard.Configured) :
    (dashboard.config.presets.map Preset.id).Nodup ∧
      ∀ preset ∈ dashboard.config.presets, preset.isUsable := by
  -- Valid configurations are sound ones, which name each preset once and give it a usable width.
  have sound := Config.validate_eq_ok_iff.1 configured.valid
  exact ⟨sound.names, fun preset listed => Preset.isUsable_iff.2 (sound.widths preset listed)⟩

/-- An event is refused exactly if it cannot be carried out. -/
theorem Configured.dispatch_eq_error_iff (configured : dashboard.Configured) :
    dashboard.dispatch event = .error rejection ↔ dashboard.Refuses event rejection := by
  -- An event is refused exactly if its proposal is, and each kind of event has its own causes.
  rw [dispatch_eq, map_eq_error]
  cases event with
  | setTimeRange start finish =>
    rw [proposes, map_eq_error, TimeRange.between_eq_error_iff]
    constructor
    · rintro ⟨reversed, rfl⟩
      exact .emptyRange reversed
    · intro refused
      cases refused with
      | emptyRange reversed => exact ⟨reversed, rfl⟩
  | applyPreset id =>
    obtain ⟨distinct, usable⟩ := configured.table
    rw [proposes, map_eq_error, configured.presets, Preset.resolve_eq_error_iff distinct usable]
    constructor
    · rintro (⟨unlisted, rfl⟩ | ⟨preset, listed, rfl, early, rfl⟩)
      · exact .unlistedPreset unlisted
      · exact .presetTooWide listed early
    · intro refused
      cases refused with
      | unlistedPreset unlisted => exact .inl ⟨unlisted, rfl⟩
      | presetTooWide listed early => exact .inr ⟨_, listed, rfl, early, rfl⟩
  | drillDown d value =>
    rw [proposes, map_eq_error, Navigator.drillDown_eq_error_iff]
    constructor
    · rintro ⟨rfl, rfl⟩
      exact .emptyStep
    · intro refused
      cases refused with
      | emptyStep => exact ⟨rfl, rfl⟩
  | drillNext value =>
    rw [proposes, map_eq_error, Navigator.drillNext_eq_error_iff, configured.navigator]
    constructor
    · rintro (⟨deepest, rfl⟩ | ⟨d, reached, rfl, rfl⟩)
      · exact .deepest deepest
      · exact .emptyNextStep reached
    · intro refused
      cases refused with
      | deepest deepest => exact .inl ⟨deepest, rfl⟩
      | emptyNextStep reached => exact .inr ⟨_, reached, rfl, rfl⟩
  | drillUp level =>
    rw [proposes, map_eq_error, Navigator.drillUp_eq_error_iff]
    constructor
    · rintro ⟨deeper, rfl⟩
      exact .notReached deeper
    · intro refused
      cases refused with
      | notReached deeper => exact ⟨deeper, rfl⟩
  | setZoom min max =>
    rw [proposes, map_eq_error, Zoom.within_eq_error_iff]
    constructor
    · rintro ⟨low, high, rfl, rfl, reversed, rfl⟩
      exact .reversedZoom reversed
    · intro refused
      cases refused with
      | reversedZoom reversed => exact ⟨_, _, rfl, rfl, reversed, rfl⟩
  | brush min max =>
    rw [proposes, map_eq_error, Zoom.within_eq_error_iff]
    constructor
    · rintro ⟨low, high, rfl, rfl, reversed, rfl⟩
      exact .reversedBrush reversed
    · intro refused
      cases refused with
      | reversedBrush reversed => exact ⟨_, _, rfl, rfl, reversed, rfl⟩
  | setFilter | clearFilter | clearAllFilters | resetDrill | clearZoom | applyBrush | clearBrush
    | optionsLoaded =>
    -- The other events are never refused.
    constructor <;> (intro refused; cases refused)

/-- Only a widget that groups by status is not valid. -/
theorem validate_eq_error_iff {widget : Widget} : widget.validate = .error rejection
    ↔ ∃ aggregation, widget = .aggregated .status aggregation ∧
      rejection = .unsupportedGroupBy .status := by
  -- Of all widgets, only those that group are checked, and of all dimensions only one is refused.
  cases widget with
  | aggregated d aggregation =>
    by_cases status : d = .status
    · subst status
      constructor
      · rintro ⟨⟩
        exact ⟨aggregation, rfl, rfl⟩
      · rintro ⟨_, _, rfl⟩
        rfl
    · have groupable : d.isGroupable := by simpa [Dimension.isGroupable] using status
      simp [Widget.validate, groupable, status]
  | timeseries | metrics | options => simp [Widget.validate]

/-- A widget is refused exactly if it cannot be registered. -/
theorem register_eq_error_iff {id : String} {widget : Widget} :
    dashboard.register id widget = .error rejection
      ↔ dashboard.RefusesWidget id widget rejection := by
  -- The kind is checked before the name, so the causes are told apart in this order.
  rw [register]
  cases validated : widget.validate with
  | error fault =>
    obtain ⟨aggregation, rfl, rfl⟩ := validate_eq_error_iff.1 validated
    constructor
    · rintro ⟨⟩
      exact .byStatus
    · intro refused
      cases refused with
      | byStatus => rfl
      | taken valid => exact absurd rfl (valid aggregation)
  | ok _ =>
    have valid : ∀ aggregation, widget ≠ .aggregated .status aggregation := by
      rintro aggregation rfl
      cases validated
    simp only [Except.bind]
    cases found : dashboard.slots.get? id with
    | none =>
      -- The name is free, so neither of the causes applies.
      constructor
      · intro refused
        cases refused
      · intro refused
        cases refused with
        | byStatus => exact absurd rfl (valid _)
        | taken _ present => exact absurd present (Slots.get?_eq_none_iff.1 found)
    | some slot =>
      have present : id ∈ dashboard.slots.names := by
        refine Decidable.not_not.1 fun absent => ?_
        rw [Slots.get?_eq_none_iff.2 absent] at found
        cases found
      rw [Option.isSome_some, if_pos rfl]
      constructor
      · rintro ⟨⟩
        exact .taken valid present
      · intro refused
        cases refused with
        | byStatus => exact absurd rfl (valid _)
        | taken => rfl

/-- An answer is refused exactly if it is for no widget. -/
theorem complete_eq_error_iff {ticket : Ticket} {result : Except FetchFailure Response} :
    dashboard.complete ticket result = .error rejection
      ↔ ticket.widget ∉ dashboard.slots.names ∧ rejection = .unknownWidget ticket.widget := by
  -- An answer for a widget that is there is taken in one of the ways, whatever it says.
  rw [← Slots.get?_eq_none_iff, complete]
  cases dashboard.slots.get? ticket.widget with
  | none => simp [eq_comm]
  | some slot =>
    simp only [reduceCtorEq, false_and, iff_false]
    intro refused
    split at refused
    · split at refused <;> cases refused
    · cases refused
    · cases refused

/-- A new dashboard works with the settings of its configuration, which is valid. -/
theorem configured_create {config : Config} {now : Instant}
    (created : create config now = .ok dashboard) : dashboard.Configured := by
  -- The settings are copied when the dashboard is made, behind the check.
  obtain ⟨valid, _, _, rfl⟩ := create_eq_ok created
  exact ⟨valid, rfl, rfl⟩

end Dashboard

namespace Session

variable {session : Session} {config : Config}

/-- No operation changes the settings. -/
theorem configured_step (configured : session.dashboard.Configured) (operation : Operation) :
    (session.step operation).dashboard.Configured := by
  -- All three are settings, which stay.
  obtain ⟨config, presets, navigator, -⟩ := session.settings_step operation
  constructor
  · rw [config, configured.valid]
  · rw [config, presets, configured.presets]
  · rw [config, navigator, configured.navigator]

/-- Whatever was done, the dashboard works with the settings of a valid configuration. -/
theorem Unrestricted.configured (run : Unrestricted config session) :
    session.dashboard.Configured := by
  -- The induction is on the run.
  induction run with
  | start started =>
    obtain ⟨now, dashboard, created, rfl⟩ := started
    exact Dashboard.configured_create created
  | step _ _ before => exact configured_step before _

end Session

/--
A change of a dashboard is refused exactly for the given causes, and a refusal leaves the dashboard
as it was, even if the change is made in place.
-/
structure Dashboard.RefusesFor {α : Type} (dashboard : Dashboard) (causes : Rejection → Prop)
    (atOnce : Except Rejection (α × Dashboard)) (inPlace : InPlace α) : Prop where
  exact_causes : ∀ rejection, atOnce = .error rejection ↔ causes rejection
  agreement : inPlace.run dashboard = InPlace.atomically dashboard atOnce
  untouched : ∀ rejection after, inPlace.run dashboard = .error rejection after ↔
    causes rejection ∧ after = dashboard

/-- A change that is made in place as at once leaves nothing behind when it is refused. -/
theorem Dashboard.refusesFor_of {α : Type} {dashboard : Dashboard} {causes : Rejection → Prop}
    {atOnce : Except Rejection (α × Dashboard)} {inPlace : InPlace α}
    (exact_causes : ∀ rejection, atOnce = .error rejection ↔ causes rejection)
    (agreement : inPlace.run dashboard = InPlace.atomically dashboard atOnce) :
    dashboard.RefusesFor causes atOnce inPlace where
  -- What is done at once keeps the dashboard when it is refused, so what agrees with it does so as
  -- well.
  exact_causes := exact_causes
  agreement := agreement
  untouched rejection after := by
    rw [agreement, ← exact_causes]
    cases atOnce <;> simp [InPlace.atomically, eq_comm]

namespace Session

variable {session : Session} {config : Config}

/--
Whatever was done to a dashboard, it refuses events, widgets and answers exactly where they cannot
be carried out, and a refusal leaves all of it as it was.
-/
theorem refusals_exact (run : Unrestricted config session) :
    (∀ event, session.dashboard.RefusesFor (session.dashboard.Refuses event)
        ((session.dashboard.dispatch event).map fun after => ((), after))
        (InPlace.dispatch event)) ∧
      (∀ id widget, session.dashboard.RefusesFor (session.dashboard.RefusesWidget id widget)
        ((session.dashboard.register id widget).map fun after => ((), after))
        (InPlace.register id widget)) ∧
      ∀ ticket result, session.dashboard.RefusesFor
        (fun rejection => session.slot? ticket.widget = none ∧
          rejection = .unknownWidget ticket.widget)
        (session.dashboard.complete ticket result) (InPlace.complete ticket result) := by
  -- Causes and agreement are known for each of the three, and they are all that is asked for.
  refine ⟨fun event => ?_, fun id widget => ?_, fun ticket result => ?_⟩
  · refine Dashboard.refusesFor_of (fun rejection => ?_) (InPlace.run_dispatch event)
    rw [map_eq_error, run.configured.dispatch_eq_error_iff]
  · refine Dashboard.refusesFor_of (fun rejection => ?_) (InPlace.run_register id widget)
    rw [map_eq_error, Dashboard.register_eq_error_iff]
  · refine Dashboard.refusesFor_of (fun rejection => ?_) (InPlace.run_complete ticket result)
    rw [Dashboard.complete_eq_error_iff, slot?, Slots.get?_eq_none_iff]

/-- With a filter set and a fetch out, a brush in reverse order is refused and leaves no mark. -/
theorem refusals_exact_filtered : Unrestricted .standard filtered ∧
    (InPlace.dispatch (.brush (some noon) (some .epoch))).run filtered.dashboard =
      .error (.invalidZoom noon .epoch) filtered.dashboard := by
  -- The brush has its bounds in reverse order, which is one of the causes.
  have before : Unrestricted .standard asked := (Run.start fresh_isStart).steps (by decide)
  have run : Unrestricted .standard filtered := before.step trivial
  have reversed : filtered.dashboard.Refuses (.brush (some noon) (some .epoch))
      (.invalidZoom noon .epoch) := .reversedBrush (by decide)
  exact ⟨run, (((refusals_exact run).1 _).untouched _ _).2 ⟨reversed, rfl⟩⟩

end Session

end Viewpoint
