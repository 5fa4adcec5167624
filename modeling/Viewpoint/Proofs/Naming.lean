import Viewpoint.Proofs.Likeness
import Viewpoint.Proofs.Relabel

/-! How far the names of widgets matter: they decide in which order answers are taken. -/

namespace Viewpoint

namespace Dashboard

variable {dashboard after a b : Dashboard} {widgets : List (String × Widget)}
  {rename : String → String}

/-- Registers widgets under their names, one after the other. -/
def registerAll (dashboard : Dashboard) : List (String × Widget) → Except Rejection Dashboard
  | [] => .ok dashboard
  | (id, widget) :: rest => (dashboard.register id widget).bind fun after => after.registerAll rest

/-- Widgets are registered when the first one is and the others are after it. -/
theorem registerAll_cons_eq_ok {id : String} {widget : Widget} :
    dashboard.registerAll ((id, widget) :: widgets) = .ok after ↔
      ∃ next, dashboard.register id widget = .ok next ∧ next.registerAll widgets = .ok after := by
  -- A refusal of the first widget ends the registration.
  rw [registerAll]
  cases dashboard.register id widget with
  | error rejection => simp [Except.bind]
  | ok next => simp [Except.bind]

/-- A new dashboard with the given widgets. -/
def equipped (config : Config) (now : Instant) (widgets : List (String × Widget)) :
    Except Rejection Dashboard :=
  (create config now).bind fun dashboard => dashboard.registerAll widgets

/-- Widgets with new names. -/
def renameAll (rename : String → String) (widgets : List (String × Widget)) :
    List (String × Widget) :=
  widgets.map fun (id, widget) => (rename id, widget)

/-- Widgets that can be registered can be so under names that are as distinct. -/
theorem Alike.registerAll (alike : Alike a b) (poisedA : a.Poised) (poisedB : b.Poised)
    (apart : TellsApart rename (widgets.map Prod.fst))
    (fresh : ∀ id ∈ widgets.map Prod.fst, rename id ∈ b.slots.names → id ∈ a.slots.names)
    (registered : a.registerAll widgets = .ok after) :
    ∃ afterB, b.registerAll (renameAll rename widgets) = .ok afterB ∧
      after.Poised ∧ afterB.Poised ∧ Alike after afterB := by
  -- The induction is on the widgets; the names of either dashboard grow by those of the first one.
  induction widgets generalizing a b with
  | nil =>
    cases registered
    exact ⟨b, rfl, poisedA, poisedB, alike⟩
  | cons head rest ih =>
    obtain ⟨id, widget⟩ := head
    obtain ⟨nextA, first, others⟩ := registerAll_cons_eq_ok.1 registered
    obtain ⟨absent, stepA⟩ := register_eq_ok first
    have free : rename id ∉ b.slots.names := fun taken =>
      Slots.get?_eq_none_iff.1 absent (fresh id List.mem_cons_self taken)
    obtain ⟨nextB, firstB, alikeNext⟩ := alike.register first free
    obtain ⟨_, stepB⟩ := register_eq_ok firstB
    have apartRest : TellsApart rename (rest.map Prod.fst) := fun one member other later =>
      apart one (List.mem_cons_of_mem _ member) other (List.mem_cons_of_mem _ later)
    have freshRest : ∀ one ∈ rest.map Prod.fst,
        rename one ∈ nextB.slots.names → one ∈ nextA.slots.names := by
      intro one member taken
      subst stepA stepB
      rw [Slots.names_insert_perm.mem_iff, List.mem_cons] at taken ⊢
      rcases taken with same | before
      · exact .inl (apart one (List.mem_cons_of_mem _ member) id List.mem_cons_self same)
      · exact .inr (fresh one (List.mem_cons_of_mem _ member) before)
    obtain ⟨afterB, othersB, ended⟩ := ih alikeNext (poisedA.register first)
      (poisedB.register firstB) apartRest freshRest others
    exact ⟨afterB, registerAll_cons_eq_ok.2 ⟨nextB, firstB, othersB⟩, ended⟩

/-- Under names in the same order, the registered widgets are the same but for their names. -/
theorem registerAll_rename {names : List String} (ordered : KeepsOrder rename names)
    (members : ∀ id ∈ widgets.map Prod.fst, id ∈ names)
    (known : ∀ name ∈ dashboard.slots.names, name ∈ names)
    (registered : dashboard.registerAll widgets = .ok after) :
    (dashboard.rename rename).registerAll (renameAll rename widgets) = .ok (after.rename rename) ∧
      ∀ name ∈ after.slots.names, name ∈ names := by
  -- The induction is on the widgets, and the names under which they go are known beforehand.
  induction widgets generalizing dashboard with
  | nil =>
    cases registered
    exact ⟨rfl, known⟩
  | cons head rest ih =>
    obtain ⟨id, widget⟩ := head
    obtain ⟨member, members⟩ := List.forall_mem_cons.1 members
    obtain ⟨next, first, others⟩ := registerAll_cons_eq_ok.1 registered
    have knownNext : ∀ name ∈ next.slots.names, name ∈ names := by
      obtain ⟨_, rfl⟩ := register_eq_ok first
      intro name present
      rcases List.mem_cons.1 (Slots.names_insert_perm.mem_iff.1 present) with rfl | before
      · exact member
      · exact known name before
    have firstRenamed := register_rename ordered member known first
    obtain ⟨othersRenamed, knownAfter⟩ := ih members knownNext others
    exact ⟨registerAll_cons_eq_ok.2 ⟨_, firstRenamed, othersRenamed⟩, knownAfter⟩

end Dashboard

/-- What is done to a dashboard once it has its widgets. -/
inductive Turn where
  | setClock (now : Instant)
  | dispatch (event : Event)
  | refresh

/-- A dashboard that is refreshed with prepared answers, and the calls that were made for them. -/
structure Served where
  dashboard : Dashboard
  calls : List Endpoint

namespace Served

/-- The dashboard with new names for its widgets. -/
def rename (rename : String → String) (served : Served) : Served :=
  { served with dashboard := served.dashboard.rename rename }

variable {fixtures : Fixtures} {served a b : Served} {turns : List Turn}
  {rename : String → String}

/-- Does one thing to the dashboard; a refused event changes nothing. -/
def step (fixtures : Fixtures) (served : Served) : Turn → Served
  | .setClock now => { served with dashboard := served.dashboard.setClock now }
  | .dispatch event =>
    match served.dashboard.dispatch event with
    | .ok dashboard => { served with dashboard }
    | .error _ => served
  | .refresh =>
    let (_, calls, dashboard) := served.dashboard.refresh fixtures.backend served.calls
    ⟨dashboard, calls⟩

/-- A refresh is not exhausted. -/
def Finishes (fixtures : Fixtures) (served : Served) : Turn → Prop
  | .refresh => (served.dashboard.refresh fixtures.backend served.calls).1.exhausted = false
  | _ => True

/-- A refresh heeds the lists that it asks for. -/
def Heeds (fixtures : Fixtures) (served : Served) : Turn → Prop
  | .refresh => Dashboard.Heeds fixtures served.dashboard
      (served.dashboard.refresh fixtures.backend served.calls).2.2
  | _ => True

instance (fixtures : Fixtures) (served : Served) :
    ∀ turn, Decidable (served.Finishes fixtures turn)
  | .refresh => inferInstanceAs (Decidable (_ = false))
  | .setClock _ | .dispatch _ => isTrue trivial

instance (fixtures : Fixtures) (served : Served) : ∀ turn, Decidable (served.Heeds fixtures turn)
  | .refresh => inferInstanceAs (Decidable (Dashboard.Heeds _ _ _))
  | .setClock _ | .dispatch _ => isTrue trivial

/-- Two dashboards on which nothing is out are alike. -/
structure Matches (a b : Served) : Prop where
  left : a.dashboard.Poised
  right : b.dashboard.Poised
  alike : a.dashboard.Alike b.dashboard

/-- What is done to two dashboards leaves them alike when a refresh heeds its lists. -/
theorem Matches.step (same : Matches a b) {turn : Turn} (finishesA : a.Finishes fixtures turn)
    (finishesB : b.Finishes fixtures turn) (heedsA : a.Heeds fixtures turn)
    (heedsB : b.Heeds fixtures turn) : Matches (a.step fixtures turn) (b.step fixtures turn) := by
  -- Only a refresh depends on names, and what it comes to is told by what is shown before.
  cases turn with
  | setClock now =>
    exact ⟨same.left.setClock now, same.right.setClock now, same.alike.setClock now⟩
  | dispatch event =>
    rcases same.alike.dispatch event with
      ⟨rejection, refusedA, refusedB⟩ | ⟨afterA, afterB, acceptedA, acceptedB, alike⟩
    · simpa only [Served.step, refusedA, refusedB] using same
    · simp only [Served.step, acceptedA, acceptedB]
      exact ⟨same.left.dispatch acceptedA, same.right.dispatch acceptedB, alike⟩
  | refresh =>
    have outcomeA := Dashboard.refresh_outcome same.left finishesA heedsA
    have outcomeB := Dashboard.refresh_outcome same.right finishesB heedsB
    exact ⟨outcomeA.poised, outcomeB.poised, same.alike.of_outcome outcomeA outcomeB⟩

/-- So does all that is done to them, one after the other. -/
theorem Matches.run (same : Matches a b)
    (finishesA : AllAdmitted (Served.step fixtures) (Finishes fixtures) a turns)
    (finishesB : AllAdmitted (Served.step fixtures) (Finishes fixtures) b turns)
    (heedsA : AllAdmitted (Served.step fixtures) (Served.Heeds fixtures) a turns)
    (heedsB : AllAdmitted (Served.step fixtures) (Served.Heeds fixtures) b turns) :
    Matches (turns.foldl (Served.step fixtures) a) (turns.foldl (Served.step fixtures) b) := by
  -- The induction is on what is done.
  induction turns generalizing a b with
  | nil => exact same
  | cons turn turns ih =>
    exact ih (same.step finishesA.1 finishesB.1 heedsA.1 heedsB.1) finishesA.2 finishesB.2
      heedsA.2 heedsB.2

/-- What is done to a dashboard does the same to it under other names. -/
theorem step_rename (renamable : served.dashboard.Renamable rename) (turn : Turn) :
    (served.rename rename).step fixtures turn = (served.step fixtures turn).rename rename ∧
      (served.step fixtures turn).dashboard.Renamable rename := by
  -- Only a refresh looks at names at all, and it takes them in their order.
  cases turn with
  | setClock now =>
    exact ⟨rfl, ⟨renamable.coherent.distinct, renamable.coherent.named,
      renamable.coherent.observed⟩, renamable.apart⟩
  | dispatch event =>
    have same := Dashboard.dispatch_rename rename served.dashboard event
    cases dispatched : served.dashboard.dispatch event with
    | error rejection =>
      rw [dispatched] at same
      simp only [step, Served.rename, same, Except.map, dispatched]
      exact ⟨trivial, renamable⟩
    | ok after =>
      rw [dispatched] at same
      simp only [step, Served.rename, same, Except.map, dispatched]
      refine ⟨trivial, renamable.coherent.dispatch dispatched, ?_⟩
      rw [Dashboard.dispatch_slots dispatched, Slots.names_mapSlots]
      exact renamable.apart
  | refresh =>
    obtain ⟨summary, later, after, refreshed, refreshedRenamed, renamableAfter, _⟩ :=
      renamable.refresh fixtures.backend served.calls
    simp only [step, Served.rename, refreshed, refreshedRenamed]
    exact ⟨trivial, renamableAfter⟩

/-- So does all that is done to it, one after the other. -/
theorem run_rename (renamable : served.dashboard.Renamable rename) :
    turns.foldl (step fixtures) (served.rename rename) =
      (turns.foldl (step fixtures) served).rename rename := by
  -- The induction is on what is done.
  induction turns generalizing served with
  | nil => rfl
  | cons turn turns ih =>
    obtain ⟨same, renamableNext⟩ := step_rename renamable turn
    rw [List.foldl_cons, List.foldl_cons, same]
    exact ih renamableNext

end Served

namespace Dashboard

variable {config : Config} {now : Instant} {widgets : List (String × Widget)}
  {plain : Dashboard} {rename : String → String} {fixtures : Fixtures} {turns : List Turn}

/-- A dashboard with renamed widgets begins like the one without new names. -/
theorem matches_of_equipped (apart : TellsApart rename (widgets.map Prod.fst))
    (created : equipped config now widgets = .ok plain) :
    ∃ renamed, equipped config now (renameAll rename widgets) = .ok renamed ∧
      Served.Matches ⟨plain, []⟩ ⟨renamed, []⟩ ∧
      (KeepsOrder rename (widgets.map Prod.fst) →
        plain.Renamable rename ∧ renamed = plain.rename rename) := by
  rw [equipped] at created
  cases opened : create config now with
  | error rejection =>
    rw [opened] at created
    cases created
  | ok empty =>
    rw [opened] at created
    have slots := create_slots opened
    -- Without widgets there are no names yet, so the new dashboard is the same for both.
    have poised := poised_of_slots_eq_nil slots
    have alike : Alike empty empty := ⟨rfl, rfl, fun _ _ => Iff.rfl⟩
    obtain ⟨renamed, registered, poisedPlain, poisedRenamed, alike⟩ :=
      alike.registerAll poised poised apart (by simp [slots, Slots.names]) created
    refine ⟨renamed, by rw [equipped, opened]; exact registered,
      ⟨poisedPlain, poisedRenamed, alike⟩, fun ordered => ?_⟩
    have unnamed : empty.rename rename = empty := by
      simp only [Dashboard.rename, slots, Slots.rename, List.map_nil]
      rw [← slots]
    obtain ⟨same, known⟩ := registerAll_rename ordered (fun _ member => member)
      (by simp [slots, Slots.names]) created
    rw [unnamed, registered] at same
    cases same
    refine ⟨⟨poisedPlain.coherent, fun id member other memberOther => ?_⟩, rfl⟩
    exact apart id (known id member) other (known other memberOther)

/--
Two dashboards whose widgets differ in their names alone end with equal filters, whatever is done to
both: no refresh of either is exhausted, and either the names are in the same order or each refresh
heeds the lists that it asks for.
-/
theorem filters_rename (apart : TellsApart rename (widgets.map Prod.fst))
    (created : equipped config now widgets = .ok plain) :
    ∃ renamed, equipped config now (renameAll rename widgets) = .ok renamed ∧
      (AllAdmitted (Served.step fixtures) (Served.Finishes fixtures) ⟨plain, []⟩ turns →
        AllAdmitted (Served.step fixtures) (Served.Finishes fixtures) ⟨renamed, []⟩ turns →
        KeepsOrder rename (widgets.map Prod.fst) ∨
          AllAdmitted (Served.step fixtures) (Served.Heeds fixtures) ⟨plain, []⟩ turns ∧
            AllAdmitted (Served.step fixtures) (Served.Heeds fixtures) ⟨renamed, []⟩ turns →
        (turns.foldl (Served.step fixtures) ⟨plain, []⟩).dashboard.snapshot.filters =
          (turns.foldl (Served.step fixtures) ⟨renamed, []⟩).dashboard.snapshot.filters) := by
  -- The renamed dashboard is created likewise, and is alike to the plain one.
  obtain ⟨renamed, createdRenamed, same, inOrder⟩ := matches_of_equipped apart created
  refine ⟨renamed, createdRenamed, fun finishes finishesRenamed cause => ?_⟩
  rcases cause with ordered | ⟨heeds, heedsRenamed⟩
  · -- Answers are taken in the same order, so one run is the other under new names.
    obtain ⟨renamable, rfl⟩ := inOrder ordered
    have begun : (⟨plain, []⟩ : Served).dashboard.Renamable rename := renamable
    have run : turns.foldl (Served.step fixtures) ⟨plain.rename rename, []⟩ =
        (turns.foldl (Served.step fixtures) ⟨plain, []⟩).rename rename := Served.run_rename begun
    rw [run]
    rfl
  · -- The orders differ, but what each refresh comes to is told by what the dashboards show.
    exact (same.run finishes finishesRenamed heeds heedsRenamed).alike.filters

/-- A selector of regions before one of services. -/
def selectors : List (String × Widget) :=
  [("first", .options .region), ("second", .options .service)]

/-- Either selector gets the name of the other one. -/
def swap (id : String) : String :=
  if id = "first" then "second" else "first"

/-- One region and one service are prepared. -/
def prepared : Fixtures :=
  { Fixtures.none with
    options := [("default", (Candidates.none.set .region ["eu"]).set .service ["a"])] }

/-- After a refresh, a service that is not prepared is chosen, and then an endpoint. -/
def choices : List Turn :=
  [.refresh, .dispatch (.setFilter .service (some "b")),
    .dispatch (.setFilter .endpoint (some "/pay"))]

/-- These choices, and a refresh after them. -/
def astray : List Turn :=
  choices ++ [.refresh]

/-- After a refresh, both a service and a region are chosen that are not prepared. -/
def astrayTwice : List Turn :=
  [.refresh, .dispatch (.setFilter .service (some "b")),
    .dispatch (.setFilter .region (some "us")), .refresh]

/-- What is reached from a dashboard against the prepared answers. -/
def servedAfter (plain : Dashboard) (turns : List Turn) : Served :=
  turns.foldl (Served.step prepared) ⟨plain, []⟩

/-- How many answers a refresh discards there. -/
def discardedAfter (plain : Dashboard) (turns : List Turn) : Nat :=
  let reached := plain.servedAfter turns
  (reached.dashboard.refresh prepared.backend reached.calls).1.discarded

/--
The service that is not prepared is cleared under either naming.

The endpoint has both lists asked for again. If that of the services comes first, it moves the key
of the other selector, whose answer is discarded and asked for once more in a second round.
-/
theorem filters_rename_astray : TellsApart swap (selectors.map Prod.fst) ∧ ∃ plain renamed,
    equipped .standard Session.noon selectors = .ok plain ∧
      equipped .standard Session.noon (renameAll swap selectors) = .ok renamed ∧
      AllAdmitted (Served.step prepared) (Served.Finishes prepared) ⟨plain, []⟩ astray ∧
      AllAdmitted (Served.step prepared) (Served.Finishes prepared) ⟨renamed, []⟩ astray ∧
      AllAdmitted (Served.step prepared) (Served.Heeds prepared) ⟨plain, []⟩ astray ∧
      AllAdmitted (Served.step prepared) (Served.Heeds prepared) ⟨renamed, []⟩ astray ∧
      (plain.discardedAfter choices = 0 ∧ renamed.discardedAfter choices = 1) ∧
      (plain.servedAfter choices).dashboard.snapshot.filters.get .service = some "b" ∧
      (plain.servedAfter astray).dashboard.snapshot.filters.get .service = none ∧
      (plain.servedAfter astray).dashboard.snapshot.filters =
        (renamed.servedAfter astray).dashboard.snapshot.filters := by
  have apart : TellsApart swap (selectors.map Prod.fst) := by decide
  -- Either run is evaluated by itself.
  obtain ⟨plain, created, finishes, heeds, none, chosen, cleared⟩ : ∃ plain,
      equipped .standard Session.noon selectors = .ok plain ∧
        AllAdmitted (Served.step prepared) (Served.Finishes prepared) ⟨plain, []⟩ astray ∧
        AllAdmitted (Served.step prepared) (Served.Heeds prepared) ⟨plain, []⟩ astray ∧
        plain.discardedAfter choices = 0 ∧
        (plain.servedAfter choices).dashboard.snapshot.filters.get .service = some "b" ∧
        (plain.servedAfter astray).dashboard.snapshot.filters.get .service = none :=
    ⟨_, rfl, by decide +kernel, by decide +kernel, by decide +kernel, by decide +kernel,
      by decide +kernel⟩
  obtain ⟨other, createdOther, finishesOther, heedsOther, one⟩ : ∃ other,
      equipped .standard Session.noon (renameAll swap selectors) = .ok other ∧
        AllAdmitted (Served.step prepared) (Served.Finishes prepared) ⟨other, []⟩ astray ∧
        AllAdmitted (Served.step prepared) (Served.Heeds prepared) ⟨other, []⟩ astray ∧
        other.discardedAfter choices = 1 :=
    ⟨_, rfl, by decide +kernel, by decide +kernel, by decide +kernel⟩
  -- That both end with equal filters is not evaluated, but follows.
  obtain ⟨renamed, createdRenamed, same⟩ := filters_rename apart created
  cases createdOther.symm.trans createdRenamed
  exact ⟨apart, plain, other, created, createdOther, finishes, finishesOther, heeds, heedsOther,
    ⟨none, one⟩, chosen, cleared, same finishes finishesOther (.inr ⟨heeds, heedsOther⟩)⟩

/-- When both are chosen, the one whose selector comes second stays, so the names decide. -/
theorem filters_rename_astrayTwice : TellsApart swap (selectors.map Prod.fst) ∧ ∃ plain renamed,
    equipped .standard Session.noon selectors = .ok plain ∧
      equipped .standard Session.noon (renameAll swap selectors) = .ok renamed ∧
      AllAdmitted (Served.step prepared) (Served.Finishes prepared) ⟨plain, []⟩ astrayTwice ∧
      AllAdmitted (Served.step prepared) (Served.Finishes prepared) ⟨renamed, []⟩ astrayTwice ∧
      (astrayTwice.foldl (Served.step prepared) ⟨plain, []⟩).dashboard.snapshot.filters ≠
        (astrayTwice.foldl (Served.step prepared) ⟨renamed, []⟩).dashboard.snapshot.filters :=
  -- Each list clears the filter of its own dimension and moves the key of the other selector back
  -- to the one that it was answered for, so its list is never heeded.
  ⟨by decide, _, _, rfl, rfl, by decide +kernel, by decide +kernel, by decide +kernel⟩

end Dashboard

end Viewpoint
