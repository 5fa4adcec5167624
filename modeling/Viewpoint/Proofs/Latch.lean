import Mathlib.Data.List.DropRight
import Viewpoint.Proofs.Changes

/-! The latches of a reconciler tell which lists it was given, and nothing else. -/

namespace Viewpoint.Reconciler

/-- What can be done to a reconciler. -/
inductive Use where
  | reconcile (filters : Filters) (candidates : Candidates)
  | rearmAll
  deriving DecidableEq, Repr

namespace Use

/-- All dimensions are rearmed, or the list of this one is loaded and empty. -/
def rearms (d : Dimension) : Use → Bool
  | reconcile _ candidates => candidates.get d == some []
  | rearmAll => true

/-- The list of a dimension is loaded and has candidates. -/
def supplies (d : Dimension) : Use → Bool
  | reconcile _ candidates => (candidates.get d).any fun list => !list.isEmpty
  | rearmAll => false

end Use

/-- The reconciler after a use. -/
def use (reconciler : Reconciler) : Use → Reconciler
  | .reconcile filters candidates => (reconciler.reconcile filters candidates).2
  | .rearmAll => reconciler.rearmAll

/-- The reconciler with the given mandatory dimensions, after uses in their order. -/
def afterUses (dimensions : List Dimension) (uses : List Use) : Reconciler :=
  uses.foldl use (ofMandatory dimensions)

/-- The uses behind the last one that rearms a dimension, or all of them if none does. -/
def sinceRearmed (d : Dimension) (uses : List Use) : List Use :=
  uses.rtakeWhile fun use => !use.rearms d

/-- A use asks for a value of a dimension that has none. -/
def Proposes (reconciler : Reconciler) (d : Dimension) : Use → Prop
  | .reconcile filters candidates => filters.get d = none ∧
      ∃ change ∈ (reconciler.reconcile filters candidates).1,
        change.dimension = d ∧ ∃ value, change.new = some value
  | .rearmAll => False

variable {reconciler : Reconciler} {dimensions : List Dimension} {uses later : List Use}
  {latest : Use} {d : Dimension}

/-- No use changes which dimensions are mandatory. -/
theorem isMandatory_use : (reconciler.use latest).isMandatory d = reconciler.isMandatory d := by
  -- Only latches change, and which dimensions have one stays.
  cases latest <;> rfl

/-- A use that rearms a dimension arms it if it is mandatory. -/
theorem isArmed_use_of_rearms (sound : reconciler.isArmed d → reconciler.isMandatory d)
    (rearms : latest.rearms d = true) :
    (reconciler.use latest).isArmed d = reconciler.isMandatory d := by
  cases latest with
  | rearmAll => rfl
  | reconcile filters candidates =>
    -- An empty list leaves what is armed as it is, which is mandatory anyway.
    have empty : candidates.get d = some [] := by simpa [Use.rearms] using rearms
    refine (isArmed_reconcile filters).trans ?_
    rw [empty, latchAfter]
    cases armed : reconciler.isArmed d
    · simp
    · simp [sound armed]

/-- Candidates disarm their dimension. -/
theorem isArmed_use_of_supplies (supplies : latest.supplies d = true) :
    (reconciler.use latest).isArmed d = false := by
  -- A list that is not empty leaves the latch disarmed, whatever the filter was.
  cases latest with
  | rearmAll => cases supplies
  | reconcile filters candidates =>
    refine (isArmed_reconcile filters).trans ?_
    match list : candidates.get d with
    | none | some [] => simp [Use.supplies, list] at supplies
    | some (_ :: _) => rfl

/-- A use that neither rearms a dimension nor has candidates for it leaves its latch. -/
theorem isArmed_use_of_idle (kept : latest.rearms d = false) (idle : latest.supplies d = false) :
    (reconciler.use latest).isArmed d = reconciler.isArmed d := by
  cases latest with
  | rearmAll => cases kept
  | reconcile filters candidates =>
    refine (isArmed_reconcile filters).trans ?_
    -- The list is neither empty nor has it candidates, so there is none.
    match list : candidates.get d with
    | none => rfl
    | some [] => simp [Use.rearms, list] at kept
    | some (_ :: _) => simp [Use.supplies, list] at idle

/-- One more use is made of the reconciler that the others have left. -/
theorem afterUses_concat :
    afterUses dimensions (uses ++ [latest]) = (afterUses dimensions uses).use latest := by
  -- Uses are made from the first to the last.
  simp [afterUses]

/-- The mandatory dimensions are those given, whatever the uses. -/
theorem isMandatory_afterUses :
    (afterUses dimensions uses).isMandatory d = true ↔ d ∈ dimensions := by
  -- The induction is on the uses, with the last one taken off.
  induction uses using List.reverseRecOn with
  | nil => simp [afterUses, isMandatory, ofMandatory]
  | append_singleton uses latest ih => rw [afterUses_concat, isMandatory_use, ih]

/--
A dimension is armed when it is mandatory and had no candidates since it was rearmed.

The induction is on the uses, the latest at the end.
-/
theorem isArmed_afterUses : (afterUses dimensions uses).isArmed d = true ↔
    d ∈ dimensions ∧ ∀ use ∈ sinceRearmed d uses, use.supplies d = false := by
  -- The induction is on the uses from the first to the latest, which rearms, supplies or does
  -- neither.
  induction uses using List.reverseRecOn with
  | nil => simp [afterUses, isArmed, ofMandatory, sinceRearmed]
  | append_singleton uses latest ih =>
    rw [afterUses_concat, sinceRearmed, List.rtakeWhile_concat]
    cases rearms : latest.rearms d with
    | true =>
      -- Nothing has happened since, and what was armed before is mandatory.
      have sound : (afterUses dimensions uses).isArmed d →
          (afterUses dimensions uses).isMandatory d :=
        fun armed => isMandatory_afterUses.2 (ih.1 armed).1
      rw [isArmed_use_of_rearms sound rearms, isMandatory_afterUses]
      simp
    | false =>
      cases supplies : latest.supplies d with
      | true => simp [isArmed_use_of_supplies supplies, supplies]
      | false =>
        rw [isArmed_use_of_idle rearms supplies, ih]
        simp [sinceRearmed, supplies, or_imp, forall_and]

/-- Uses that do not rearm a dimension all belong to those since it was rearmed. -/
theorem sinceRearmed_append (kept : ∀ use ∈ later, use.rearms d = false) :
    sinceRearmed d (uses ++ later) = sinceRearmed d uses ++ later := by
  -- Counted from the end, all the later uses are passed before the others are reached.
  have taken : ∀ use ∈ later.reverse, (!use.rearms d) = true := by
    intro use member
    simp [kept use (List.mem_reverse.1 member)]
  rw [sinceRearmed, List.rtakeWhile, List.reverse_append, List.takeWhile_append_of_pos taken,
    List.reverse_append, List.reverse_reverse]
  rfl

/-- A value is asked for where there is none, if the dimension is armed and has candidates. -/
theorem proposes_iff {filters : Filters} {candidates : Candidates} :
    (afterUses dimensions uses).Proposes d (.reconcile filters candidates) ↔
      filters.get d = none ∧ (afterUses dimensions uses).isArmed d = true ∧
        ∃ first rest, candidates.get d = some (first :: rest) := by
  constructor
  · rintro ⟨unset, change, member, own, value, new⟩
    obtain ⟨-, rest, list, ⟨-, armed⟩ | ⟨stale, held, -⟩⟩ :=
      exists_default_iff.1 ⟨change, member, own, new⟩
    · exact ⟨unset, armed, value, rest, list⟩
    · -- The dimension has no value that could be stale.
      rw [unset] at held
      cases held
  · rintro ⟨unset, armed, first, rest, list⟩
    have mandatory : (afterUses dimensions uses).isMandatory d = true :=
      isMandatory_afterUses.2 (isArmed_afterUses.1 armed).1
    obtain ⟨change, member, own, new⟩ :=
      exists_default_iff.2 ⟨mandatory, rest, list, .inl ⟨unset, armed⟩⟩
    exact ⟨unset, change, member, own, first, new⟩

/-- Where a value is asked for, the dimension has candidates. -/
theorem supplies_of_proposes (proposes : (afterUses dimensions uses).Proposes d latest) :
    latest.supplies d = true := by
  -- Only a reconciliation asks for values, and it takes them from a list.
  cases latest with
  | rearmAll => cases proposes
  | reconcile filters candidates =>
    obtain ⟨-, -, first, rest, list⟩ := proposes_iff.1 proposes
    simp [Use.supplies, list]

/-- Where a value is asked for, the dimension is armed. -/
theorem isArmed_of_proposes (proposes : (afterUses dimensions uses).Proposes d latest) :
    (afterUses dimensions uses).isArmed d = true := by
  -- Only a reconciliation asks for values, and it does so through an armed latch.
  cases latest with
  | rearmAll => cases proposes
  | reconcile filters candidates => exact (proposes_iff.1 proposes).2.1

/-- What has candidates for a dimension does not rearm it. -/
theorem Use.rearms_of_supplies (supplies : latest.supplies d = true) :
    latest.rearms d = false := by
  -- Rearming by an empty list and having candidates exclude each other.
  cases latest with
  | rearmAll => cases supplies
  | reconcile filters candidates =>
    simp only [Use.rearms, beq_eq_false_iff_ne]
    intro empty
    simp [Use.supplies, empty] at supplies

/--
The latch of a dimension follows from the lists that were used for it.

The dimension is armed if it is mandatory and had no candidates since it was rearmed, together with
all others or by an empty list. Where it has no value, one is asked for if it is armed at that
moment and has candidates. Hence it is rearmed between any two such defaults.
-/
theorem latch_follows_lists (dimensions : List Dimension) (uses : List Use) (d : Dimension) :
    ((afterUses dimensions uses).isArmed d = true ↔
      d ∈ dimensions ∧ ∀ use ∈ sinceRearmed d uses, use.supplies d = false) ∧
    (∀ filters candidates,
      (afterUses dimensions uses).Proposes d (.reconcile filters candidates) ↔
        filters.get d = none ∧ (afterUses dimensions uses).isArmed d = true ∧
          ∃ first rest, candidates.get d = some (first :: rest)) ∧
    ∀ first between second, (afterUses dimensions uses).Proposes d first →
      (afterUses dimensions (uses ++ first :: between)).Proposes d second →
        ∃ use ∈ between, use.rearms d = true := by
  -- The latch and the proposals are described by lemmas; what is left is that two defaults have a
  -- rearming between them.
  refine ⟨isArmed_afterUses, fun filters candidates => proposes_iff, ?_⟩
  intro first between second earlier again
  by_contra kept
  have supplies := supplies_of_proposes earlier
  -- Without a rearming in between, the candidates of the first default still count at the second.
  have idle : ∀ use ∈ first :: between, use.rearms d = false := by
    refine List.forall_mem_cons.2 ⟨Use.rearms_of_supplies supplies, fun use member => ?_⟩
    exact Bool.eq_false_iff.2 fun rearms => kept ⟨use, member, rearms⟩
  have unsupplied := (isArmed_afterUses.1 (isArmed_of_proposes again)).2
  rw [sinceRearmed_append idle] at unsupplied
  have none := unsupplied first (List.mem_append_right _ List.mem_cons_self)
  rw [supplies] at none
  cases none

/-- The metric that was given its default gets it again only behind an empty list. -/
theorem latch_follows_lists_reloaded :
    ∃ full empty : Use, (afterUses [.metricName] []).Proposes .metricName full ∧
      ¬ (afterUses [.metricName] [full]).Proposes .metricName full ∧
      (afterUses [.metricName] [full, empty]).Proposes .metricName full ∧
      ∃ use ∈ [empty], use.rearms .metricName = true := by
  have proposes : ∀ uses, (afterUses [.metricName] uses).isArmed .metricName = true →
      (afterUses [.metricName] uses).Proposes .metricName
        (.reconcile .none (metricList ["latency"])) := by
    intro uses armed
    exact ((latch_follows_lists [.metricName] uses .metricName).2.1 _ _).2
      ⟨by decide, armed, "latency", [], by decide⟩
  have first := proposes [] (by decide)
  refine ⟨_, .reconcile .none (metricList []), first, fun again => ?_,
    proposes _ (by decide), (latch_follows_lists [.metricName] [] .metricName).2.2 _ _ _ first
      (proposes _ (by decide))⟩
  -- Nothing at all has happened in between.
  obtain ⟨_, member, -⟩ := (latch_follows_lists [.metricName] [] .metricName).2.2 _ [] _ first again
  cases member

end Viewpoint.Reconciler
