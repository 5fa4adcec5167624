import Viewpoint.Proofs.Filters
import Viewpoint.Proofs.Reconcile

/-! Changes of filters, made at once or later, and how many of them count. -/

namespace Viewpoint

namespace Reconciliation

variable {changes : Reconciliation} {change : Change}

/-- Where each dimension is changed once, a change counts if it alters the filters by itself. -/
theorem countApplied_eq (filters : Filters) (distinct : (changes.map Change.dimension).Nodup) :
    changes.countApplied filters = changes.countP fun change =>
      (change.apply filters).get change.dimension ≠ filters.get change.dimension := by
  -- The induction makes the first change, so that the others meet altered filters.
  induction changes generalizing filters with
  | nil => rfl
  | cons first rest ih =>
    obtain ⟨others, distinct⟩ := distinct_cons.1 distinct
    have unseen : rest.countP (fun change => (change.apply (first.apply filters)).get
          change.dimension ≠ (first.apply filters).get change.dimension) =
        rest.countP fun change =>
          (change.apply filters).get change.dimension ≠ filters.get change.dimension := by
      -- None of them looks at the dimension of the first change.
      refine List.countP_congr fun other later => ?_
      have same := first.get_apply_of_ne filters (others other later)
      simp only [Change.get_apply_self, same]
    rw [countApplied, ih _ distinct, unseen, List.countP_cons, Nat.add_comm]
    simp only [decide_eq_true_eq, ite_not]

/-- As many changes count as there are dimensions with another value afterwards. -/
theorem countApplied_eq_moved (filters : Filters)
    (distinct : (changes.map Change.dimension).Nodup) :
    changes.countApplied filters =
      Dimension.all.countP fun d => (changes.apply filters).get d ≠ filters.get d := by
  -- The dimensions of the changes that count are those with another value.
  have moved : ((changes.filter fun change =>
        (change.apply filters).get change.dimension ≠ filters.get change.dimension).map
          Change.dimension).Perm
      (Dimension.all.filter fun d => (changes.apply filters).get d ≠ filters.get d) := by
    refine (List.perm_ext_iff_of_nodup (distinct.sublist (List.filter_sublist.map _))
      (Dimension.nodup_all.filter _)).2 fun d => ?_
    simp only [List.mem_map, List.mem_filter, decide_eq_true_eq, d.mem_all, true_and]
    constructor
    · rintro ⟨change, ⟨member, alters⟩, rfl⟩
      rwa [get_apply_of_mem filters distinct member]
    · intro other
      -- A dimension that none of the changes is of would have kept its value.
      by_contra uncounted
      refine other (get_apply_of_not_mem filters fun change member own => uncounted ?_)
      subst own
      rw [get_apply_of_mem filters distinct member] at other
      exact ⟨change, ⟨member, other⟩, rfl⟩
  rw [countApplied_eq filters distinct, List.countP_eq_length_filter, List.countP_eq_length_filter,
    ← moved.length_eq, List.length_map]

/-- Changes that were made already change nothing when they are made again. -/
theorem apply_apply (filters : Filters) (distinct : (changes.map Change.dimension).Nodup) :
    changes.apply (changes.apply filters) = changes.apply filters := by
  ext1 d
  by_cases changed : ∃ change ∈ changes, change.dimension = d
  · obtain ⟨change, member, rfl⟩ := changed
    have once := get_apply_of_mem filters distinct member
    rw [get_apply_of_mem _ distinct member, Change.get_apply_self]
    rw [Change.get_apply_self] at once
    -- A change that applies again has put its own old value there, or nothing at all.
    by_cases applies : filters.get change.dimension = change.old
    · rw [once, if_pos applies, ite_self]
    · rw [once, if_neg applies, if_neg applies]
  · exact get_apply_of_not_mem _ fun change member own => changed ⟨change, member, own⟩

end Reconciliation

namespace Reconciler

variable {reconciler : Reconciler} {filters : Filters} {candidates : Candidates}
  {d : Dimension} {change : Change}

/-- A change starts from the filter of its dimension, and is the default or the clearing due. -/
theorem of_mem_changes (member : change ∈ (reconciler.reconcile filters candidates).1) :
    change.old = filters.get change.dimension ∧
      ((∃ first, change.new = some first ∧
          reconciler.DueDefault filters candidates change.dimension first) ∨
        change.new = none ∧ reconciler.DueClearing filters candidates change.dimension) := by
  -- A change is asked for in one of two ways, and both start from the filter there is.
  obtain ⟨first, due, same⟩ | ⟨due, same⟩ := changeOf_eq_some_iff.1 (mem_changes_iff.1 member)
  · rw [same]
    exact ⟨rfl, .inl ⟨first, rfl, due⟩⟩
  · rw [same]
    exact ⟨rfl, .inr ⟨rfl, due⟩⟩

/-- The defaults that are asked for are those that are due. -/
theorem exists_default_iff {first : String} :
    (∃ change ∈ (reconciler.reconcile filters candidates).1,
        change.dimension = d ∧ change.new = some first) ↔
      reconciler.DueDefault filters candidates d first := by
  -- A change to a value is a default, since a clearing leaves none.
  constructor
  · rintro ⟨change, member, rfl, new⟩
    obtain ⟨-, ⟨value, same, due⟩ | ⟨cleared, -⟩⟩ := of_mem_changes member
    · rwa [Option.some.inj (new.symm.trans same)]
    · rw [new] at cleared
      cases cleared
  · intro due
    refine ⟨⟨d, filters.get d, some first, .defaulted⟩, mem_changes_iff.2 ?_, rfl, rfl⟩
    exact changeOf_eq_some_iff.2 (.inl ⟨first, due, rfl⟩)

/-- A change never leads to the value that it starts from. -/
theorem new_ne_old (member : change ∈ (reconciler.reconcile filters candidates).1) :
    change.new ≠ change.old := by
  obtain ⟨old, ⟨first, new, -, rest, -, source⟩ | ⟨new, -, stale, -, value, -⟩⟩ :=
    of_mem_changes member
  · -- A default takes the place of no value, or of one that is not among the candidates.
    rw [new, old]
    obtain ⟨unset, -⟩ | ⟨stale, value, unlisted⟩ := source
    · simp [unset]
    · rw [value]
      rintro ⟨⟩
      exact unlisted List.mem_cons_self
  · simp [new, old, value]

/-- Made at once, a change gives its dimension the new value, where the empty text is none. -/
theorem get_apply_changes (member : change ∈ (reconciler.reconcile filters candidates).1) :
    ((reconciler.reconcile filters candidates).1.apply filters).get change.dimension =
      Filters.proper change.new := by
  -- Changes are of different dimensions, so none of the others gets in its way.
  rw [Reconciliation.get_apply_of_mem filters nodup_changes member, Change.get_apply_self,
    if_pos (of_mem_changes member).1.symm]

/-- Made at once, the changes count that lead to another value, where the empty text is none. -/
theorem countApplied_changes :
    (reconciler.reconcile filters candidates).1.countApplied filters =
      (reconciler.reconcile filters candidates).1.countP fun change =>
        Filters.proper change.new ≠ change.old := by
  rw [Reconciliation.countApplied_eq filters nodup_changes]
  refine List.countP_congr fun change member => ?_
  -- Each of them starts from the filter that it meets.
  have old := (of_mem_changes member).1
  rw [Change.get_apply_self, if_pos old.symm, old]

/-- A default that is due is taken, but for the empty text. -/
theorem DueDefault.get_apply {first : String}
    (due : reconciler.DueDefault filters candidates d first) :
    ((reconciler.reconcile filters candidates).1.apply filters).get d =
      Filters.proper (some first) :=
  -- The value that is due is the first candidate, which is then set as a filter.
  get_apply_reconcile.trans due.valueAfter_eq

/-- Where the empty text is no default, the new values of changes are taken as they are. -/
theorem proper_new (inked : ∀ d, ¬ reconciler.DueDefault filters candidates d "")
    (member : change ∈ (reconciler.reconcile filters candidates).1) :
    Filters.proper change.new = change.new :=
  -- The new value is a default or none, so it is empty only if the empty text is a default.
  Filters.proper_of_filled fun blank =>
    inked _ (exists_default_iff.1 ⟨change, member, rfl, blank⟩)

/--
The changes that are asked for are all real unless the empty text is due as a default.

They are real if each of them counts when they are made at once and leaves its new value, so that
each default that is due is taken. The empty text means no value to a filter: a change to it clears
the filter, and does not count where there was none.
-/
theorem changes_real_iff (reconciler : Reconciler) (filters : Filters) (candidates : Candidates) :
    ∃ changes after, reconciler.reconcile filters candidates = (changes, after) ∧
      ((changes.countApplied filters = changes.length ∧
          (∀ change ∈ changes, (changes.apply filters).get change.dimension = change.new) ∧
          ∀ d first, reconciler.DueDefault filters candidates d first →
            (changes.apply filters).get d = some first) ↔
        ∀ d, ¬ reconciler.DueDefault filters candidates d "") ∧
      (∀ change ∈ changes,
        (changes.apply filters).get change.dimension = Filters.proper change.new) ∧
      changes.countApplied filters =
        changes.countP fun change => Filters.proper change.new ≠ change.old := by
  -- A change misses its aim only if it gives the empty text, as which no filter is ever set.
  refine ⟨(reconciler.reconcile filters candidates).1,
    (reconciler.reconcile filters candidates).2, rfl, ⟨?_, fun inked => ⟨?_, ?_, ?_⟩⟩,
    fun change member => get_apply_changes member, countApplied_changes⟩
  · -- The empty text never is the value of a filter, although it would have to be.
    rintro ⟨-, -, taken⟩ d due
    have blank := taken d "" due
    rw [due.get_apply] at blank
    cases blank
  · -- All changes count, since each leads away from the value that it starts from.
    rw [countApplied_changes, List.countP_eq_length]
    intro change member
    rw [proper_new inked member]
    exact decide_eq_true (new_ne_old member)
  · intro change member
    rw [get_apply_changes member, proper_new inked member]
  · intro d first due
    rw [due.get_apply]
    refine Filters.proper_of_filled fun blank => inked d ?_
    rwa [Option.some.inj blank] at due

/-- Candidates for the metric are all that is loaded. -/
def metricList (names : List String) : Candidates :=
  Candidates.none.set .metricName names

/-- The first metric of a list is reported as the default, counts and is taken. -/
theorem changes_real_iff_latency :
    ∃ changes after, standard.reconcile .none (metricList ["latency"]) = (changes, after) ∧
      standard.DueDefault .none (metricList ["latency"]) .metricName "latency" ∧
      changes.length = 1 ∧ changes.countApplied .none = changes.length ∧
      (changes.apply .none).get .metricName = some "latency" := by
  have due : standard.DueDefault .none (metricList ["latency"]) .metricName "latency" :=
    ⟨by decide, [], by decide, .inl ⟨by decide, by decide⟩⟩
  have one : (standard.reconcile .none (metricList ["latency"])).1.length = 1 := by decide
  -- No other list is loaded, and this one does not begin with the empty text.
  have inked : ∀ d, ¬ standard.DueDefault .none (metricList ["latency"]) d "" := by
    rintro d ⟨-, rest, list, -⟩
    have head : ((metricList ["latency"]).get d).map List.head? ≠ some (some "") := by
      cases d <;> decide
    exact head (congrArg (Option.map List.head?) list)
  obtain ⟨changes, after, same, real, -⟩ :=
    changes_real_iff standard .none (metricList ["latency"])
  obtain ⟨count, -, taken⟩ := real.2 inked
  rw [same] at one
  exact ⟨changes, after, same, due, one, count, taken .metricName "latency" due⟩

/-- The metric is reported to get the empty text as its default, but it gets no value at all. -/
theorem changes_real_iff_blank :
    ∃ changes after, standard.reconcile .none (metricList [""]) = (changes, after) ∧
      changes = [⟨.metricName, none, some "", .defaulted⟩] ∧
      changes.countApplied .none = 0 ∧ (changes.apply .none).get .metricName = none ∧
      after.isArmed .metricName = false ∧
      ¬ (changes.countApplied .none = changes.length ∧
        ∀ change ∈ changes, (changes.apply .none).get change.dimension = change.new) :=
  -- The reconciler takes the empty text for a candidate, but the filters take it for none.
  ⟨_, _, rfl, by decide, by decide, by decide, by decide, by decide⟩

/--
Changes that are made later spare whatever was chosen in between.

Each filter that still has the value its change starts from gets the new one, where the empty text
is none, and all others stay. As many changes count as filters have another value afterwards, and
to make the changes once more alters nothing.
-/
theorem late_changes_spare_choices (reconciler : Reconciler) (filters later : Filters)
    (candidates : Candidates) :
    ∃ changes after, reconciler.reconcile filters candidates = (changes, after) ∧
      (∀ change ∈ changes, later.get change.dimension = change.old →
        (changes.apply later).get change.dimension = Filters.proper change.new) ∧
      (∀ d, (∀ change ∈ changes, change.dimension = d → later.get d ≠ change.old) →
        (changes.apply later).get d = later.get d) ∧
      changes.countApplied later =
        Dimension.all.countP (fun d => (changes.apply later).get d ≠ later.get d) ∧
      changes.apply (changes.apply later) = changes.apply later ∧
      changes.countApplied (changes.apply later) = 0 := by
  -- A dimension occurs in one change at most, so each change can be looked at by itself.
  have distinct : ((reconciler.reconcile filters candidates).1.map Change.dimension).Nodup :=
    nodup_changes
  have again := Reconciliation.apply_apply later distinct
  refine ⟨(reconciler.reconcile filters candidates).1,
    (reconciler.reconcile filters candidates).2, rfl, fun change member applies => ?_,
    fun d overtaken => ?_, Reconciliation.countApplied_eq_moved later distinct, again, ?_⟩
  · rw [Reconciliation.get_apply_of_mem later distinct member, Change.get_apply_self,
      if_pos applies]
  · by_cases changed : ∃ change ∈ (reconciler.reconcile filters candidates).1, change.dimension = d
    · -- The only change of the dimension finds another value than the one it starts from.
      obtain ⟨change, member, rfl⟩ := changed
      rw [Reconciliation.get_apply_of_mem later distinct member, Change.get_apply_self,
        if_neg (overtaken change member rfl)]
    · exact Reconciliation.get_apply_of_not_mem later fun change member own =>
        changed ⟨change, member, own⟩
  · rw [Reconciliation.countApplied_eq_moved _ distinct, again]
    simp

/-- The metric that was chosen while the candidates were loading is not replaced by the default. -/
theorem late_changes_spare_choices_overtaken :
    ∃ changes after, standard.reconcile .none (metricList ["latency"]) = (changes, after) ∧
      changes.length = 1 ∧
      (changes.apply (Filters.none.set .metricName (some "cpu"))).get .metricName = some "cpu" ∧
      changes.countApplied (Filters.none.set .metricName (some "cpu")) = 0 := by
  obtain ⟨changes, after, same, -, spared, count, -⟩ := late_changes_spare_choices standard .none
    (Filters.none.set .metricName (some "cpu")) (metricList ["latency"])
  have asked : (standard.reconcile .none (metricList ["latency"])).1 =
      [⟨.metricName, none, some "latency", .defaulted⟩] := by
    decide
  rw [same] at asked
  subst asked
  refine ⟨_, after, same, rfl, ?_, ?_⟩
  · refine (spared .metricName ?_).trans rfl
    -- The default was asked for when there was no metric.
    rintro change member - old
    rw [List.mem_singleton.1 member] at old
    cases old
  · rw [count]
    decide

end Reconciler

end Viewpoint
