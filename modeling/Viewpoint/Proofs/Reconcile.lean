import Mathlib.Data.List.Nodup
import Viewpoint.Reconcile

/-! What loaded lists make of each filter and each latch, one dimension at a time. -/

namespace Viewpoint

/-- Where each element gives at most one that carries its name, names stay in their order. -/
theorem sublist_map_filterMap {α β γ : Type} {f : α → Option β} {g : β → γ} {h : α → γ}
    {xs : List α} (own : ∀ x ∈ xs, ∀ y, f x = some y → g y = h x) :
    ((xs.filterMap f).map g).Sublist (xs.map h) := by
  -- The induction is on the list; an element that gives nothing is skipped, and any other gives its
  -- own name.
  induction xs with
  | nil => exact .slnil
  | cons x xs ih =>
    obtain ⟨first, others⟩ := List.forall_mem_cons.1 own
    cases mapped : f x with
    | none => simpa [mapped] using (ih others).cons (h x)
    | some y => simpa [mapped, first y mapped] using (ih others).cons_cons (h x)

namespace Dimension

/-- No dimension is listed twice. -/
theorem nodup_all : all.Nodup := by
  -- There are six dimensions.
  decide

end Dimension

namespace Candidates

/-- The lists of one dimension alone are those of that dimension. -/
theorem get_only (candidates : Candidates) (d other : Dimension) :
    (candidates.only d).get other = if other = d then candidates.get d else Option.none :=
  -- The lists are a table that is made by asking for the dimension.
  ByDimension.get_ofFn _ other

/-- No list is loaded for any dimension. -/
@[simp] theorem get_none (d : Dimension) : Candidates.none.get d = Option.none :=
  -- The table has no list anywhere.
  ByDimension.get_const _ d

/-- Lists with equal entries are equal. -/
@[ext] theorem ext_get {a b : Candidates} (same : ∀ d, a.get d = b.get d) : a = b := by
  -- Candidates have no parts but the table of their lists.
  cases a
  cases b
  simp only [mk.injEq]
  exact ByDimension.ext_get same

/-- A list that has been loaded newly takes the place of the one before. -/
theorem get_merge (candidates newer : Candidates) (d : Dimension) :
    (candidates.merge newer).get d = (newer.get d).or (candidates.get d) :=
  -- The table is made by choosing the newer list where there is one.
  ByDimension.get_ofFn _ d

/-- Taking over the lists that are known already changes none of them. -/
@[simp] theorem merge_merge (candidates newer : Candidates) :
    (candidates.merge newer).merge newer = candidates.merge newer := by
  -- Where a newer list was chosen it is chosen again.
  ext1 d
  simp only [get_merge]
  cases newer.get d <;> rfl

/-- The same lists again are nothing new. -/
@[simp] theorem merge_self (candidates : Candidates) :
    candidates.merge candidates = candidates := by
  -- Whichever of the two is chosen, the list is the same.
  ext1 d
  rw [get_merge]
  cases candidates.get d <;> rfl

/-- Without new lists all stay as they are. -/
@[simp] theorem merge_none (candidates : Candidates) : candidates.merge .none = candidates := by
  -- There is no newer list to choose.
  ext1 d
  rw [get_merge, get_none]
  rfl

end Candidates

namespace Change

/-- A change that still applies gives its dimension the new value. -/
theorem get_apply_self (change : Change) (filters : Filters) :
    (change.apply filters).get change.dimension =
      if filters.get change.dimension = change.old then Filters.proper change.new
      else filters.get change.dimension := by
  -- A change applies as long as the filter is what it was when the change was asked for.
  by_cases unmoved : filters.get change.dimension = change.old
  · simp [apply, applies, unmoved, Filters.get_set]
  · simp [apply, applies, unmoved]

/-- A change is not seen at any other dimension, whether it applies or not. -/
theorem get_apply_of_ne (change : Change) (filters : Filters) {d : Dimension}
    (apart : d ≠ change.dimension) : (change.apply filters).get d = filters.get d := by
  -- A change sets one filter at most.
  rw [apply]
  split
  · rw [Filters.get_set, if_neg apart]
  · rfl

end Change

namespace Reconciliation

variable {changes rest : Reconciliation} {first change : Change} {d : Dimension}

/-- Where each dimension is changed once, all later changes are of other dimensions. -/
theorem distinct_cons : ((first :: rest).map Change.dimension).Nodup ↔
    (∀ other ∈ rest, other.dimension ≠ first.dimension) ∧ (rest.map Change.dimension).Nodup := by
  -- That nothing is repeated is told of the first element and of the rest.
  simp only [List.map_cons, List.nodup_cons, List.mem_map, not_exists, not_and, ne_eq]

/-- Changes of other dimensions leave the filter of a dimension. -/
theorem get_apply_of_not_mem (filters : Filters)
    (apart : ∀ change ∈ changes, change.dimension ≠ d) :
    (changes.apply filters).get d = filters.get d := by
  -- The changes are made one after the other, and none of them writes the dimension.
  induction changes generalizing filters with
  | nil => rfl
  | cons change rest ih =>
    obtain ⟨other, others⟩ := List.forall_mem_cons.1 apart
    change (Reconciliation.apply rest (change.apply filters)).get d = _
    rw [ih _ others, change.get_apply_of_ne filters (Ne.symm other)]

/-- The only change of a dimension decides what becomes of its filter. -/
theorem get_apply_of_mem (filters : Filters) (distinct : (changes.map Change.dimension).Nodup)
    (member : change ∈ changes) : (changes.apply filters).get change.dimension =
      (change.apply filters).get change.dimension := by
  -- The changes before and after it are of other dimensions.
  induction changes generalizing filters with
  | nil => cases member
  | cons first rest ih =>
    obtain ⟨others, distinct⟩ := distinct_cons.1 distinct
    change (Reconciliation.apply rest (first.apply filters)).get change.dimension = _
    rcases List.mem_cons.1 member with rfl | later
    · exact get_apply_of_not_mem _ others
    · -- What the first change did is not seen at the dimension of a later one.
      have unseen := first.get_apply_of_ne filters (others change later)
      rw [ih _ distinct later, Change.get_apply_self, unseen, Change.get_apply_self]

end Reconciliation

namespace Reconciler

/--
The value that a filter has after the list of its dimension was used.

A value that is listed stays. Otherwise the first candidate takes the place of a value in a
mandatory dimension, and comes without one if that dimension is armed; all else is cleared.
-/
def valueAfter (mandatory armed : Bool) (list : Option (List String)) (value : Option String) :
    Option String :=
  match list with
  | none | some [] => value
  | some (first :: rest) =>
    if value.any (first :: rest).contains then value
    else if mandatory && (value.isSome || armed) then Filters.proper (some first)
    else none

section Value

variable {mandatory armed : Bool} {list : Option (List String)} {value : Option String}

/-- Without a list the value stays. -/
theorem valueAfter_missing : valueAfter mandatory armed none value = value :=
  rfl

/-- With candidates, the value is cleared or is one of them. -/
theorem valueAfter_candidates (mandatory armed : Bool) (first : String) (rest : List String)
    (value : Option String) :
    valueAfter mandatory armed (some (first :: rest)) value = none ∨
      ∃ current ∈ first :: rest,
        valueAfter mandatory armed (some (first :: rest)) value = some current := by
  -- Either the value was listed before, or it is the first candidate unless that is empty.
  simp only [valueAfter]
  split
  · rename_i listed
    obtain ⟨current, rfl, contained⟩ := (Option.any_eq_true _ _).1 listed
    exact .inr ⟨current, List.contains_iff_mem.1 contained, rfl⟩
  · split
    · simp only [Filters.proper]
      split
      · exact .inl rfl
      · exact .inr ⟨first, List.mem_cons_self, rfl⟩
    · exact .inl rfl

/-- A value that is one of the candidates stays. -/
theorem valueAfter_of_mem {candidates : List String} {current : String}
    (listed : current ∈ candidates) :
    valueAfter mandatory armed (some candidates) (some current) = some current := by
  -- The list is not empty then, and the value is not stale.
  cases candidates with
  | nil => rfl
  | cons first rest => simp [valueAfter, listed]

/-- A dimension that is not armed gets no value from its list. -/
theorem valueAfter_none_of_disarmed : valueAfter mandatory false list none = none := by
  -- A dimension without a value gets one through its latch only.
  match list with
  | none | some [] => rfl
  | some (_ :: _) => simp [valueAfter]

/-- Whether a dimension is armed after its list was used. -/
def latchAfter (mandatory armed : Bool) : Option (List String) → Bool
  | none => armed
  | some [] => mandatory || armed
  | some (_ :: _) => false

/-- Without a list the latch stays. -/
theorem latchAfter_missing : latchAfter mandatory armed none = armed :=
  rfl

/-- A latch that follows a list follows it once. -/
theorem latchAfter_latchAfter :
    latchAfter mandatory (latchAfter mandatory armed list) list =
      latchAfter mandatory armed list := by
  -- A list disarms the latch, an empty one arms it, and a missing one leaves it.
  match list with
  | none | some (_ :: _) => rfl
  | some [] => cases mandatory <;> rfl

/-- A value that came out of a list is not moved by the same list again. -/
theorem valueAfter_valueAfter :
    valueAfter mandatory (latchAfter mandatory armed list) list
        (valueAfter mandatory armed list value) =
      valueAfter mandatory armed list value := by
  match list with
  | none | some [] => rfl
  | some (first :: rest) =>
    -- The new value is listed, or there is none and the dimension is no longer armed.
    rcases valueAfter_candidates mandatory armed first rest value with
      cleared | ⟨current, listed, taken⟩
    · rw [cleared]
      exact valueAfter_none_of_disarmed
    · rw [taken]
      exact valueAfter_of_mem listed

end Value

variable {reconciler : Reconciler} {filters : Filters} {candidates : Candidates} {d : Dimension}
  {change : Change}

/-- Each dimension has a latch of its own. -/
theorem armedAfter_eq : reconciler.armedAfter candidates d =
    latchAfter (reconciler.isMandatory d) (reconciler.isArmed d) (candidates.get d) := by
  -- The two differ only in where the latch is looked up.
  unfold armedAfter latchAfter
  split <;> simp only [*]

/--
A dimension is due a default, the first of its candidates.

It is mandatory, and its value is not one of them, or it has none and is armed.
-/
def DueDefault (reconciler : Reconciler) (filters : Filters) (candidates : Candidates)
    (d : Dimension) (first : String) : Prop :=
  reconciler.isMandatory d = true ∧ ∃ rest, candidates.get d = some (first :: rest) ∧
    (filters.get d = none ∧ reconciler.isArmed d = true ∨
      ∃ stale, filters.get d = some stale ∧ stale ∉ first :: rest)

/-- A dimension is due to be cleared: it is not mandatory, and its value is not a candidate. -/
def DueClearing (reconciler : Reconciler) (filters : Filters) (candidates : Candidates)
    (d : Dimension) : Prop :=
  reconciler.isMandatory d = false ∧ ∃ stale list, filters.get d = some stale ∧
    candidates.get d = some list ∧ list ≠ [] ∧ stale ∉ list

/-- A change is asked for exactly where a default or a clearing is due, and it is that one. -/
theorem changeOf_eq_some_iff : reconciler.changeOf filters candidates d = some change ↔
    (∃ first, reconciler.DueDefault filters candidates d first ∧
        change = ⟨d, filters.get d, some first, .defaulted⟩) ∨
      reconciler.DueClearing filters candidates d ∧
        change = ⟨d, filters.get d, none, .stale⟩ := by
  -- Only candidates ask for a change: of a value that is not listed, or of none.
  simp only [changeOf, DueDefault, DueClearing]
  match candidates.get d with
  | none | some [] => simp
  | some (first :: rest) =>
    cases filters.get d with
    | none => grind [changeFor]
    | some current => grind [changeFor]

/-- The value that follows a default that is due is the default, unless that is empty. -/
theorem DueDefault.valueAfter_eq {first : String}
    (due : reconciler.DueDefault filters candidates d first) :
    valueAfter (reconciler.isMandatory d) (reconciler.isArmed d) (candidates.get d)
      (filters.get d) = Filters.proper (some first) := by
  -- Whether the dimension is armed without a value or has a stale one, the first candidate comes
  -- next.
  obtain ⟨mandatory, rest, list, ⟨unset, armed⟩ | ⟨stale, value, unlisted⟩⟩ := due
  · simp [valueAfter, mandatory, list, unset, armed]
  · simp [valueAfter, mandatory, list, value, List.mem_cons.not.1 unlisted]

/-- No value follows a clearing that is due. -/
theorem DueClearing.valueAfter_eq (due : reconciler.DueClearing filters candidates d) :
    valueAfter (reconciler.isMandatory d) (reconciler.isArmed d) (candidates.get d)
      (filters.get d) = none := by
  -- The value is stale, and the dimension is not mandatory, so no default takes its place.
  obtain ⟨optional, stale, list, value, loaded, filled, unlisted⟩ := due
  obtain ⟨first, rest, rfl⟩ := List.exists_cons_of_ne_nil filled
  simp [valueAfter, optional, loaded, value, List.mem_cons.not.1 unlisted]

/-- A change is of its own dimension, starts from the filter there, and leads to the value due. -/
theorem of_changeOf_eq_some (asked : reconciler.changeOf filters candidates d = some change) :
    change.dimension = d ∧ change.old = filters.get d ∧
      Filters.proper change.new = valueAfter (reconciler.isMandatory d) (reconciler.isArmed d)
        (candidates.get d) (filters.get d) := by
  -- A change is a default or a clearing, and the value due is known for both.
  obtain ⟨first, due, rfl⟩ | ⟨due, rfl⟩ := changeOf_eq_some_iff.1 asked
  · exact ⟨rfl, rfl, due.valueAfter_eq.symm⟩
  · exact ⟨rfl, rfl, due.valueAfter_eq.symm⟩

/-- Where no change is asked for, the filter has the value due. -/
theorem valueAfter_of_changeOf_eq_none
    (unasked : reconciler.changeOf filters candidates d = none) :
    valueAfter (reconciler.isMandatory d) (reconciler.isArmed d) (candidates.get d)
      (filters.get d) = filters.get d := by
  have undue : ∀ first, ¬ reconciler.DueDefault filters candidates d first := by
    intro first due
    have asked := changeOf_eq_some_iff.2 (.inl ⟨first, due, rfl⟩)
    rw [unasked] at asked
    cases asked
  have kept : ¬ reconciler.DueClearing filters candidates d := by
    intro due
    have asked := changeOf_eq_some_iff.2 (.inr ⟨due, rfl⟩)
    rw [unasked] at asked
    cases asked
  match list : candidates.get d with
  | none | some [] => rfl
  | some (first :: rest) =>
    cases value : filters.get d with
    | none =>
      -- A dimension without a value takes the default if it is mandatory and armed.
      by_cases awaits : reconciler.isMandatory d = true ∧ reconciler.isArmed d = true
      · exact absurd ⟨awaits.1, rest, list, .inl ⟨value, awaits.2⟩⟩ (undue first)
      · simp [valueAfter, awaits]
    | some current =>
      -- A value that is no candidate is replaced or cleared.
      by_cases listed : current ∈ first :: rest
      · exact valueAfter_of_mem listed
      · cases mandatory : reconciler.isMandatory d with
        | true =>
          exact absurd ⟨mandatory, rest, list, .inr ⟨current, value, listed⟩⟩ (undue first)
        | false =>
          exact absurd ⟨mandatory, current, _, value, list, List.cons_ne_nil _ _, listed⟩ kept

/-- The changes of a reconciliation are those that their own dimensions ask for. -/
theorem mem_changes_iff : change ∈ (reconciler.reconcile filters candidates).1 ↔
    reconciler.changeOf filters candidates change.dimension = some change := by
  -- Each dimension is asked once, and gives a change of itself.
  refine List.mem_filterMap.trans ⟨?_, fun asked => ⟨_, change.dimension.mem_all, asked⟩⟩
  rintro ⟨d, -, asked⟩
  rwa [(of_changeOf_eq_some asked).1]

/-- The changes that are asked for are in the order of dimensions. -/
theorem sublist_changes :
    ((reconciler.reconcile filters candidates).1.map Change.dimension).Sublist Dimension.all := by
  -- A change is of the dimension that has asked for it.
  have listed : ((reconciler.reconcile filters candidates).1.map Change.dimension).Sublist
      (Dimension.all.map id) :=
    sublist_map_filterMap fun d _ change asked => (of_changeOf_eq_some asked).1
  rwa [List.map_id] at listed

/-- The changes that are asked for are of distinct dimensions. -/
theorem nodup_changes :
    ((reconciler.reconcile filters candidates).1.map Change.dimension).Nodup :=
  -- Changes are listed in the order of dimensions.
  Dimension.nodup_all.sublist sublist_changes

/-- Making the changes that are asked for gives each filter the value due. -/
theorem get_apply_reconcile :
    ((reconciler.reconcile filters candidates).1.apply filters).get d =
      valueAfter (reconciler.isMandatory d) (reconciler.isArmed d) (candidates.get d)
        (filters.get d) := by
  cases asked : reconciler.changeOf filters candidates d with
  | none =>
    rw [valueAfter_of_changeOf_eq_none asked]
    refine Reconciliation.get_apply_of_not_mem _ fun change member same => ?_
    -- A change of the dimension would be the one that it asks for.
    have found := mem_changes_iff.1 member
    rw [same, asked] at found
    cases found
  | some change =>
    obtain ⟨rfl, old, due⟩ := of_changeOf_eq_some asked
    rw [Reconciliation.get_apply_of_mem filters nodup_changes (mem_changes_iff.2 asked),
      Change.get_apply_self, if_pos old.symm, due]

/-- Each latch is left as the list of its own dimension says. -/
theorem isArmed_reconcile (filters : Filters) :
    (reconciler.reconcile filters candidates).2.isArmed d =
      latchAfter (reconciler.isMandatory d) (reconciler.isArmed d) (candidates.get d) :=
  -- The latches are a table that is made anew.
  (ByDimension.get_ofFn _ d).trans armedAfter_eq

/-- Without lists nothing is changed, and every latch stays. -/
theorem reconcile_none (reconciler : Reconciler) (filters : Filters) :
    reconciler.reconcile filters .none = ([], reconciler) := by
  -- Neither the filters nor the latches have a list to follow.
  have unchanged : Dimension.all.filterMap (reconciler.changeOf filters .none) = [] :=
    List.filterMap_eq_nil_iff.2 fun d _ => by simp [changeOf]
  have kept : ByDimension.ofFn (reconciler.armedAfter .none) = reconciler.armed := by
    ext1 d
    rw [ByDimension.get_ofFn, armedAfter, Candidates.get_none]
    rfl
  rw [reconcile, unchanged, kept]

end Reconciler

end Viewpoint
