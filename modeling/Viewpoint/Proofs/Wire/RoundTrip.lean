import Viewpoint.Proofs.WellFormed
import Viewpoint.Proofs.Wire.Decode
import Viewpoint.Proofs.Wire.Legible
import Viewpoint.Wire.Event
import Viewpoint.Wire.Request
import Viewpoint.Wire.Widget

/-!
What is written as JSON is read back as it was, exactly if its instants are legible, and what is
read obeys the rules of its type.
-/

namespace Viewpoint

namespace Instant

/-- What is read of an instant: itself, unless it lies in a leap second within a minute. -/
theorem ofJson_toJson (t : Instant) : ofJson t.toJson = .ok t.asRead := by
  -- The text is the written form, in which an instant of any year is found.
  have read : read? (t.written .wire).toList = some t.asRead := by
    rw [written, String.toList_ofList, read?_text_wire]
  simp only [ofJson, toJson, Decode.text_text, Except.bind, read, Decode.found]

/-- An optional instant is read in the same way, since no instant is written as null. -/
theorem optional_ofJson (t : Option Instant) :
    Decode.optional ofJson (Json.orNull toJson t) = .ok (t.map asRead) := by
  -- A missing instant is written as null, and read as missing.
  cases t with
  | none => rfl
  | some t =>
    have valued : t.toJson ≠ .null := Json.text_ne_null _
    rw [Json.orNull, Decode.optional_of_ne_null valued, ofJson_toJson, Except.map, Option.map_some]

/-- An instant can be held back anywhere. -/
theorem fits_toJson {room : Nat} (t : Instant) : Decode.fits room t.toJson = true :=
  rfl

end Instant

namespace TimeRange

/-- The label of a range is read as its preset, and the custom label as none. -/
theorem presetOfJson_label (range : TimeRange) :
    presetOfJson (.text range.label) = .ok range.preset := by
  obtain ⟨start, finish, preset⟩ := range
  cases preset with
  | none => simp [label, Json.text, presetOfJson]
  | some id =>
    -- No preset goes by the custom label, so its name is not taken for that.
    have apart : id.name ≠ customLabel := by cases id <;> decide
    have named : PresetId.ofName id.name = .ok id := by cases id <;> rfl
    simp [label, Json.text, presetOfJson, apart, named, Decode.accepted, Except.map]

/-- A range is read from its ends as they are read, with its preset. -/
theorem ofJson_toJson (range : TimeRange) :
    ofJson range.toJson = (Decode.accepted (between range.start.asRead range.finish.asRead)).map
      fun plain => { plain with preset := range.preset } := by
  have start := range.start.ofJson_toJson
  have finish := range.finish.ofJson_toJson
  have preset := range.presetOfJson_label
  -- The screen decodes each field once before it is decoded for good.
  have fields : Decode.screenedFields ["start", "end", "preset"] 2 screen range.toJson =
      .ok [("start", range.start.toJson), ("end", range.finish.toJson),
        ("preset", .text range.label)] := by
    refine Decode.screenedFields_record (.refl _) (by decide) ?_
    simp [screen, start, finish, preset, Except.map]
  simp [ofJson, fields, bind, Except.bind, start, finish, preset, pure, Except.pure, Except.map]

/-- What is read of a range is the range as it is read, if that starts before it ends. -/
theorem ofJson_toJson_eq_ok_iff {range read : TimeRange} :
    ofJson range.toJson = .ok read ↔ range.asRead = read ∧ range.asRead.Ordered := by
  -- The preset that the check drops is put back.
  rw [ofJson_toJson, between]
  split
  case isTrue ordered => simp [Decode.accepted, Except.map, asRead, Ordered, ordered]
  case isFalse unordered => simp [Decode.accepted, Except.map, asRead, Ordered, unordered]

/-- A range that starts before it ends is read back exactly if its ends are legible. -/
theorem ofJson_toJson_self_iff {range : TimeRange} (ordered : range.Ordered) :
    ofJson range.toJson = .ok range ↔ ∀ t ∈ range.instants, t.IsLegible := by
  rw [ofJson_toJson_eq_ok_iff, ← asRead_eq_self_iff]
  -- If nothing changes, then the order does not change either.
  exact and_iff_left_of_imp fun same => same.symm ▸ ordered

/-- A range that is read starts before it ends. -/
theorem ordered_of_ofJson {value : Json} {range : TimeRange} (decoded : ofJson value = .ok range) :
    range.Ordered := by
  -- Of all the steps of the decoder, the check of the ends is the last.
  obtain ⟨_, _, decoded⟩ := bind_eq_ok.1 decoded
  obtain ⟨start, _, decoded⟩ := bind_eq_ok.1 decoded
  obtain ⟨finish, _, decoded⟩ := bind_eq_ok.1 decoded
  obtain ⟨preset, _, decoded⟩ := bind_eq_ok.1 decoded
  obtain ⟨plain, accepted, same⟩ := bind_eq_ok.1 decoded
  cases same
  have ordered : plain.Ordered := ordered_between (Decode.accepted_eq_ok accepted)
  exact ordered

end TimeRange

namespace Zoom

/-- Bounds in order are accepted as they are. -/
theorem within_of_ordered {zoom : Zoom} (ordered : zoom.Ordered) :
    within zoom.min zoom.max = .ok zoom := by
  -- Only two bounds are compared.
  obtain ⟨min, max⟩ := zoom
  cases min with
  | none => rfl
  | some low =>
    cases max with
    | none => rfl
    | some high => exact if_pos (ordered low high rfl rfl)

/-- Bounds that are accepted are the bounds of the zoom. -/
theorem eq_of_within {min max : Option Instant} {zoom : Zoom}
    (accepted : within min max = .ok zoom) : (⟨min, max⟩ : Zoom) = zoom := by
  -- Whether both bounds are compared or not, they are taken as they are.
  unfold within at accepted
  split at accepted
  · split at accepted
    · exact Except.ok.inj accepted
    · cases accepted
  · exact Except.ok.inj accepted

/-- A zoom is read from its bounds as they are read. -/
theorem ofJson_toJson (zoom : Zoom) :
    ofJson zoom.toJson = Decode.accepted (within zoom.asRead.min zoom.asRead.max) := by
  -- A bound that is missing is written as null, and read as missing.
  have min := Instant.optional_ofJson zoom.min
  have max := Instant.optional_ofJson zoom.max
  simp [ofJson, toJson, bind, Except.bind, Decode.optionalField, min, max, asRead]

/-- What is read of a zoom is the zoom as it is read, if its bounds are in order then. -/
theorem ofJson_toJson_eq_ok_iff {zoom read : Zoom} :
    ofJson zoom.toJson = .ok read ↔ zoom.asRead = read ∧ zoom.asRead.Ordered := by
  -- The bounds are only checked, so the zoom has the bounds as they are read.
  rw [ofJson_toJson]
  constructor
  · intro decoded
    have checked := Decode.accepted_eq_ok decoded
    obtain rfl := eq_of_within checked
    exact ⟨rfl, ordered_within checked⟩
  · rintro ⟨rfl, ordered⟩
    rw [within_of_ordered ordered, Decode.accepted]

/-- A zoom with its bounds in order is read back exactly if they are legible. -/
theorem ofJson_toJson_self_iff {zoom : Zoom} (ordered : zoom.Ordered) :
    ofJson zoom.toJson = .ok zoom ↔ ∀ t ∈ zoom.instants, t.IsLegible := by
  rw [ofJson_toJson_eq_ok_iff, ← asRead_eq_self_iff]
  -- If nothing changes, then the order does not change either.
  exact and_iff_left_of_imp fun same => same.symm ▸ ordered

/-- A zoom that is read has its bounds in order. -/
theorem ordered_of_ofJson {value : Json} {zoom : Zoom} (decoded : ofJson value = .ok zoom) :
    zoom.Ordered := by
  -- The bounds are decoded one by one, and then checked together.
  obtain ⟨_, _, decoded⟩ := bind_eq_ok.1 decoded
  obtain ⟨min, _, decoded⟩ := bind_eq_ok.1 decoded
  obtain ⟨max, _, accepted⟩ := bind_eq_ok.1 decoded
  exact ordered_within (Decode.accepted_eq_ok accepted)

end Zoom

namespace Filters

/-- Optional values of filters are read back. -/
theorem inverts_value : Decode.Inverts (Decode.optional Decode.text) (Json.orNull .text) :=
  -- Texts are read back, and none of them is null.
  Decode.Inverts.optional Decode.text_text Json.text_ne_null

/-- What is written for dimensions sets the filters of those dimensions. -/
theorem setMembers_written (filters given : Filters) (dimensions : List Dimension) :
    ∃ result, setMembers given (dimensions.map fun d =>
        (some d.name, Json.orNull .text (filters.get d))) = .ok result ∧
      ∀ d, result.get d = if d ∈ dimensions then proper (filters.get d) else given.get d := by
  -- The induction is on the dimensions, for any filters that were set before.
  induction dimensions generalizing given with
  | nil => exact ⟨given, rfl, fun d => by simp⟩
  | cons first rest ih =>
    obtain ⟨result, set, holds⟩ := ih (given.set first (filters.get first))
    have value := inverts_value (filters.get first)
    have named : Named.find? first.name = some first := Named.find?_name first
    refine ⟨result, ?_, fun d => ?_⟩
    · simp only [List.map_cons, setMembers, Option.bind_some, named, Decode.found, bind,
        Except.bind, value, set]
    · -- A dimension that comes again later is set to the same value.
      rw [holds, get_set]
      by_cases own : d = first <;> simp [own]

/-- Filters without empty values are read back. -/
theorem ofJson_toJson {filters : Filters} (filled : filters.Filled) :
    ofJson filters.toJson = .ok filters := by
  obtain ⟨result, set, holds⟩ := filters.setMembers_written none Dimension.all
  have members : filters.toJson = .object (Dimension.all.map fun d =>
      (some d.name, .orNull .text (filters.get d))) := by
    simp [toJson, entries, Json.record]
  rw [members, ofJson, set]
  -- All dimensions were written, so all filters are set.
  refine congrArg _ (ext_get fun d => ?_)
  rw [holds, if_pos d.mem_all, proper_of_filled (filled d)]

/-- Filters that are set from members have no empty value when those before had none. -/
theorem Filled.setMembers {given filters : Filters} {members : List (Option String × Json)}
    (filled : given.Filled) (set : setMembers given members = .ok filters) : filters.Filled := by
  -- The induction is on the members, each of which sets one filter.
  induction members generalizing given with
  | nil =>
    cases set
    exact filled
  | cons member rest ih =>
    obtain ⟨d, _, set⟩ := bind_eq_ok.1 set
    obtain ⟨value, _, set⟩ := bind_eq_ok.1 set
    exact ih (filled.set d value) set

/-- Filters that are read have no empty value. -/
theorem filled_of_ofJson {value : Json} {filters : Filters} (decoded : ofJson value = .ok filters) :
    filters.Filled := by
  -- Members are set one by one, starting without filters.
  cases value with
  | object members => exact filled_none.setMembers decoded
  | _ => cases decoded

end Filters

/-- Lists of different dimensions have different names. -/
theorem Dimension.listName_injective : Function.Injective listName := by
  -- The six names are compared with each other.
  intro a b same
  cases a <;> cases b <;> first | rfl | exact absurd same (by decide)

namespace Candidates

/-- Candidates are read back: the lists that are loaded, and none of the others. -/
theorem inverts : Decode.Inverts ofJson toJson := by
  intro candidates
  have fields : Decode.fields (Dimension.all.map Dimension.listName) 0 candidates.toJson = .ok _ :=
    Decode.fields_record (Decode.names_present _ _ _) (by decide)
  have texts : Decode.Inverts (Decode.list Decode.text) (Json.list .text) :=
    Decode.Inverts.list Decode.text_text
  -- A list is found under the name of its dimension if it was written.
  have list (d : Dimension) : Decode.optionalField _ d.listName (Decode.list Decode.text) =
      .ok (candidates.get d) :=
    texts.optionalField Json.list_ne_null
      ((Decode.lookup_present _ candidates.get Dimension.all Dimension.listName_injective d).trans
        (if_pos d.mem_all))
  simp only [ofJson, fields, bind, Except.bind, list, pure, Except.pure]
  rfl

/-- Candidates can be held back wherever there is room for two levels. -/
theorem fits_toJson (candidates : Candidates) (room : Nat) :
    Decode.fits (room + 2) candidates.toJson = true := by
  refine Decode.fits_record.2 fun member listed => ?_
  -- Each member is a list of texts.
  obtain ⟨d, _, written⟩ := List.mem_flatMap.1 listed
  obtain ⟨values, _, rfl⟩ := Option.map_eq_some_iff.1 (Option.mem_toList.1 written)
  exact Decode.fits_list Decode.fits_text values

end Candidates

/-- The scope of filters is read back. -/
theorem FilterScope.inverts : Decode.Inverts ofJson toJson := by
  intro scope
  -- Two scopes are written as names, and the third as an object with one member.
  cases scope with
  | none | all => rfl
  | excluding d => simp [ofJson, toJson, Json.record, Except.map]

/-- Dependencies are read back. -/
theorem Deps.inverts : Decode.Inverts ofJson toJson := by
  -- The three truth values are read as they are.
  intro deps
  have scope := FilterScope.inverts deps.filters
  simp [ofJson, toJson, bind, Except.bind, Decode.bool, scope, pure, Except.pure]

namespace Widget

/-- An object that begins with a kind is decoded from its other members. -/
theorem ofJson_record {kind : String} {members : List (String × Json)}
    (others : ∀ member ∈ members, member.1 ≠ "kind" ∧ Decode.fits 126 member.2 = true) :
    ofJson (.record (("kind", .text kind) :: members)) = ofFields kind (.record members) := by
  -- A widget is held back as a whole while its kind is looked for.
  obtain ⟨held, tagged⟩ := Decode.tagged_of_fits kind others
  simp [ofJson, ofJsonWithin, held, tagged, bind, Except.bind]

/-- Widgets are read back. -/
theorem inverts : Decode.Inverts ofJson toJson := by
  -- Each kind is written with the fields that its decoder asks for.
  intro widget
  cases widget with
  | aggregated groupBy aggregation =>
    rw [toJson, ofJson_record (by simp)]
    simp [ofFields, bind, Except.bind, pure, Except.pure]
  | timeseries interval =>
    have named : Decode.Inverts (Decode.name true) (Json.named : Interval → Json) :=
      Decode.name_named true
    have width := named.optional Json.named_ne_null interval
    rw [toJson, ofJson_record (by simp [Decode.fits_orNull Decode.fits_named])]
    simp [ofFields, Decode.optionalField, bind, Except.bind, width, pure, Except.pure]
  | metrics =>
    rw [toJson, ofJson_record (by simp)]
    rfl
  | options d =>
    rw [toJson, ofJson_record (by simp)]
    simp [ofFields, bind, Except.bind, pure, Except.pure]

end Widget

namespace Event

/-- The level of an event, if it has one, fits into a word. -/
def FitsWord : Event → Prop
  | drillUp level => level < Decode.wordLimit
  | _ => True

instance : ∀ event : Event, Decidable event.FitsWord
  | drillUp level => inferInstanceAs (Decidable (level < Decode.wordLimit))
  | setTimeRange _ _ | applyPreset _ | setFilter _ _ | clearFilter _ | clearAllFilters
  | drillDown _ _ | drillNext _ | resetDrill | setZoom _ _ | clearZoom | brush _ _ | applyBrush
  | clearBrush | optionsLoaded _ => isTrue trivial

/-- No field of an event is named like its type, and all can be held back. -/
theorem of_mem_fieldsToJson {event : Event} (fits : event.FitsWord) :
    ∀ member ∈ event.fieldsToJson, member.1 ≠ "type" ∧ Decode.fits 126 member.2 = true := by
  cases event with
  | setTimeRange start finish => simp [fieldsToJson, Instant.fits_toJson]
  | applyPreset | clearFilter | clearAllFilters | drillDown | drillNext | resetDrill | clearZoom
    | applyBrush | clearBrush => simp [fieldsToJson]
  | setFilter d value => simp [fieldsToJson, Decode.fits_orNull Decode.fits_text]
  | drillUp level =>
    -- Only a level is a number, and numbers have to fit into a word.
    have small : level < Decode.wordLimit := fits
    simp [fieldsToJson, Decode.fits_nat small]
  | setZoom min max | brush min max =>
    simp [fieldsToJson, Decode.fits_orNull Instant.fits_toJson]
  | optionsLoaded candidates => simp [fieldsToJson, candidates.fits_toJson 124]

/-- An event is decoded by its name, from its other fields. -/
theorem ofJson_eq_ofFields {event : Event} (fits : event.FitsWord) :
    ofJson event.toJson = ofFields event.name (.record event.fieldsToJson) := by
  -- The event is held back as a whole while its name is looked for.
  obtain ⟨held, tagged⟩ := Decode.tagged_of_fits event.name (of_mem_fieldsToJson fits)
  simp [ofJson, toJson, ofJsonWithin, held, tagged, bind, Except.bind]

/-- A single field is decoded from what is written for it. -/
@[simp] theorem singleOfJson_record {α : Type} (key : String) (decode : Json → Decoded α)
    (value : Json) : singleOfJson key decode (.record [(key, value)]) = decode value := by
  -- The field is known, and it is the only one.
  simp [singleOfJson, bind, Except.bind]

/-- Bounds are read one by one, whatever their order. -/
theorem boundsOfJson_record (min max : Option Instant) : boundsOfJson (.record
    [("min", .orNull Instant.toJson min), ("max", .orNull Instant.toJson max)]) =
      .ok (min.map Instant.asRead, max.map Instant.asRead) := by
  -- Missing bounds are written as null, and read as missing.
  have lower := Instant.optional_ofJson min
  have upper := Instant.optional_ofJson max
  simp [boundsOfJson, bind, Except.bind, Decode.optionalField, lower, upper, pure, Except.pure]

/-- What is read of an event: the event, with its instants as they are read. -/
theorem ofJson_toJson {event : Event} (fits : event.FitsWord) :
    ofJson event.toJson = .ok event.asRead := by
  rw [ofJson_eq_ofFields fits]
  -- The fields of each event are those that its decoder asks for.
  cases event with
  | setTimeRange start finish =>
    have first := start.ofJson_toJson
    have last := finish.ofJson_toJson
    simp [ofFields, name, fieldsToJson, bind, Except.bind, first, last, pure, Except.pure, asRead]
  | setFilter d value =>
    have content := Filters.inverts_value value
    simp [ofFields, name, fieldsToJson, Decode.optionalField, bind, Except.bind, content, pure,
      Except.pure, asRead]
  | drillDown d value =>
    simp [ofFields, name, fieldsToJson, bind, Except.bind, pure, Except.pure, asRead]
  | applyPreset | clearFilter | drillNext => simp [ofFields, name, fieldsToJson, Except.map, asRead]
  | drillUp level =>
    have small : level < Decode.wordLimit := fits
    simp [ofFields, name, fieldsToJson, Decode.nat_nat small, Except.map, asRead]
  | optionsLoaded candidates =>
    have lists := Candidates.inverts candidates
    simp [ofFields, name, fieldsToJson, lists, Except.map, asRead]
  | setZoom min max | brush min max =>
    simp [ofFields, name, fieldsToJson, boundsOfJson_record, Except.map, asRead]
  | clearAllFilters | resetDrill | clearZoom | applyBrush | clearBrush => rfl

/-- An event is read back exactly if its instants are legible. -/
theorem ofJson_toJson_self_iff {event : Event} (fits : event.FitsWord) :
    ofJson event.toJson = .ok event ↔ ∀ t ∈ event.instants, t.IsLegible := by
  -- It is always read, though not always as it was.
  rw [ofJson_toJson fits, Except.ok.injEq, asRead_eq_self_iff]

end Event

/--
Every value that is exchanged as JSON is read back from its text exactly if its instants are
legible, and no text is read as a value that breaks the rules of its type.

The values are the ones that can be built: ranges that start before they end, zooms whose bounds are
in order, filters without empty values, and all others, where the level of an event is a word.
Instants are legible unless they lie in a leap second within a minute.
-/
theorem wire_values_read_back :
    (∀ range : TimeRange, range.Ordered →
        (Decode.ofText TimeRange.ofJson range.toJson.compact = .ok range ↔
          ∀ t ∈ range.instants, t.IsLegible)) ∧
      (∀ zoom : Zoom, zoom.Ordered →
        (Decode.ofText Zoom.ofJson zoom.toJson.compact = .ok zoom ↔
          ∀ t ∈ zoom.instants, t.IsLegible)) ∧
      (∀ filters : Filters, filters.Filled →
        Decode.ofText Filters.ofJson filters.toJson.compact = .ok filters) ∧
      (∀ candidates : Candidates,
        Decode.ofText Candidates.ofJson candidates.toJson.compact = .ok candidates) ∧
      (∀ deps : Deps, Decode.ofText Deps.ofJson deps.toJson.compact = .ok deps) ∧
      (∀ widget : Widget, Decode.ofText Widget.ofJson widget.toJson.compact = .ok widget) ∧
      (∀ event : Event, event.FitsWord →
        (Decode.ofText Event.ofJson event.toJson.compact = .ok event ↔
          ∀ t ∈ event.instants, t.IsLegible)) ∧
      ∀ text : String,
        (∀ range, Decode.ofText TimeRange.ofJson text = .ok range → range.Ordered) ∧
          (∀ zoom, Decode.ofText Zoom.ofJson text = .ok zoom → zoom.Ordered) ∧
          ∀ filters, Decode.ofText Filters.ofJson text = .ok filters → filters.Filled := by
  -- The text of a value spells that value alone, so all is said by the decoders of values.
  simp only [Decode.ofText_compact]
  refine ⟨fun _ => TimeRange.ofJson_toJson_self_iff, fun _ => Zoom.ofJson_toJson_self_iff,
    fun _ => Filters.ofJson_toJson, Candidates.inverts, Deps.inverts, Widget.inverts,
    fun _ => Event.ofJson_toJson_self_iff, fun text => ⟨?range, ?zoom, ?filters⟩⟩
  case range =>
    intro range read
    obtain ⟨_, decoded⟩ := Decode.exists_of_ofText read
    exact TimeRange.ordered_of_ofJson decoded
  case zoom =>
    intro zoom read
    obtain ⟨_, decoded⟩ := Decode.exists_of_ofText read
    exact Zoom.ordered_of_ofJson decoded
  case filters =>
    intro filters read
    obtain ⟨_, decoded⟩ := Decode.exists_of_ofText read
    exact Filters.filled_of_ofJson decoded

/-- The time from the first second of all to the leap second that ends the year 10000. -/
def TimeRange.eons : TimeRange :=
  ⟨⟨firstSecond, 0, by decide, Instant.zero_lt_twoSeconds⟩,
    ⟨253433923199, 1500000000, by decide, by decide⟩, none⟩

/-- A filter whose value has to be escaped, and has a character beyond the first plane. -/
def Filters.awkward : Filters :=
  Filters.none.set .service (some ("\"\\\n\u0000".push (Char.ofNat 0x1F600)))

/-- Years beyond four digits, leap seconds, escapes and the greatest level are read back. -/
theorem wire_values_read_back_extremes :
    Decode.ofText TimeRange.ofJson TimeRange.eons.toJson.compact = .ok TimeRange.eons ∧
      Decode.ofText Zoom.ofJson
          (Zoom.mk TimeRange.eons.start TimeRange.eons.finish).toJson.compact =
        .ok ⟨TimeRange.eons.start, TimeRange.eons.finish⟩ ∧
      Decode.ofText Filters.ofJson Filters.awkward.toJson.compact = .ok Filters.awkward ∧
      Decode.ofText Event.ofJson (Event.drillUp 18446744073709551615).toJson.compact =
        .ok (.drillUp 18446744073709551615) ∧
      TimeRange.eons.Ordered ∧
      (Zoom.mk TimeRange.eons.start TimeRange.eons.finish).Ordered ∧
      Filters.awkward.Filled := by
  obtain ⟨range, zoom, filters, _, _, _, event, rules⟩ := wire_values_read_back
  have first := (range TimeRange.eons (by decide)).2 (by decide)
  have second := (zoom ⟨TimeRange.eons.start, TimeRange.eons.finish⟩
    (by rintro _ _ ⟨⟩ ⟨⟩; decide)).2 (by decide)
  have third := filters Filters.awkward (Filters.filled_none.set _ _)
  have fourth := (event (.drillUp 18446744073709551615) (by decide)).2 (by decide)
  -- What is read obeys its rules, whatever text it is read from.
  exact ⟨first, second, third, fourth, (rules _).1 _ first, (rules _).2.1 _ second,
    (rules _).2.2 _ third⟩

/--
A range that starts in the leap second after the fourth second of a minute, and ends when the minute
does, is not read back: it is read as one that starts in the fifth second.
-/
theorem wire_values_read_astray : ¬ ∀ range : TimeRange, range.Ordered →
    Decode.ofText TimeRange.ofJson range.toJson.compact = .ok range := by
  intro told
  have same := told ⟨.withinMinute, .minuteEnd, none⟩ (by decide)
  -- The text spells another range, with the start as it is read.
  rw [Decode.ofText_compact, TimeRange.ofJson_toJson_eq_ok_iff] at same
  revert same
  decide

end Viewpoint
