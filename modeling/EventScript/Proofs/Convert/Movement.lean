import EventScript.Proofs.Block.Completeness
import EventScript.Proofs.Convert.Event
import EventScript.Proofs.Json.Equality

/-! Movement routes and the rows behind them. The rows of a route repeat its first steps; a row that
repeats the step at its place adds nothing to the script, and any other one stops the event. -/
namespace EventScript

namespace MoveStep

lemma keyed_of_parametersOf {value : Json} (keyed : value.Keyed) {parameters : List Json}
    (h : parametersOf value = .ok parameters) : ∀ v ∈ parameters, v.Keyed := by
  unfold parametersOf at h
  split at h
  · obtain rfl := Except.ok.inj h
    simp
  · cases keyed with
    | arr hitems =>
      obtain rfl := Except.ok.inj h
      exact hitems
    | _ => cases h

/-- A step is repeated by the value that it was read from. -/
lemma repeatedBy_of_ofJson {raw : Json} (keyed : raw.Keyed) {step : MoveStep}
    (h : ofJson raw = .ok step) : step.repeatedBy raw = true := by
  have hparameters : Json.sameItems step.parameters step.parameters = true := by
    cases raw with
    | obj fields =>
      rw [ofJson] at h
      split at h
      · obtain ⟨parameters, hread, h⟩ := bind_eq_ok.1 h
        obtain ⟨indent, -, h⟩ := bind_eq_ok.1 h
        obtain rfl := Except.ok.inj h
        apply Json.sameItems_self
        intro v hv
        exact (keyed_of_parametersOf (keyed.field "parameters") hread v hv).same_self
      · cases h
    | _ => cases h
  simp only [repeatedBy, h, hparameters, decide_true, Bool.and_self, Bool.true_and]
  cases step.indent <;> simp

lemma exists_obj_of_ofJson {raw : Json} {step : MoveStep} (h : ofJson raw = .ok step) :
    ∃ fields, raw = .obj fields := by
  cases raw with
  | obj fields => exact ⟨fields, rfl⟩
  | _ => cases h

end MoveStep

namespace MoveRoute

/-- The steps of a route as they are stored. -/
def stored : Json → List Json
  | .obj fields => match Json.field "list" fields with
    | .arr items => items
    | _ => []
  | _ => []

/-- A route is an object, and its steps are those that are stored in it. -/
lemma stored_of_ofJson {value : Json} {route : MoveRoute} (h : ofJson value = .ok route) :
    (∃ fields, value = .obj fields) ∧ (stored value).mapM MoveStep.ofJson = .ok route.steps := by
  cases value with
  | obj fields =>
    refine ⟨⟨fields, rfl⟩, ?_⟩
    rw [ofJson] at h
    split at h
    · rename_i items hitems
      obtain ⟨isRepeated, -, h⟩ := bind_eq_ok.1 h
      obtain ⟨skippable, -, h⟩ := bind_eq_ok.1 h
      obtain ⟨wait, -, h⟩ := bind_eq_ok.1 h
      obtain ⟨steps, hsteps, h⟩ := bind_eq_ok.1 h
      obtain rfl := Except.ok.inj h
      rw [stored, hitems]
      exact hsteps
    · cases h
  | _ => cases h

/-- Whether values are copies of the first steps of a route. -/
def RepeatedBy (route : MoveRoute) (copies : List Json) : Prop :=
  copies.length ≤ route.steps.length ∧
    ∀ (i : Nat) (step : MoveStep) (copy : Json), route.steps[i]? = some step →
      copies[i]? = some copy → step.repeatedBy copy = true

lemma not_repeatedBy {route : MoveRoute} {objects : List (List (Text × Json))} :
    ¬route.RepeatedBy (objects.map .obj) ↔ route.steps.length < objects.length ∨
      ∃ (i : Nat) (step : MoveStep) (object : List (Text × Json)),
        route.steps[i]? = some step ∧ objects[i]? = some object ∧
          step.repeatedBy (.obj object) = false := by
  rw [RepeatedBy, not_and_or, Nat.not_le, List.length_map]
  simp

lemma keyed_of_mem_stored {value raw : Json} (keyed : value.Keyed) (h : raw ∈ stored value) :
    raw.Keyed := by
  cases value with
  | obj fields =>
    have hlist := keyed.field "list"
    rw [stored] at h
    split at h
    · rename_i items hitems
      rw [hitems] at hlist
      cases hlist with
      | arr hall => exact hall raw h
    · cases h
  | _ => cases h

/-- The first of the stored steps are objects that repeat the route. -/
lemma repeatedBy_stored {value : Json} {route : MoveRoute} (h : ofJson value = .ok route)
    (keyed : value.Keyed) {k : Nat} (hk : k ≤ route.steps.length) :
    ∃ objects : List (List (Text × Json)), objects.map .obj = (stored value).take k ∧
      route.RepeatedBy (objects.map .obj) := by
  obtain ⟨-, hsteps⟩ := stored_of_ofJson h
  have hall : ∀ copy ∈ (stored value).take k, copy ∈ Set.range Json.obj := by
    intro copy hcopy
    obtain ⟨step, hstep⟩ := exists_ok_of_mapM hsteps copy (List.mem_of_mem_take hcopy)
    obtain ⟨fields, rfl⟩ := MoveStep.exists_obj_of_ofJson hstep
    exact Set.mem_range_self fields
  obtain ⟨objects, hobjects⟩ : (stored value).take k ∈ Set.range (List.map Json.obj) := by
    rw [Set.range_list_map]
    exact hall
  refine ⟨objects, hobjects, ?_⟩
  rw [hobjects]
  refine ⟨(List.length_take_le k _).trans hk, ?_⟩
  intro i step copy hi hcopy
  have hstored : (stored value)[i]? = some copy := by
    rw [List.getElem?_take] at hcopy
    split_ifs at hcopy
    exact hcopy
  obtain ⟨other, hother, hsame⟩ := (getElem?_mapM hsteps i).1 copy hstored
  rw [hi] at hsame
  obtain rfl := Option.some.inj hsame
  exact MoveStep.repeatedBy_of_ofJson
    (keyed_of_mem_stored keyed (List.mem_of_getElem? hstored)) hother

end MoveRoute

namespace Decompile

/-- The operands of a row that repeats a step. -/
def copyOperands (copy : Json) : Operands := [("step", .value copy)]

/-- Rows that repeat the steps at their places pass, and so does a list that stops early. -/
lemma checkRouteRows_eq_ok {position : Nat} {steps : List MoveStep} {copies : List Json} :
    checkRouteRows position steps (copies.map copyOperands) = .ok () ↔
      copies.length ≤ steps.length ∧
        ∀ (i : Nat) (step : MoveStep) (copy : Json), steps[i]? = some step →
          copies[i]? = some copy → step.repeatedBy copy = true := by
  induction copies generalizing position steps with
  | nil => simp [checkRouteRows]
  | cons copy copies ih =>
    cases steps with
    | nil => simp [checkRouteRows]
    | cons step steps =>
      have hvalue : (copyOperands copy).value "step" = .ok copy := rfl
      rw [List.map_cons, checkRouteRows, hvalue, ok_bind, ← Nat.and_forall_add_one]
      by_cases hstep : step.repeatedBy copy = true
      · simp [hstep, ih]
      · simp [hstep]

/-- Rows are refused for their data only. -/
lemma checkRouteRows_error {position : Nat} {steps : List MoveStep} {copies : List Json}
    {fault : Fault} (h : checkRouteRows position steps (copies.map copyOperands) = .error fault) :
    ∃ i, fault = .data (.routeRow i) := by
  induction copies generalizing position steps with
  | nil => simp [checkRouteRows] at h
  | cons copy copies ih =>
    cases steps with
    | nil => exact ⟨position, (Except.error.inj h).symm⟩
    | cons step steps =>
      have hvalue : (copyOperands copy).value "step" = .ok copy := rfl
      rw [List.map_cons, checkRouteRows, hvalue, ok_bind] at h
      split_ifs at h
      · exact ih h
      · exact ⟨position, (Except.error.inj h).symm⟩

/-- The row of a route, and the rows behind it. -/
def routeRow (character indent : Int) (value : Json) : Row := ⟨205, indent, [.int character, value]⟩

def copyRow (indent : Int) (copy : Json) : Row := ⟨505, indent, [copy]⟩

/-- The statement of a route. -/
def movement (character : Int) (route : MoveRoute) : List Stmt :=
  perform "set_movement_route" [("character", Decompile.character character),
    ("route", invoke "MoveRoute"
      [("repeat", truth route.isRepeated), ("skippable", truth route.skippable),
       ("wait", truth route.wait), ("list", .list (route.steps.map moveStep))])]

lemma lookup_route (variant : Variant) :
    Catalog.lookup variant 205 = some ⟨205, "SET_MOVEMENT_ROUTE", .leaf,
      [.int "character_id", .required "route" .moveRoute]⟩ := by
  cases variant <;> rfl

lemma lookup_copy (variant : Variant) :
    Catalog.lookup variant 505 = some ⟨505, "SET_MOVEMENT_ROUTE_EXTRA", .continuation 205,
      [.required "step" .mapping]⟩ := by
  cases variant <;> rfl

variable {character indent : Int} {value : Json} {route : MoveRoute}

lemma decode_routeRow (h : MoveRoute.ofJson value = .ok route) :
    Operands.decode [.int "character_id", .required "route" .moveRoute] [.int character, value] =
      .ok [("character_id", .value (.int character)), ("route", .route route)] := by
  obtain ⟨⟨fields, rfl⟩, -⟩ := MoveRoute.stored_of_ofJson h
  have hread : ValueKind.read .moveRoute "route" (.obj fields) = .ok (.route route) := by
    simp [ValueKind.read, ValueKind.check, ValueKind.accepts, h]
  simp [Operands.decode, Operands.decodeSlots, Operands.decodeSlot, Operands.decodePlain,
    Operands.Cursor.take, hread]
  rfl

/-- A route with the rows behind it, each of which holds an object. -/
def routeEntry (variant : Variant) (character indent : Int) (value : Json)
    (objects : List (List (Text × Json))) : Entry where
  index := 0
  row := routeRow character indent value
  kind := Catalog.lookup variant 205
  extras := objects.map fun object => copyRow indent (.obj object)

lemma reconstruct_route (variant : Variant) (objects : List (List (Text × Json))) :
    Block.reconstruct variant (routeEntry variant character indent value objects).rows =
      .ok [.leaf (routeEntry variant character indent value objects)] := by
  have hrole : (routeEntry variant character indent value objects).role? = some .leaf := by
    rw [Entry.role?, routeEntry, lookup_route]
    rfl
  have hlead : (routeEntry variant character indent value objects).Lead variant := by
    refine ⟨rfl, by simp [hrole], ?_⟩
    intro row hrow
    obtain ⟨object, -, rfl⟩ := List.mem_map.1 hrow
    exact ⟨rfl, _, lookup_copy variant, rfl⟩
  have hbreak : (routeEntry variant character indent value objects).row.code = Nest.breakCode →
      false = true := by
    simp [routeEntry, routeRow, Nest.breakCode]
  have hevent : Block.IsEvent variant [.leaf (routeEntry variant character indent value objects)] :=
    ⟨by simpa using .leaf hlead (.inr hrole) hbreak, rfl, trivial⟩
  simpa [Block.rowsOf, Block.entriesOf, Block.entries] using Block.reconstruct_rowsOf hevent

/-- The operands of the rows behind a route. -/
lemma extras_route (context : Context) (objects : List (List (Text × Json))) :
    extras context (routeEntry context.variant character indent value objects) =
      .ok ((objects.map .obj).map copyOperands) := by
  rw [extras, routeEntry]
  induction objects with
  | nil => rfl
  | cons object objects ih =>
    rw [List.map_cons, List.mapM_cons, ih, copyRow, lookup_copy]
    rfl

/-- The statements of a route with rows behind it. -/
lemma leaf_route (context : Context) (h : MoveRoute.ofJson value = .ok route)
    (objects : List (List (Text × Json))) :
    leaf context (routeEntry context.variant character indent value objects) =
      if route.steps.length < objects.length then
        .error (.data (.routeRows objects.length route.steps.length))
      else (checkRouteRows 0 route.steps ((objects.map .obj).map copyOperands)).map fun _ =>
        ⟨movement character route, []⟩ := by
  have hkind : (routeEntry context.variant character indent value objects).kind = _ :=
    lookup_route context.variant
  have hhandler : handler? "SET_MOVEMENT_ROUTE" = some setMovementRoute := rfl
  have hparameters : (routeEntry context.variant character indent value objects).row.parameters =
    [.int character, value] := rfl
  have hroute : Operands.route [("character_id", .value (.int character)),
      ("route", .route route)] "route" = .ok route := rfl
  have hcharacter : Operands.int [("character_id", .value (.int character)),
      ("route", .route route)] "character_id" = .ok character := rfl
  simp only [leaf, hkind, hhandler, hparameters, decode_routeRow h, ok_bind, setMovementRoute,
    extras_route, hroute, hcharacter, List.length_map]
  split_ifs
  · rfl
  · cases checkRouteRows 0 route.steps ((objects.map .obj).map copyOperands) <;> rfl

/-- A route whose rows are copies of its first steps is written as it is alone; one with other rows
fails for its data. -/
lemma blocks_route (context : Context) (character indent : Int)
    (h : MoveRoute.ofJson value = .ok route) (objects : List (List (Text × Json))) :
    (route.RepeatedBy (objects.map .obj) →
      blocks context [.leaf (routeEntry context.variant character indent value objects)] =
        .ok ⟨movement character route, []⟩) ∧
    (¬route.RepeatedBy (objects.map .obj) → ∃ fault,
      blocks context [.leaf (routeEntry context.variant character indent value objects)] =
        .error (.located 0 205 (.data fault))) := by
  have hblocks : blocks context [.leaf (routeEntry context.variant character indent value objects)] =
      locate (routeEntry context.variant character indent value objects)
        (leaf context (routeEntry context.variant character indent value objects)) >>= fun fragment =>
          .ok (fragment ++ .empty) := rfl
  rw [hblocks, leaf_route context h]
  constructor
  · rintro ⟨hlength, hcopies⟩
    rw [List.length_map] at hlength
    rw [if_neg (by omega), checkRouteRows_eq_ok.2 ⟨by simpa using hlength, hcopies⟩]
    rfl
  · intro hnot
    by_cases hlength : route.steps.length < objects.length
    · rw [if_pos hlength]
      exact ⟨_, rfl⟩
    · rw [if_neg hlength]
      cases hcheck : checkRouteRows 0 route.steps ((objects.map .obj).map copyOperands) with
      | ok _ => exact absurd (checkRouteRows_eq_ok.1 hcheck) hnot
      | error fault =>
        obtain ⟨i, rfl⟩ := checkRouteRows_error hcheck
        exact ⟨_, rfl⟩

end Decompile

namespace Converter

open Decompile

variable {raw : List RawRow} {character indent : Int} {value : Json} {route : MoveRoute}
  {objects : List (List (Text × Json))}

lemma convertEvent_of_repeated (converter : Converter) (id : EventId)
    (h : MoveRoute.ofJson value = .ok route) (hrepeated : route.RepeatedBy (objects.map .obj))
    (hread : RawRow.readAll raw = .ok (routeRow character indent value ::
      objects.map fun object => copyRow indent (.obj object))) :
    ∃ result records, converter.convertEvent id raw = .ok (result, records) ∧
      result.text = some (Stmt.render converter.options.style (movement character route)) := by
  have hfragment : converter.decompile id raw = .ok ⟨movement character route, []⟩ :=
    decompile_eq_ok.2 ⟨_, _, hread, reconstruct_route converter.variant objects,
      (blocks_route converter.context _ _ h objects).1 hrepeated⟩
  obtain ⟨result, records, hresult, htext, -⟩ := convertEvent_of_decompile hfragment
  exact ⟨result, records, hresult, htext⟩

lemma convertEvent_of_not_repeated (converter : Converter) (id : EventId)
    (h : MoveRoute.ofJson value = .ok route) (hnot : ¬route.RepeatedBy (objects.map .obj))
    (hread : RawRow.readAll raw = .ok (routeRow character indent value ::
      objects.map fun object => copyRow indent (.obj object))) :
    ∃ fault, converter.convertEvent id raw = .error (.event fault) ∧
      fault.cause.kind = "DataError" := by
  obtain ⟨fault, hblocks⟩ :=
    (blocks_route converter.context character indent h objects).2 hnot
  have hforest : Block.reconstruct converter.variant (routeRow character indent value ::
      objects.map fun object => copyRow indent (.obj object)) =
      .ok [.leaf (routeEntry converter.context.variant character indent value objects)] :=
    reconstruct_route converter.variant objects
  refine ⟨⟨id, 0, some (.number 205), .data fault⟩, ?_, rfl⟩
  rw [convertEvent_eq, decompile, hread]
  simp only [hforest, hblocks]
  rfl

/-- Rows that repeat a route change nothing. A route is converted with the first of its stored steps
behind it, and has the text that it has alone. With any objects behind it, a route fails exactly if
there are more of them than steps or if one does not repeat the step at its place, and then for its
data. -/
theorem convertEvent_route (converter : Converter) (id : EventId) (character indent : Int)
    {value : Json} {route : MoveRoute} (hroute : MoveRoute.ofJson value = .ok route) :
    (value.Keyed → ∀ k ≤ route.steps.length, ∀ alone followed,
      RawRow.readAll alone = .ok [routeRow character indent value] →
      RawRow.readAll followed = .ok (routeRow character indent value ::
        ((MoveRoute.stored value).take k).map (copyRow indent)) →
      ∃ result records result' records', converter.convertEvent id alone = .ok (result, records) ∧
        converter.convertEvent id followed = .ok (result', records') ∧
        result.text.isSome = true ∧ result'.text = result.text) ∧
    ∀ (objects : List (List (Text × Json))) raw,
      RawRow.readAll raw = .ok (routeRow character indent value ::
        objects.map fun object => copyRow indent (.obj object)) →
      ((∃ failure, converter.convertEvent id raw = .error failure) ↔
        route.steps.length < objects.length ∨
          ∃ (i : Nat) (step : MoveStep) (object : List (Text × Json)),
            route.steps[i]? = some step ∧ objects[i]? = some object ∧
              step.repeatedBy (.obj object) = false) ∧
      ∀ failure, converter.convertEvent id raw = .error failure →
        ∃ fault, failure = .event fault ∧ fault.cause.kind = "DataError" := by
  constructor
  · intro keyed k hk alone followed halone hfollowed
    obtain ⟨objects, hobjects, hrepeated⟩ := MoveRoute.repeatedBy_stored hroute keyed hk
    have hrows : ((MoveRoute.stored value).take k).map (copyRow indent) =
        objects.map fun object => copyRow indent (.obj object) := by
      rw [← hobjects, List.map_map]
      rfl
    rw [hrows] at hfollowed
    have hnone : route.RepeatedBy (([] : List (List (Text × Json))).map .obj) :=
      ⟨by simp, by simp⟩
    obtain ⟨result, records, hresult, htext⟩ :=
      convertEvent_of_repeated converter id hroute hnone halone
    obtain ⟨result', records', hresult', htext'⟩ :=
      convertEvent_of_repeated converter id hroute hrepeated hfollowed
    exact ⟨result, records, result', records', hresult, hresult', by simp [htext],
      htext'.trans htext.symm⟩
  · intro objects raw hread
    have hfails : ∀ failure, converter.convertEvent id raw = .error failure →
        ¬route.RepeatedBy (objects.map .obj) := by
      intro failure hfailure hrepeated
      obtain ⟨result, records, hresult, -⟩ :=
        convertEvent_of_repeated converter id hroute hrepeated hread
      rw [hresult] at hfailure
      cases hfailure
    rw [← MoveRoute.not_repeatedBy]
    refine ⟨⟨fun ⟨failure, hfailure⟩ => hfails failure hfailure, ?_⟩, ?_⟩
    · intro hnot
      obtain ⟨fault, hfault, -⟩ := convertEvent_of_not_repeated converter id hroute hnot hread
      exact ⟨_, hfault⟩
    · intro failure hfailure
      obtain ⟨fault, hfault, hkind⟩ :=
        convertEvent_of_not_repeated converter id hroute (hfails failure hfailure) hread
      rw [hfailure] at hfault
      exact ⟨fault, Except.error.inj hfault, hkind⟩

/-- A route of two steps: the first has null for its parameters, the second an object among them. -/
def bellRoute : Json :=
  .obj [("list", .arr
      [.obj [("code", .int 1), ("parameters", .null)],
       .obj [("code", .int 44), ("indent", .int 2), ("parameters",
         .arr [.obj [("pan", .float (.finite false 1 (-1))), ("name", .str "Bell")]])]]),
    ("repeat", .bool false), ("skippable", .bool true), ("wait", .bool true)]

lemma keyed_bellRoute : bellRoute.Keyed := by
  refine .obj (by decide) ?_
  simp only [List.forall_mem_cons, List.not_mem_nil, IsEmpty.forall_iff, implies_true, and_true]
  refine ⟨.arr ?_, .bool _, .bool _, .bool _⟩
  simp only [List.forall_mem_cons, List.not_mem_nil, IsEmpty.forall_iff, implies_true, and_true]
  refine ⟨.obj (by decide) ?_, .obj (by decide) ?_⟩
  · simpa using ⟨Json.Keyed.int 1, Json.Keyed.null⟩
  · simp only [List.forall_mem_cons, List.not_mem_nil, IsEmpty.forall_iff, implies_true, and_true]
    refine ⟨.int 44, .int 2, .arr ?_⟩
    simp only [List.forall_mem_cons, List.not_mem_nil, IsEmpty.forall_iff, implies_true, and_true]
    refine .obj (by decide) ?_
    simpa using ⟨Json.Keyed.float _, Json.Keyed.str "Bell"⟩

theorem convertEvent_route_bell :
    ∃ route, MoveRoute.ofJson bellRoute = .ok route ∧ bellRoute.Keyed ∧ route.steps.length = 2 ∧
      (∃ result records result' records',
        ({ variant := .mz } : Converter).convertEvent (.value .null)
          [.ready (routeRow (-1) 3 bellRoute)] = .ok (result, records) ∧
        ({ variant := .mz } : Converter).convertEvent (.value .null)
          (.ready (routeRow (-1) 3 bellRoute) ::
            ((MoveRoute.stored bellRoute).take 2).map fun copy => .ready (copyRow 3 copy)) =
          .ok (result', records') ∧ result'.text = result.text) ∧
      ∃ fault, ({ variant := .mz } : Converter).convertEvent (.value .null)
          [.ready (routeRow (-1) 3 bellRoute), .ready (copyRow 3 (.obj [("code", .int 44)]))] =
        .error (.event fault) ∧ fault.cause.kind = "DataError" := by
  have hroute : MoveRoute.ofJson bellRoute = .ok _ := rfl
  obtain ⟨hsame, hfails⟩ := convertEvent_route { variant := .mz } (.value .null) (-1) 3 hroute
  obtain ⟨result, records, result', records', hresult, hresult', -, htext⟩ :=
    hsame keyed_bellRoute 2 (by decide) [.ready (routeRow (-1) 3 bellRoute)]
      (.ready (routeRow (-1) 3 bellRoute) ::
        ((MoveRoute.stored bellRoute).take 2).map fun copy => .ready (copyRow 3 copy)) rfl rfl
  obtain ⟨hiff, hkind⟩ := hfails [[("code", .int 44)]]
    [.ready (routeRow (-1) 3 bellRoute), .ready (copyRow 3 (.obj [("code", .int 44)]))] rfl
  obtain ⟨failure, hfailure⟩ := hiff.2 (.inr ⟨0, _, _, rfl, rfl, rfl⟩)
  obtain ⟨fault, rfl, hcause⟩ := hkind failure hfailure
  exact ⟨_, hroute, keyed_bellRoute, rfl,
    ⟨result, records, result', records', hresult, hresult', htext⟩, fault, hfailure, hcause⟩

end Converter

end EventScript
