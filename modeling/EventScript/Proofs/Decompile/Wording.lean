import EventScript.Decompile.Leaf
import EventScript.Proofs.Decompile.Message
import EventScript.Proofs.Decompile.Vocabulary

/-! Whatever the handlers of commands return is proper, with the names of a valid table and operands
whose words the catalogue declares. -/
namespace EventScript

namespace Decompile

open Operands Text

/-! Values, places and conditions. -/

lemma proper_enemy (index : Int) : (enemy index).Proper :=
  .subscript (proper_dotted (by simp)) (proper_number index)

lemma proper_parameter {target : Expr} (htarget : target.Proper) (index : Nat) :
    (parameter target index).Proper :=
  proper_call (.field htarget (solid_ofString (by decide))) (by simp) words_nil

/-- Operators that are written in the handlers, or are words of the catalogue, are printable. -/
lemma proper_binary {left right : Expr} (hleft : left.Proper) {word : String}
    (hword : isSolid word = true) (hright : right.Proper) :
    (Expr.binary left (ofString word) right).Proper :=
  .binary hleft (solid_ofString hword).printable hright

lemma proper_negatedIf {e : Expr} (h : e.Proper) (isOff : Bool) : (negatedIf isOff e).Proper := by
  unfold negatedIf
  split_ifs
  · exact .unary (by simp) h
  · exact h

lemma otherData_proper (word : String) : Returns Expr.Proper (otherData word) := by
  unfold otherData
  split <;> simp

namespace Context

variable {context : Context} (valid : context.names.Valid) {operands : Operands}

include valid

/-- Attributes are named by words of the operands; these are solid, since the operands are worded. -/
lemma gameData_proper (worded : operands.Worded) (tag : String) :
    Returns Expr.Proper (context.gameData tag operands) := by
  unfold gameData
  split
  · simp [proper_named valid]
  · simp [proper_named valid]
  · simp [proper_named valid]
  · refine returns_bind fun id => (worded.member "check").bind fun check hcheck => ?_
    have hactor := proper_named valid .actors id
    split_ifs
    · exact proper_field hactor hcheck
    · split
      · exact proper_parameter hactor _
      · trivial
  · refine returns_bind fun index => (worded.member "check").bind fun check hcheck => ?_
    split
    · exact proper_parameter (proper_enemy index) _
    · exact proper_field (proper_enemy index) hcheck
  · refine returns_bind fun id => (worded.member "check").bind fun check hcheck => ?_
    exact proper_field (proper_character id) hcheck
  · refine returns_bind fun index => ?_
    exact proper_field (.subscript (proper_dotted (by simp)) (proper_number index)) (by decide)
  · exact returns_bind otherData_proper

lemma variableOperand_proper (worded : operands.Worded) (tag : String) :
    Returns Expr.Proper (context.variableOperand tag operands) := by
  unfold variableOperand
  split
  · simp
  · simp [variableNamed, proper_named valid]
  · simp
  · simp
  · refine (worded.tagged "data").bind ?_
    rintro ⟨kind, data⟩ hdata
    exact gameData_proper valid hdata kind

/-- A place becomes two keyword arguments, both of them known. -/
lemma location_words (tag : String) (place : Operands) :
    Returns Words (context.location tag place) := by
  unfold location
  split
  · simp
  · simp [variableNamed, proper_named valid]
  · refine returns_bind fun id => ?_
    have hfield (word : String) (hword : isSolid word = true) :=
      proper_field (proper_character id) hword
    simpa using ⟨hfield "map_x" (by decide), hfield "map_y" (by decide)⟩

lemma actorCondition_proper (id : Int) (tag : String) (check : Operands) :
    Returns Expr.Proper (context.actorCondition id tag check) := by
  have hactor := proper_named valid .actors id
  unfold actorCondition
  split
  · simp [hactor]
  · refine returns_bind fun value => ?_
    exact proper_binary (proper_field hactor (by decide)) (by decide) (proper_literal value)
  · unfold actorProperty
    split <;> simp [hactor, proper_named valid, isSolid]

lemma enemyCondition_proper (index : Int) (tag : String) (check : Operands) :
    Returns Expr.Proper (context.enemyCondition index tag check) := by
  unfold enemyCondition
  split <;> simp [proper_enemy, proper_named valid, isSolid]

/-- Comparisons are words of the operands, the other operators are fixed. -/
lemma condition_proper (worded : operands.Worded) (tag : String) :
    Returns Expr.Proper (context.condition tag operands) := by
  unfold condition
  split
  · simp [proper_negatedIf, proper_named valid]
  · refine returns_bind fun id => (worded.member "comparison").bind fun word hword =>
      returns_bind fun amount => ?_
    exact proper_binary (proper_named valid _ id) hword (proper_amount valid amount)
  · refine returns_bind fun key => returns_bind fun isOff => proper_negatedIf ?_ isOff
    simp
  · refine (worded.member "comparison").bind fun word hword => returns_bind fun seconds => ?_
    exact proper_binary (proper_invoke (by simp) words_nil) hword (proper_literal seconds)
  · refine returns_bind fun check => returns_bind fun id => ?_
    exact actorCondition_proper valid id _ _
  · refine returns_bind fun check => returns_bind fun index => ?_
    exact enemyCondition_proper valid index _ _
  · refine returns_bind fun id => returns_bind fun direction => ?_
    exact proper_binary (proper_field (proper_character id) (by decide)) (by decide)
      (proper_literal direction)
  · refine (worded.member "comparison").bind fun word hword => returns_bind fun amount => ?_
    exact proper_binary (proper_dotted (by simp)) hword (proper_literal amount)
  · simp [proper_named valid]
  · simp [proper_named valid]
  · simp [proper_named valid]
  · simp
  · simp

end Context

/-! Handlers. -/

/-- What is asked of a handler's statements. -/
abbrev WritesProper (x : Except Fault (List Stmt)) : Prop :=
  Returns (fun stmts => ∀ stmt ∈ stmts, stmt.Proper) x

variable {context : Context} {entry : Entry} {operands : Operands}

/-- Operands that are passed on under their own names become keyword arguments, as long as these names
are known. -/
lemma fields_words {fields : List String} (h : ∀ field ∈ fields, field ∈ argumentNames) :
    Returns Words (fields.mapM fun field => do
      return (field, Expr.literal (← operands.value field))) := by
  refine ends_mapM fun field hmem => returns_bind fun value => ?_
  exact ⟨h field hmem, proper_literal value⟩

lemma plainCall_proper {path : String} (hpath : path ∈ paths) :
    WritesProper (plainCall path context entry operands) := by
  simpa [plainCall] using proper_perform hpath words_nil

lemma fieldCall_proper {path : String} (hpath : path ∈ paths) {fields : List String}
    (h : ∀ field ∈ fields, field ∈ argumentNames) :
    WritesProper (fieldCall path fields context entry operands) := by
  refine (fields_words h).bind fun keywords hkeywords => ?_
  simpa using proper_perform hpath hkeywords

lemma showText_proper : WritesProper (showText context entry operands) := by
  refine (fields_words (by simp)).bind fun fields hfields => returns_bind fun text => ?_
  split <;> simp [hfields]

lemma showScrollingText_proper : WritesProper (showScrollingText context entry operands) := by
  simp [showScrollingText]

/-- A comment may hold any text, and anything else is refused. -/
lemma comment_proper : WritesProper (comment context entry operands) := by
  refine returns_bind fun texts => ends_mapM fun text _ => ?_
  cases text with
  | str t => exact .comment t
  | _ => trivial

lemma script_proper : WritesProper (script context entry operands) := by
  simp [script]

/-- The words of a plugin command are literals, so nothing is asked of them. -/
lemma pluginCommand_proper : WritesProper (pluginCommand context entry operands) := by
  refine returns_bind fun command => ?_
  simpa using proper_performPath (by simp) (by simp)

lemma pluginCall_proper : WritesProper (pluginCall context entry operands) := by
  simp [pluginCall]

variable (valid : context.names.Valid)

include valid

/-- Things with a name can be assigned to: their names start a line. -/
lemma proper_assign_named (category : Category) (id : Int) {value : Expr} (hvalue : value.Proper)
    {operator : Text} (hoperator : Printable operator) :
    (Stmt.assign (context.named category id) value operator).Proper :=
  .assign (Context.proper_named valid category id) (Context.headed_named valid category id)
    hoperator hvalue

/-- The path of this call is no fixed one but the name of the event, which is valid with the table. -/
lemma commonEvent_proper : WritesProper (commonEvent context entry operands) := by
  refine returns_bind fun id => ?_
  obtain ⟨hproper, hheaded⟩ := Expr.proper_dotted_name (valid .commonEvents id)
  exact List.forall_mem_singleton.2 (.call (.call hproper (by simp) (by simp) (by simp)) hheaded)

lemma controlSwitches_proper : WritesProper (controlSwitches context entry operands) := by
  refine returns_bind fun isOff => returns_bind fun ids => ?_
  refine List.forall_mem_map.2 fun id _ => ?_
  exact proper_assign_named valid _ id (proper_truth _) (printable_ofString (by decide))

omit valid in
/-- A word that is no operator is not written, so nothing is asked of it. -/
lemma assignOperator_printable (word : String) : Returns Printable (assignOperator word) := by
  have hplain : ∀ word ∈ ["=", "+=", "-=", "*=", "%="], isPlain word = true := by decide
  unfold assignOperator
  split_ifs with hword
  · exact printable_ofString (hplain word hword)
  · exact printable_ofString (by decide)
  · trivial

lemma controlVariables_proper (worded : operands.Worded) :
    WritesProper (controlVariables context entry operands) := by
  refine returns_bind fun word => (assignOperator_printable word).bind fun operator hoperator => ?_
  refine (worded.tagged "operand").bind fun ⟨tag, operand⟩ hoperand => ?_
  refine (Context.variableOperand_proper valid hoperand tag).bind fun value hvalue => ?_
  refine returns_bind fun ids => List.forall_mem_map.2 fun id _ => ?_
  exact proper_assign_named valid _ id hvalue hoperator

omit valid in
/-- The target is no attribute but an entry, so that it has to be shown to start a line as well. -/
lemma controlSelfSwitch_proper : WritesProper (controlSelfSwitch context entry operands) := by
  refine returns_bind fun key => returns_bind fun isOff => ?_
  have hname : isName "game_self_switches" = true := isName_thing (by simp)
  have hheaded : (Expr.subscript (name "game_self_switches") (.literal key)).render.Headed := by
    rw [Expr.render, List.append_assoc, List.append_assoc]
    exact (headed_of_isName hname).mark "[" (by simp [marks]) _
  exact List.forall_mem_singleton.2 (.assign (.subscript (.name hname) (.literal key)) hheaded
    (printable_ofString (by decide)) (proper_truth _))

omit valid in
lemma controlTimer_proper : WritesProper (controlTimer context entry operands) := by
  refine returns_bind fun operation => ?_
  split <;> simp

lemma changeGold_proper : WritesProper (changeGold context entry operands) := by
  refine returns_bind fun isDecrease => returns_bind fun amount => ?_
  have hoperator : Printable (if isDecrease then ofString "-=" else ofString "+=") := by
    split_ifs <;> exact printable_ofString (by decide)
  exact List.forall_mem_singleton.2 (.assign (proper_dotted (by simp)) (headed_dotted (by simp))
    hoperator (Context.proper_amount valid amount))

/-- One lemma for items, weapons and armors, which differ by the path, the keyword and the category. -/
lemma changeInventory_proper {path key id : String} (hpath : path ∈ paths)
    (hkey : key ∈ argumentNames) (category : Category) :
    WritesProper (changeInventory path key category id context entry operands) := by
  refine returns_bind fun item => returns_bind fun amount => returns_bind fun isDecrease => ?_
  have hwords : Words [(key, context.named category item),
      ("value", context.signedAmount amount isDecrease)] := by
    refine (words_cons _ _ _).2 ⟨⟨hkey, Context.proper_named valid category item⟩, ?_⟩
    simp [Context.proper_signedAmount valid amount isDecrease]
  refine List.forall_mem_singleton.2 (proper_perform hpath ?_)
  rw [words_append]
  refine ⟨hwords, ?_⟩
  split <;> simp

lemma changePartyMember_proper : WritesProper (changePartyMember context entry operands) := by
  refine returns_bind fun id => returns_bind fun word => ?_
  have hactor := Context.proper_named valid .actors id
  split <;> simp [hactor]

omit valid in
lemma changeSaveAccess_proper : WritesProper (changeSaveAccess context entry operands) := by
  refine returns_bind fun isEnabled => ?_
  split_ifs <;> simp

/-- A troop is a name or a number; the keyword follows from that. -/
lemma battleProcessing_proper : WritesProper (battleProcessing context entry operands) := by
  refine returns_bind fun id => returns_bind fun kind => returns_bind fun escape =>
    returns_bind fun lose => ?_
  split <;> simp [Context.variableNamed, Context.proper_named valid]

lemma nameInputProcessing_proper :
    WritesProper (nameInputProcessing context entry operands) := by
  simp [nameInputProcessing, Context.proper_named valid]

/-- The keyword for an actor depends on how the actor is given; either one is known. -/
lemma words_target {a : Amount} {keywords : List (String × Expr)} (h : Words keywords) :
    Words (context.actorTarget a :: keywords) := by
  rw [← List.singleton_append, words_append]
  exact ⟨Context.words_actorTarget valid a, h⟩

/-- One lemma for hit points, magic points and levels, with a flag or without one. -/
lemma changeActorValue_proper {path : String} (hpath : path ∈ paths) {flag : Option String}
    (hflag : ∀ word ∈ flag, word ∈ argumentNames) :
    WritesProper (changeActorValue path flag context entry operands) := by
  refine returns_bind fun actor => returns_bind fun amount => returns_bind fun isDecrease => ?_
  have hvalue := Context.proper_signedAmount valid amount isDecrease
  cases flag with
  | none =>
    refine List.forall_mem_singleton.2 (proper_perform hpath (words_target valid ?_))
    simp [hvalue]
  | some flag =>
    refine returns_bind fun given => ?_
    refine List.forall_mem_singleton.2 (proper_perform hpath (words_target valid ?_))
    refine (words_cons _ _ _).2 ⟨⟨by simp, hvalue⟩, ?_⟩
    exact (words_cons _ _ _).2 ⟨⟨hflag flag rfl, proper_literal given⟩, words_nil⟩

lemma changeState_proper : WritesProper (changeState context entry operands) := by
  refine returns_bind fun actor => returns_bind fun word => returns_bind fun state => ?_
  refine List.forall_mem_singleton.2 (proper_perform ?_ (words_target valid ?_))
  · split_ifs <;> simp
  · simp [Context.proper_named valid]

lemma changeSkill_proper : WritesProper (changeSkill context entry operands) := by
  refine returns_bind fun actor => returns_bind fun word => returns_bind fun skill => ?_
  refine List.forall_mem_singleton.2 (proper_perform ?_ (words_target valid ?_))
  · split_ifs <;> simp
  · simp [Context.proper_named valid]

/-- Taking something off is written as nothing in its place, which needs no name. -/
lemma changeEquipment_proper : WritesProper (changeEquipment context entry operands) := by
  refine returns_bind fun slot => returns_bind fun id => returns_bind fun actor => ?_
  have hitem : (if id = 0 then Expr.literal .null
      else context.named (if slot = 1 then .weapons else .armors) id).Proper := by
    split_ifs <;> simp [Context.proper_named valid]
  simp [hitem, Context.proper_named valid]

lemma changeClass_proper : WritesProper (changeClass context entry operands) := by
  simp [changeClass, Context.proper_named valid]

lemma changeActorImages_proper : WritesProper (changeActorImages context entry operands) := by
  refine returns_bind fun actor => (fields_words (by simp)).bind fun images himages => ?_
  simp [himages, Context.proper_named valid]

lemma forceAction_proper : WritesProper (forceAction context entry operands) := by
  refine returns_bind fun id => returns_bind fun kind => returns_bind fun skill =>
    returns_bind fun target => ?_
  split <;> simp [Context.proper_named valid]

lemma transferPlayer_proper : WritesProper (transferPlayer context entry operands) := by
  refine returns_bind fun map => returns_bind fun x => returns_bind fun y =>
    returns_bind fun direction => returns_bind fun fade => ?_
  split_ifs <;> simp [Context.proper_named valid, Context.proper_amount valid]

/-- Two characters that change places are the one case that is no place on the map. -/
lemma setEventLocation_proper : WritesProper (setEventLocation context entry operands) := by
  refine returns_bind fun moved => returns_bind fun facing => returns_bind fun ⟨tag, place⟩ => ?_
  have hfacing : (direction facing).Proper := by
    unfold direction
    split_ifs <;> simp
  have hmain {target : List (String × Expr)} (htarget : Words target) :
      WritesProper (.ok (perform "set_event_location"
        ([("character", character moved)] ++ target ++ [("direction", direction facing)]))) := by
    simp [htarget, hfacing]
  dsimp only
  split
  · exact returns_bind fun other => hmain (by simp)
  · exact (Context.location_words valid tag place).bind fun target htarget => hmain htarget

omit valid in
lemma proper_moveStep (step : MoveStep) : (moveStep step).Proper := by
  unfold moveStep
  split <;> simp

omit valid in
/-- The rows behind the command are compared with the steps but not written. -/
lemma setMovementRoute_proper : WritesProper (setMovementRoute context entry operands) := by
  refine returns_bind fun route => returns_bind fun rows => ?_
  have hsteps : (Expr.list (route.steps.map moveStep)).Proper :=
    .list (List.forall_mem_map.2 fun step _ => proper_moveStep step)
  split_ifs
  · trivial
  · refine returns_bind fun _ => returns_bind fun id => ?_
    simp [hsteps]

omit valid in
lemma changeTransparency_proper : WritesProper (changeTransparency context entry operands) := by
  simp [changeTransparency]

omit valid in
lemma changePlayerFollowers_proper :
    WritesProper (changePlayerFollowers context entry operands) := by
  refine returns_bind fun isOff => ?_
  split_ifs <;> simp

omit valid in
/-- Animations and balloons: the keyword for what is shown is the word of its operand. -/
lemma characterEffect_proper {path id : String} (hpath : path ∈ paths)
    (hid : id ∈ argumentNames) : WritesProper (characterEffect path id context entry operands) := by
  refine returns_bind fun target => returns_bind fun value => returns_bind fun wait => ?_
  refine List.forall_mem_singleton.2 (proper_perform hpath ?_)
  refine (words_cons _ _ _).2 ⟨⟨by simp, proper_character target⟩, ?_⟩
  refine (words_cons _ _ _).2 ⟨⟨hid, proper_literal value⟩, ?_⟩
  simp

omit valid in
/-- The functions that answer questions about a place are known ones. -/
lemma locationQuery_path (word : String) :
    Returns (fun query => query.1 ∈ paths) (locationQuery word) := by
  unfold locationQuery
  split <;> simp

lemma getLocationInfo_proper : WritesProper (getLocationInfo context entry operands) := by
  refine returns_bind fun word => (locationQuery_path word).bind fun ⟨path, layer⟩ hpath => ?_
  refine returns_bind fun ⟨tag, place⟩ => ?_
  refine (Context.location_words valid tag place).bind fun keywords hkeywords => ?_
  refine returns_bind fun id => List.forall_mem_singleton.2 ?_
  refine proper_assign_named valid _ id (proper_invoke hpath ?_) (printable_ofString (by decide))
  rw [words_append]
  refine ⟨hkeywords, ?_⟩
  split <;> simp

/-- What showing and moving a picture share. -/
lemma picture_words : Returns Words (picture context operands) := by
  simp [picture, Context.proper_amount valid]

lemma showPicture_proper : WritesProper (showPicture context entry operands) := by
  refine returns_bind fun id => returns_bind fun file => (picture_words valid).bind ?_
  intro shown hshown
  simp [hshown]

/-- How a movement is eased is passed on only if it is given. -/
lemma movePicture_proper : WritesProper (movePicture context entry operands) := by
  refine returns_bind fun id => (picture_words valid).bind fun shown hshown => ?_
  refine returns_bind fun duration => returns_bind fun wait => ?_
  split <;> simp [hshown]

omit valid in
lemma playAudio_proper {path : String} (hpath : path ∈ paths) :
    WritesProper (playAudio path context entry operands) := by
  refine returns_bind fun audio => ?_
  refine List.forall_mem_singleton.2 (proper_perform hpath ?_)
  simp

/-! The table of handlers. -/

/-- What is asked of a handler: that its statements are proper, whatever the command. -/
def Phrases (handler : Handler) : Prop :=
  ∀ (context : Context) (entry : Entry) (operands : Operands), context.names.Valid →
    operands.Worded → WritesProper (handler context entry operands)

omit valid in
/-- All handlers but the one that leaves a loop write proper statements. -/
lemma phrases_of_mem :
    ∀ pair ∈ handlers, pair.1 ≠ "BREAK_LOOP" → Phrases pair.2 := by
  simp only [handlers, List.forall_mem_cons, ne_eq, String.reduceEq, not_true_eq_false,
    not_false_eq_true, false_implies, forall_const, true_and, List.not_mem_nil, and_true]
  -- One line for each handler, in the order of the table.
  exact ⟨
    fun _ _ _ _ _ => by simp [nothing],
    fun _ _ _ _ _ => showText_proper,
    fun _ _ _ _ _ => showScrollingText_proper,
    fun _ _ _ _ _ => comment_proper,
    fun _ _ _ _ _ => plainCall_proper (by simp),
    fun _ _ _ valid _ => commonEvent_proper valid,
    fun _ _ _ _ _ => fieldCall_proper (by simp) (by simp),
    fun _ _ _ _ _ => fieldCall_proper (by simp) (by simp),
    fun _ _ _ valid _ => controlSwitches_proper valid,
    fun _ _ _ valid worded => controlVariables_proper valid worded,
    fun _ _ _ _ _ => controlSelfSwitch_proper,
    fun _ _ _ _ _ => controlTimer_proper,
    fun _ _ _ valid _ => changeGold_proper valid,
    fun _ _ _ valid _ => changeInventory_proper valid (by simp) (by simp) _,
    fun _ _ _ valid _ => changeInventory_proper valid (by simp) (by simp) _,
    fun _ _ _ valid _ => changeInventory_proper valid (by simp) (by simp) _,
    fun _ _ _ valid _ => changePartyMember_proper valid,
    fun _ _ _ _ _ => changeSaveAccess_proper,
    fun _ _ _ valid _ => transferPlayer_proper valid,
    fun _ _ _ valid _ => setEventLocation_proper valid,
    fun _ _ _ _ _ => setMovementRoute_proper,
    fun _ _ _ _ _ => changeTransparency_proper,
    fun _ _ _ _ _ => characterEffect_proper (by simp) (by simp),
    fun _ _ _ _ _ => characterEffect_proper (by simp) (by simp),
    fun _ _ _ _ _ => changePlayerFollowers_proper,
    fun _ _ _ _ _ => plainCall_proper (by simp),
    fun _ _ _ _ _ => plainCall_proper (by simp),
    fun _ _ _ _ _ => fieldCall_proper (by simp) (by simp),
    fun _ _ _ _ _ => fieldCall_proper (by simp) (by simp),
    fun _ _ _ _ _ => fieldCall_proper (by simp) (by simp),
    fun _ _ _ _ _ => fieldCall_proper (by simp) (by simp),
    fun _ _ _ valid _ => showPicture_proper valid,
    fun _ _ _ valid _ => movePicture_proper valid,
    fun _ _ _ _ _ => fieldCall_proper (by simp) (by simp),
    fun _ _ _ _ _ => playAudio_proper (by simp),
    fun _ _ _ _ _ => fieldCall_proper (by simp) (by simp),
    fun _ _ _ _ _ => plainCall_proper (by simp),
    fun _ _ _ _ _ => plainCall_proper (by simp),
    fun _ _ _ _ _ => playAudio_proper (by simp),
    fun _ _ _ _ _ => fieldCall_proper (by simp) (by simp),
    fun _ _ _ _ _ => playAudio_proper (by simp),
    fun _ _ _ valid _ => getLocationInfo_proper valid,
    fun _ _ _ valid _ => battleProcessing_proper valid,
    fun _ _ _ valid _ => nameInputProcessing_proper valid,
    fun _ _ _ valid _ => changeActorValue_proper valid (by simp) (by simp),
    fun _ _ _ valid _ => changeActorValue_proper valid (by simp) (by simp),
    fun _ _ _ valid _ => changeState_proper valid,
    fun _ _ _ valid _ => changeActorValue_proper valid (by simp) (by simp),
    fun _ _ _ valid _ => changeSkill_proper valid,
    fun _ _ _ valid _ => changeEquipment_proper valid,
    fun _ _ _ valid _ => changeClass_proper valid,
    fun _ _ _ valid _ => changeActorImages_proper valid,
    fun _ _ _ valid _ => forceAction_proper valid,
    fun _ _ _ _ _ => plainCall_proper (by simp),
    fun _ _ _ _ _ => plainCall_proper (by simp),
    fun _ _ _ _ _ => plainCall_proper (by simp),
    fun _ _ _ _ _ => script_proper,
    fun _ _ _ _ _ => pluginCommand_proper,
    fun _ _ _ _ _ => pluginCall_proper⟩

end Decompile

end EventScript
