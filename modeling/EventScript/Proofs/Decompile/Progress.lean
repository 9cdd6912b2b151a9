import EventScript.Decompile.Actor
import EventScript.Proofs.Decompile.Message
import EventScript.Proofs.Decompile.Value

/-! The handlers of commands that change the state of the game, and of those about battles and
actors. -/
namespace EventScript

namespace Decompile

open Operands

variable {context : Context} {entry : Entry} {layout : Layout} {operands : Operands}

lemma commonEvent_writes (decoded : Decoded [.int "common_event_id"] operands) :
    Writes (commonEvent context entry operands) := by
  obtain ⟨id, hid⟩ := decoded.int "common_event_id" (by simp)
  simp [commonEvent, hid]

/-- A range of ids is refused only if it ends before it starts. -/
lemma idRange_yields {first last : Int} (hfirst : operands.int "start_id" = .ok first)
    (hlast : operands.int "end_id" = .ok last) : Yields (fun _ => True) (idRange operands) := by
  simp only [idRange, hfirst, hlast, ok_bind]
  split_ifs <;> simp

/-- Switches are written one by one, unless their range is refused. -/
lemma controlSwitches_writes
    (decoded : Decoded [.int "start_id", .int "end_id", Catalog.binary "is_off"] operands) :
    Writes (controlSwitches context entry operands) := by
  obtain ⟨first, hfirst⟩ := decoded.int "start_id" (by simp)
  obtain ⟨last, hlast⟩ := decoded.int "end_id" (by simp)
  obtain ⟨isOff, hisOff⟩ := decoded.flag "is_off" (by simp)
  simp only [controlSwitches, hisOff, ok_bind]
  exact (idRange_yields hfirst hlast).bind fun ids _ => by simp

/-- The operators that the catalogue offers are all known. -/
lemma assignOperator_ok {word : String} (h : word ∈ ["=", "+=", "-=", "*=", "/=", "%="]) :
    ∃ operator, assignOperator word = .ok operator := by
  simp only [List.mem_cons, List.not_mem_nil, or_false] at h
  rcases h with rfl | rfl | rfl | rfl | rfl | rfl <;> simp [assignOperator]

/-- The range of the variables is all that can be refused: the operator and the operand are among the
declared ones. -/
lemma controlVariables_writes
    (decoded : Decoded [.int "start_id", .int "end_id",
      .member "operation" (Catalog.members ["=", "+=", "-=", "*=", "/=", "%="]),
      .tagged "operand" Catalog.variableOperands] operands) :
    Writes (controlVariables context entry operands) := by
  obtain ⟨first, hfirst⟩ := decoded.int "start_id" (by simp)
  obtain ⟨last, hlast⟩ := decoded.int "end_id" (by simp)
  obtain ⟨word, hword, hoperation⟩ :=
    decoded.memberOf "operation" ["=", "+=", "-=", "*=", "/=", "%="] (by simp)
  obtain ⟨operator, hoperator⟩ := assignOperator_ok hword
  obtain ⟨_, tag, _, operand, hcase, hoperand, htagged⟩ :=
    decoded.tagged "operand" Catalog.variableOperands (by simp)
  obtain ⟨value, hvalue⟩ := Context.variableOperand_ok context hcase hoperand
  simp only [controlVariables, hoperation, hoperator, htagged, hvalue, ok_bind]
  exact (idRange_yields hfirst hlast).bind fun ids _ => by simp

lemma controlSelfSwitch_writes
    (decoded : Decoded [Catalog.text "key", Catalog.binary "is_off"] operands) :
    Writes (controlSelfSwitch context entry operands) := by
  obtain ⟨key, hkey⟩ := decoded.value "key" (by simp)
  obtain ⟨isOff, hisOff⟩ := decoded.flag "is_off" (by simp)
  simp [controlSelfSwitch, hkey, hisOff]

/-- A timer that is stopped reads no seconds, which its layout leaves unused. -/
lemma controlTimer_writes
    (decoded : Decoded [.tagged "operation" (Catalog.cases
      [("start", [.int "seconds"]), ("stop", [.unused "seconds"])])] operands) :
    Writes (controlTimer context entry operands) := by
  obtain ⟨_, tag, _, operation, hcase, hoperation, htagged⟩ :=
    decoded.tagged "operation" (Catalog.cases
      [("start", [.int "seconds"]), ("stop", [.unused "seconds"])]) (by simp)
  obtain ⟨word, hmem, rfl⟩ := Catalog.mem_cases hcase
  simp only [List.mem_cons, Prod.mk.injEq, List.not_mem_nil, or_false] at hmem
  rcases hmem with ⟨rfl, rfl⟩ | ⟨rfl, rfl⟩
  · obtain ⟨seconds, hseconds⟩ := hoperation.value "seconds" (by simp)
    simp [controlTimer, htagged, hseconds]
  · simp [controlTimer, htagged]

lemma changeGold_writes
    (decoded : Decoded ([Catalog.change] ++ Slot.referencePair "value") operands) :
    Writes (changeGold context entry operands) := by
  obtain ⟨word, hword⟩ := decoded.member "operation" (by simp)
  obtain ⟨amount, hamount⟩ := decoded.amount "value" (by simp)
  simp [changeGold, isDecrease, hword, hamount]

/-- Items, weapons and armors: whether equipped ones count may be missing, so nothing is asked of it. -/
lemma changeInventory_writes (path key : String) (category : Category) {id : String}
    (decoded : Decoded layout operands)
    (hid : Slot.offers layout id Slot.givesInt = true)
    (hoperation : Slot.offers layout "operation" Slot.givesMember = true)
    (hvalue : Slot.offers layout "value" Slot.givesAmount = true) :
    Writes (changeInventory path key category id context entry operands) := by
  obtain ⟨item, hitem⟩ := decoded.int id hid
  obtain ⟨word, hword⟩ := decoded.member "operation" hoperation
  obtain ⟨amount, hamount⟩ := decoded.amount "value" hvalue
  simp [changeInventory, isDecrease, hitem, hword, hamount]

/-- Whether a member starts anew is read only if the member joins, but is there in either case. -/
lemma changePartyMember_writes
    (decoded : Decoded [.int "actor_id", Catalog.addition, Catalog.flag "initialize"] operands) :
    Writes (changePartyMember context entry operands) := by
  obtain ⟨actor, hactor⟩ := decoded.int "actor_id" (by simp)
  obtain ⟨word, hword⟩ := decoded.member "operation" (by simp)
  obtain ⟨isNew, hisNew⟩ := decoded.value "initialize" (by simp)
  simp only [changePartyMember, hactor, hword, hisNew, ok_bind]
  split <;> simp

lemma changeSaveAccess_writes (decoded : Decoded [Catalog.binary "is_enabled"] operands) :
    Writes (changeSaveAccess context entry operands) := by
  obtain ⟨isEnabled, hisEnabled⟩ := decoded.flag "is_enabled" (by simp)
  simp [changeSaveAccess, hisEnabled]

/-- The two generations of the command differ in the words for a troop, of which each has an
expression. -/
lemma battleProcessing_writes (extra : List String)
    (decoded : Decoded (Catalog.battleProcessing extra).layout operands) :
    Writes (battleProcessing context entry operands) := by
  obtain ⟨id, hid⟩ := decoded.int "troop_id" (by simp [Catalog.battleProcessing])
  obtain ⟨word, hword⟩ := decoded.member "troop_kind" (by simp [Catalog.battleProcessing])
  obtain ⟨escape, hescape⟩ := decoded.value "can_escape" (by simp [Catalog.battleProcessing])
  obtain ⟨lose, hlose⟩ := decoded.value "can_lose" (by simp [Catalog.battleProcessing])
  simp [battleProcessing, hid, hword, hescape, hlose]

lemma nameInputProcessing_writes (decoded : Decoded [.int "actor_id", .int "max_length"] operands) :
    Writes (nameInputProcessing context entry operands) := by
  obtain ⟨actor, hactor⟩ := decoded.int "actor_id" (by simp)
  obtain ⟨most, hmost⟩ := decoded.value "max_length" (by simp)
  simp [nameInputProcessing, hactor, hmost]

/-- Hit points, magic points and levels: a flag is asked for only where the command has one. -/
lemma changeActorValue_writes (path : String) {flag : Option String}
    (decoded : Decoded layout operands)
    (hactor : Slot.offers layout "actor_id" Slot.givesAmount = true)
    (hoperation : Slot.offers layout "operation" Slot.givesMember = true)
    (hvalue : Slot.offers layout "value" Slot.givesAmount = true)
    (hflag : ∀ word ∈ flag, Slot.offers layout word Slot.givesValue = true) :
    Writes (changeActorValue path flag context entry operands) := by
  obtain ⟨actor, hactor⟩ := decoded.amount "actor_id" hactor
  obtain ⟨word, hword⟩ := decoded.member "operation" hoperation
  obtain ⟨amount, hamount⟩ := decoded.amount "value" hvalue
  cases flag with
  | none => simp [changeActorValue, isDecrease, hactor, hword, hamount]
  | some flag =>
    obtain ⟨given, hgiven⟩ := decoded.value flag (hflag flag rfl)
    simp [changeActorValue, isDecrease, hactor, hword, hamount, hgiven]

lemma changeState_writes
    (decoded : Decoded (Catalog.actorTarget ++ [Catalog.addition, .int "state_id"]) operands) :
    Writes (changeState context entry operands) := by
  obtain ⟨actor, hactor⟩ := decoded.amount "actor_id" (by simp [Catalog.actorTarget])
  obtain ⟨word, hword⟩ := decoded.member "operation" (by simp [Catalog.actorTarget])
  obtain ⟨state, hstate⟩ := decoded.int "state_id" (by simp [Catalog.actorTarget])
  simp [changeState, hactor, hword, hstate]

lemma changeSkill_writes
    (decoded : Decoded (Catalog.actorTarget ++
      [.member "operation" (Catalog.members ["learn", "forget"]), .int "skill_id"]) operands) :
    Writes (changeSkill context entry operands) := by
  obtain ⟨actor, hactor⟩ := decoded.amount "actor_id" (by simp [Catalog.actorTarget])
  obtain ⟨word, hword⟩ := decoded.member "operation" (by simp [Catalog.actorTarget])
  obtain ⟨skill, hskill⟩ := decoded.int "skill_id" (by simp [Catalog.actorTarget])
  simp [changeSkill, hactor, hword, hskill]

lemma changeEquipment_writes
    (decoded : Decoded [.int "actor_id", .int "equip_type_id", .int "item_id"] operands) :
    Writes (changeEquipment context entry operands) := by
  obtain ⟨actor, hactor⟩ := decoded.int "actor_id" (by simp)
  obtain ⟨slot, hslot⟩ := decoded.int "equip_type_id" (by simp)
  obtain ⟨item, hitem⟩ := decoded.int "item_id" (by simp)
  simp [changeEquipment, hactor, hslot, hitem]

lemma changeClass_writes
    (decoded : Decoded [.int "actor_id", .int "class_id", Catalog.flag "keep_exp"] operands) :
    Writes (changeClass context entry operands) := by
  obtain ⟨actor, hactor⟩ := decoded.int "actor_id" (by simp)
  obtain ⟨klass, hklass⟩ := decoded.int "class_id" (by simp)
  obtain ⟨keep, hkeep⟩ := decoded.value "keep_exp" (by simp)
  simp [changeClass, hactor, hklass, hkeep]

lemma changeActorImages_writes
    (decoded : Decoded [.int "actor_id", Catalog.text "character_name", .int "character_index",
      Catalog.text "face_name", .int "face_index", Catalog.text "battler_name"] operands) :
    Writes (changeActorImages context entry operands) := by
  obtain ⟨actor, hactor⟩ := decoded.int "actor_id" (by simp)
  obtain ⟨images, himages⟩ := fields_ok decoded
    ["character_name", "character_index", "face_name", "face_index", "battler_name"] (by simp)
  simp only [changeActorImages, hactor, himages, ok_bind]
  simp

lemma forceAction_writes
    (decoded : Decoded [.member "subject_kind" (Catalog.members ["enemy", "actor"]),
      .int "subject_id", .int "skill_id", .int "target_index"] operands) :
    Writes (forceAction context entry operands) := by
  obtain ⟨id, hid⟩ := decoded.int "subject_id" (by simp)
  obtain ⟨word, hword⟩ := decoded.member "subject_kind" (by simp)
  obtain ⟨skill, hskill⟩ := decoded.int "skill_id" (by simp)
  obtain ⟨target, htarget⟩ := decoded.value "target_index" (by simp)
  simp [forceAction, hid, hword, hskill, htarget]

end Decompile

end EventScript
