import EventScript.Decompile.Condition
import EventScript.Proofs.Command.Access

/-! Expressions for values, places and conditions: every case that a layout declares has one. -/
namespace EventScript

namespace Decompile

open Operands

lemma parameterIndex?_of_mem {word : String} (h : word ∈ Catalog.parameterNames) :
    ∃ index, parameterIndex? word = some index := by
  cases hindex : parameterIndex? word with
  | none => exact absurd h (List.idxOf?_eq_none_iff.1 hindex)
  | some index => exact ⟨index, rfl⟩

/-- Every word that a layout offers for the other numbers of the game has an expression, so the last
alternative is not reached. -/
lemma otherData_ok {word : String}
    (h : word ∈ ["map_id", "party_members", "gold", "steps", "play_time", "timer", "save_count",
      "battle_count", "win_count", "escape_count"]) : ∃ e, otherData word = .ok e := by
  simp only [List.mem_cons, List.not_mem_nil, or_false] at h
  rcases h with rfl | rfl | rfl | rfl | rfl | rfl | rfl | rfl | rfl | rfl <;> exact ⟨_, rfl⟩

namespace Context

variable (context : Context) {discriminant : Int} {tag : Text} {layout : Layout}
  {operands : Operands}

/-- A number of the game has an expression in each case of the catalogue. Only the words of an actor and
of the other numbers need to be known; those of an enemy and a character are attributes at worst. -/
lemma gameData_ok (hcase : Case.mk discriminant tag layout ∈ Catalog.gameData)
    (decoded : Decoded layout operands) :
    ∃ e, context.gameData tag.toString operands = .ok e := by
  obtain ⟨word, hmem, rfl⟩ := Catalog.mem_cases hcase
  simp only [List.mem_cons, Prod.mk.injEq, List.not_mem_nil, or_false] at hmem
  -- The cases stand in the order of the catalogue, here and below.
  rcases hmem with ⟨rfl, rfl⟩ | ⟨rfl, rfl⟩ | ⟨rfl, rfl⟩ | ⟨rfl, rfl⟩ | ⟨rfl, rfl⟩ | ⟨rfl, rfl⟩ |
    ⟨rfl, rfl⟩ | ⟨rfl, rfl⟩
  · obtain ⟨id, hid⟩ := decoded.int "item_id" (by simp)
    simp [gameData, hid]
  · obtain ⟨id, hid⟩ := decoded.int "weapon_id" (by simp)
    simp [gameData, hid]
  · obtain ⟨id, hid⟩ := decoded.int "armor_id" (by simp)
    simp [gameData, hid]
  · obtain ⟨id, hid⟩ := decoded.int "actor_id" (by simp)
    obtain ⟨check, hcheck, hmember⟩ := decoded.memberOf "check"
      (["level", "exp", "hp", "mp"] ++ Catalog.parameterNames) (by simp)
    by_cases hstat : check ∈ ["level", "exp", "hp", "mp"]
    · simp only [Text.toString_ofString, gameData, hid, hmember, ok_bind, if_pos hstat, pure_eq_ok,
        Except.ok.injEq, exists_eq']
    · obtain ⟨index, hindex⟩ :=
        parameterIndex?_of_mem ((List.mem_append.1 hcheck).resolve_left hstat)
      simp only [Text.toString_ofString, gameData, hid, hmember, ok_bind, if_neg hstat, hindex,
        pure_eq_ok, Except.ok.injEq, exists_eq']
  · obtain ⟨index, hindex⟩ := decoded.int "enemy_index" (by simp)
    obtain ⟨check, hcheck⟩ := decoded.member "check" (by simp)
    cases hparameter : parameterIndex? check <;> simp [gameData, hindex, hcheck, hparameter]
  · obtain ⟨id, hid⟩ := decoded.int "character_id" (by simp)
    obtain ⟨check, hcheck⟩ := decoded.member "check" (by simp)
    simp [gameData, hid, hcheck]
  · obtain ⟨index, hindex⟩ := decoded.int "member_index" (by simp)
    simp [gameData, hindex]
  · obtain ⟨check, hcheck, hmember⟩ := decoded.memberOf "check" _ (by simp; rfl)
    obtain ⟨e, he⟩ := otherData_ok hcheck
    exact ⟨e, by simp [gameData, hmember, he]⟩

lemma variableOperand_ok (hcase : Case.mk discriminant tag layout ∈ Catalog.variableOperands)
    (decoded : Decoded layout operands) :
    ∃ e, context.variableOperand tag.toString operands = .ok e := by
  obtain ⟨word, hmem, rfl⟩ := Catalog.mem_cases hcase
  simp only [List.mem_cons, Prod.mk.injEq, List.not_mem_nil, or_false] at hmem
  rcases hmem with ⟨rfl, rfl⟩ | ⟨rfl, rfl⟩ | ⟨rfl, rfl⟩ | ⟨rfl, rfl⟩ | ⟨rfl, rfl⟩
  · obtain ⟨value, hvalue⟩ := decoded.value "value" (by simp)
    simp [variableOperand, hvalue]
  · obtain ⟨id, hid⟩ := decoded.int "variable_id" (by simp)
    simp [variableOperand, hid]
  · obtain ⟨least, hleast⟩ := decoded.value "min" (by simp)
    obtain ⟨most, hmost⟩ := decoded.value "max" (by simp)
    simp [variableOperand, hleast, hmost]
  · obtain ⟨_, kind, _, data, hkind, hdata, htagged⟩ :=
      decoded.tagged "data" Catalog.gameData (by simp)
    obtain ⟨e, he⟩ := gameData_ok context hkind hdata
    exact ⟨e, by simp [variableOperand, htagged, he]⟩
  · obtain ⟨script, hscript⟩ := decoded.value "script" (by simp)
    simp [variableOperand, hscript]

lemma location_ok (hcase : Case.mk discriminant tag layout ∈ Catalog.places)
    (decoded : Decoded layout operands) :
    ∃ keywords, context.location tag.toString operands = .ok keywords := by
  obtain ⟨word, hmem, rfl⟩ := Catalog.mem_cases hcase
  simp only [List.mem_cons, Prod.mk.injEq, List.not_mem_nil, or_false] at hmem
  rcases hmem with ⟨rfl, rfl⟩ | ⟨rfl, rfl⟩ | ⟨rfl, rfl⟩
  · obtain ⟨x, hx⟩ := decoded.value "x" (by simp)
    obtain ⟨y, hy⟩ := decoded.value "y" (by simp)
    simp [location, hx, hy]
  · obtain ⟨x, hx⟩ := decoded.int "x" (by simp)
    obtain ⟨y, hy⟩ := decoded.int "y" (by simp)
    simp [location, hx, hy]
  · obtain ⟨id, hid⟩ := decoded.int "character_id" (by simp)
    simp [location, hid]

/-- The properties of an actor that are compared with something named differ by the word and the
category only, but each reads an id of its own. -/
lemma actorCondition_ok (id : Int)
    (hcase : Case.mk discriminant tag layout ∈ Catalog.actorChecks)
    (decoded : Decoded layout operands) :
    ∃ e, context.actorCondition id tag.toString operands = .ok e := by
  obtain ⟨word, hmem, rfl⟩ := Catalog.mem_cases hcase
  simp only [List.mem_cons, Prod.mk.injEq, List.not_mem_nil, or_false] at hmem
  rcases hmem with ⟨rfl, rfl⟩ | ⟨rfl, rfl⟩ | ⟨rfl, rfl⟩ | ⟨rfl, rfl⟩ | ⟨rfl, rfl⟩ | ⟨rfl, rfl⟩ |
    ⟨rfl, rfl⟩
  · simp [actorCondition]
  · obtain ⟨name, hname⟩ := decoded.value "name" (by simp)
    simp [actorCondition, hname]
  · obtain ⟨id, hid⟩ := decoded.int "class_id" (by simp)
    simp [actorCondition, actorProperty, hid]
  · obtain ⟨id, hid⟩ := decoded.int "skill_id" (by simp)
    simp [actorCondition, actorProperty, hid]
  · obtain ⟨id, hid⟩ := decoded.int "weapon_id" (by simp)
    simp [actorCondition, actorProperty, hid]
  · obtain ⟨id, hid⟩ := decoded.int "armor_id" (by simp)
    simp [actorCondition, actorProperty, hid]
  · obtain ⟨id, hid⟩ := decoded.int "state_id" (by simp)
    simp [actorCondition, actorProperty, hid]

lemma enemyCondition_ok (index : Int)
    (hcase : Case.mk discriminant tag layout ∈ Catalog.enemyChecks)
    (decoded : Decoded layout operands) :
    ∃ e, context.enemyCondition index tag.toString operands = .ok e := by
  obtain ⟨word, hmem, rfl⟩ := Catalog.mem_cases hcase
  simp only [List.mem_cons, Prod.mk.injEq, List.not_mem_nil, or_false] at hmem
  rcases hmem with ⟨rfl, rfl⟩ | ⟨rfl, rfl⟩
  · simp [enemyCondition]
  · obtain ⟨id, hid⟩ := decoded.int "state_id" (by simp)
    simp [enemyCondition, hid]

/-- Each of the thirteen conditions has an expression; those about actors and enemies are nested cases
of their own. -/
lemma condition_ok (hcase : Case.mk discriminant tag layout ∈ Catalog.conditions)
    (decoded : Decoded layout operands) :
    ∃ e, context.condition tag.toString operands = .ok e := by
  obtain ⟨word, hmem, rfl⟩ := Catalog.mem_cases hcase
  simp only [List.mem_cons, Prod.mk.injEq, List.not_mem_nil, or_false] at hmem
  rcases hmem with ⟨rfl, rfl⟩ | ⟨rfl, rfl⟩ | ⟨rfl, rfl⟩ | ⟨rfl, rfl⟩ | ⟨rfl, rfl⟩ | ⟨rfl, rfl⟩ |
    ⟨rfl, rfl⟩ | ⟨rfl, rfl⟩ | ⟨rfl, rfl⟩ | ⟨rfl, rfl⟩ | ⟨rfl, rfl⟩ | ⟨rfl, rfl⟩ | ⟨rfl, rfl⟩
  · obtain ⟨id, hid⟩ := decoded.int "switch_id" (by simp)
    obtain ⟨isOff, hisOff⟩ := decoded.flag "is_off" (by simp)
    simp [condition, hid, hisOff]
  · obtain ⟨id, hid⟩ := decoded.int "variable_id" (by simp)
    obtain ⟨comparison, hcomparison⟩ := decoded.member "comparison" (by simp)
    obtain ⟨amount, hamount⟩ := decoded.amount "rhs" (by simp)
    simp [condition, hid, hcomparison, hamount]
  · obtain ⟨key, hkey⟩ := decoded.value "key" (by simp)
    obtain ⟨isOff, hisOff⟩ := decoded.flag "is_off" (by simp)
    simp [condition, hkey, hisOff]
  · obtain ⟨comparison, hcomparison⟩ := decoded.member "comparison" (by simp)
    obtain ⟨seconds, hseconds⟩ := decoded.value "seconds" (by simp)
    simp [condition, hcomparison, hseconds]
  · obtain ⟨_, kind, _, check, hkind, hcheck, htagged⟩ :=
      decoded.tagged "check" Catalog.actorChecks (by simp)
    obtain ⟨id, hid⟩ := decoded.int "actor_id" (by simp)
    obtain ⟨e, he⟩ := actorCondition_ok context id hkind hcheck
    exact ⟨e, by simp [condition, htagged, hid, he]⟩
  · obtain ⟨_, kind, _, check, hkind, hcheck, htagged⟩ :=
      decoded.tagged "check" Catalog.enemyChecks (by simp)
    obtain ⟨index, hindex⟩ := decoded.int "enemy_index" (by simp)
    obtain ⟨e, he⟩ := enemyCondition_ok context index hkind hcheck
    exact ⟨e, by simp [condition, htagged, hindex, he]⟩
  · obtain ⟨id, hid⟩ := decoded.int "character_id" (by simp)
    obtain ⟨direction, hdirection⟩ := decoded.value "direction" (by simp)
    simp [condition, hid, hdirection]
  · obtain ⟨comparison, hcomparison⟩ := decoded.member "comparison" (by simp)
    obtain ⟨amount, hamount⟩ := decoded.value "amount" (by simp)
    simp [condition, hcomparison, hamount]
  · obtain ⟨id, hid⟩ := decoded.int "item_id" (by simp)
    simp [condition, hid]
  · obtain ⟨id, hid⟩ := decoded.int "weapon_id" (by simp)
    obtain ⟨equipped, hequipped⟩ := decoded.value "include_equipped" (by simp)
    simp [condition, hid, hequipped]
  · obtain ⟨id, hid⟩ := decoded.int "armor_id" (by simp)
    obtain ⟨equipped, hequipped⟩ := decoded.value "include_equipped" (by simp)
    simp [condition, hid, hequipped]
  · obtain ⟨button, hbutton⟩ := decoded.value "button" (by simp)
    simp [condition, hbutton]
  · obtain ⟨script, hscript⟩ := decoded.value "script" (by simp)
    simp [condition, hscript]

end Context

end Decompile

end EventScript
