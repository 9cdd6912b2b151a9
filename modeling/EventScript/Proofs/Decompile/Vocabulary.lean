import EventScript.Decompile.Condition
import EventScript.Proofs.Command.Words
import EventScript.Proofs.Names.Table
import EventScript.Proofs.Script.Validity

/-! The vocabulary of scripts: what they refer to by name. Expressions that are put together from it,
from the names of a table and from literals are proper. -/
namespace EventScript

namespace Decompile

open Text

/-- The functions and properties that scripts use. -/
abbrev paths : List String :=
  ["AudioFile", "MoveCommand", "MoveRoute", "abort_battle", "add_party_member", "add_state",
   "battle_processing", "change_actor_images", "change_class", "change_equipment",
   "change_transparency", "disable_saving", "enable_saving", "erase_picture", "execute_script",
   "exit_event_processing", "fadein_screen", "fadeout_bgm", "fadeout_bgs", "fadeout_screen",
   "flash_screen", "force_action", "forget_skill", "gain_armor", "gain_hp", "gain_item",
   "gain_level", "gain_mp", "gain_weapon", "game.random_encounter_troop_id",
   "game_battle_result.is_escape", "game_battle_result.is_lose", "game_battle_result.is_win",
   "game_input.is_pressed", "game_map.get_event_id", "game_map.get_region_id",
   "game_map.get_terrain_tag", "game_map.get_tile_id", "game_map.map_id", "game_over",
   "game_party.get_num_armors", "game_party.get_num_items", "game_party.get_num_weapons",
   "game_party.gold", "game_party.has_armor", "game_party.has_item", "game_party.has_weapon",
   "game_party.members", "game_party.members.contains", "game_party.size", "game_party.steps",
   "game_self_switches.get", "game_system.battle_count", "game_system.escape_count",
   "game_system.playtime", "game_system.save_count", "game_system.win_count",
   "game_timer.seconds", "game_timer.start", "game_timer.stop", "game_troop.members",
   "game_troop.troop_id", "get_choice_index", "hide_player_followers", "jump_to_label",
   "learn_skill", "move_picture", "name_input_processing", "play_bgm", "play_bgs", "play_se",
   "plugin_command", "random.randint", "remove_party_member", "remove_state", "resume_bgm",
   "return_to_title_screen", "save_bgm", "script", "self.event_id", "self.map_id",
   "set_event_location", "set_label", "set_movement_route", "shake_screen", "show_animation",
   "show_balloon_icon", "show_choices", "show_picture", "show_player_followers",
   "show_scrolling_text", "show_text", "tint_screen", "transfer_player", "wait"]

/-- The names of the arguments that scripts pass. -/
abbrev argumentNames : List String :=
  ["actor", "actor_id", "actors", "allow_death", "animation_id", "args", "armor", "audio",
   "background", "balloon_id", "battler_name", "blend_mode", "can_escape", "can_lose",
   "cancel_type", "character", "character_index", "character_name", "choices", "code", "color",
   "command_name", "comment", "default_type", "direction", "duration", "easing_type",
   "enemy_index", "equip_type", "event_id", "face_index", "face_name", "fade_type",
   "include_equipped", "indent", "initialize", "item", "keep_exp", "key_name", "klass", "layer",
   "lines", "list", "map", "map_id", "max_len", "name", "no_fast", "opacity", "origin", "pan",
   "parameters", "picture_id", "pitch", "plugin_name", "position_type", "power", "repeat",
   "route", "scale_x", "scale_y", "seconds", "set_transparent", "show_level_up", "skill",
   "skippable", "speaker_name", "speed", "state", "swap_with", "target_index", "tone", "troop",
   "troop_id", "value", "volume", "wait", "weapon", "x", "y"]

/-- The things that scripts name. -/
abbrev things : List String := ["game_party", "game_player", "game_self_switches", "this_event"]

lemma isPath_of_mem {path : String} (h : path ∈ paths) : isPath path = true := by
  have hall : ∀ path ∈ paths, isPath path = true := by decide +kernel
  exact hall path h

lemma isName_of_mem {word : String} (h : word ∈ argumentNames) : isName word = true := by
  have hall : ∀ word ∈ argumentNames, isWord word = true := by decide +kernel
  exact isName_of_isWord (hall word h)

/-! Calls. -/

/-- Keyword arguments with names of the vocabulary and proper values. -/
def Words (keywords : List (String × Expr)) : Prop :=
  ∀ keyword ∈ keywords, keyword.1 ∈ argumentNames ∧ keyword.2.Proper

@[simp] lemma words_nil : Words [] := by simp [Words]

@[simp] lemma words_cons (key : String) (value : Expr) (keywords : List (String × Expr)) :
    Words ((key, value) :: keywords) ↔ (key ∈ argumentNames ∧ value.Proper) ∧ Words keywords :=
  List.forall_mem_cons

@[simp] lemma words_append (keywords more : List (String × Expr)) :
    Words (keywords ++ more) ↔ Words keywords ∧ Words more :=
  List.forall_mem_append

@[simp] lemma proper_literal (value : Json) : (Expr.literal value).Proper := .literal value

@[simp] lemma proper_number (n : Int) : (number n).Proper := .literal _

@[simp] lemma proper_truth (b : Bool) : (truth b).Proper := .literal _

@[simp] lemma proper_string (t : Text) : (string t).Proper := .literal _

lemma proper_call {callee : Expr} (hcallee : callee.Proper) {args : List Expr}
    (hargs : ∀ e ∈ args, e.Proper) {keywords : List (String × Expr)} (h : Words keywords) :
    (Expr.call callee args (keywords.map fun (key, e) => (ofString key, e))).Proper := by
  refine .call hcallee hargs ?_ ?_
  · rw [List.forall_mem_map]
    exact fun keyword hmem => isName_of_mem (h keyword hmem).1
  · rw [List.forall_mem_map]
    exact fun keyword hmem => (h keyword hmem).2

variable {path : String} {keywords : List (String × Expr)}

@[simp] lemma proper_dotted (hpath : path ∈ paths) : (Expr.dotted path).Proper :=
  (Expr.proper_path (isPath_of_mem hpath)).1

@[simp] lemma headed_dotted (hpath : path ∈ paths) : (Expr.dotted path).render.Headed :=
  (Expr.proper_path (isPath_of_mem hpath)).2

@[simp] lemma proper_invoke (hpath : path ∈ paths) (h : Words keywords) :
    (invoke path keywords).Proper :=
  proper_call (proper_dotted hpath) (by simp) h

@[simp] lemma proper_perform (hpath : path ∈ paths) (h : Words keywords) :
    (Stmt.expr (invoke path keywords)).Proper :=
  .call (proper_invoke hpath h) (headed_dotted hpath)

@[simp] lemma proper_callPath (hpath : path ∈ paths) {args : List Expr}
    (hargs : ∀ e ∈ args, e.Proper) : (Expr.callPath path args []).Proper :=
  proper_call (proper_dotted hpath) hargs words_nil

lemma proper_performPath (hpath : path ∈ paths) {args : List Expr}
    (hargs : ∀ e ∈ args, e.Proper) : (Stmt.expr (.callPath path args [])).Proper :=
  .call (proper_callPath hpath hargs) (headed_dotted hpath)

@[simp] lemma proper_method {target : Expr} (htarget : target.Proper) {word : String}
    (hword : isSolid word = true) (h : Words keywords) : (method target word keywords).Proper :=
  proper_call (.field htarget (solid_ofString hword)) (by simp) h

/-! Names. -/

lemma isName_thing {word : String} (h : word ∈ things) : isName word = true := by
  have hall : ∀ word ∈ things, isWord word = true := by decide +kernel
  exact isName_of_isWord (hall word h)

@[simp] lemma proper_name {word : String} (h : word ∈ things) : (name word).Proper :=
  .name (isName_thing h)

@[simp] lemma proper_field {target : Expr} (htarget : target.Proper) {word : String}
    (hword : isSolid word = true) : (Expr.attribute target (ofString word)).Proper :=
  .field htarget (solid_ofString hword)

@[simp] lemma proper_character (id : Int) : (character id).Proper := by
  unfold character
  split_ifs with hnegative hzero
  · exact proper_name (by simp)
  · exact proper_name (by simp)
  · obtain ⟨n, rfl⟩ : ∃ n : Nat, id = n := Int.eq_ofNat_of_zero_le (by omega)
    have hstem : isWord "game_character_" = true := by decide +kernel
    have hidentifier := (Bool.and_eq_true_iff.1 (isName_of_isWord hstem)).1
    refine .name (isName_of_underscore (isIdentifier_append hidentifier fun c hc => ?_) ?_)
    · obtain ⟨hlow, hhigh⟩ := digit_of_mem_ofNat hc
      exact CodePoint.isIdentifierContinue_of_digit hlow hhigh
    · exact List.mem_append_left _ (by decide)

namespace Context

variable {context : Context} (valid : context.names.Valid)

include valid

lemma proper_named (category : Category) (id : Int) : (context.named category id).Proper :=
  .name (valid category id)

lemma headed_named (category : Category) (id : Int) :
    (context.named category id).render.Headed :=
  headed_of_isName (valid category id)

lemma proper_amount (a : Operands.Amount) : (context.amount a).Proper := by
  unfold amount
  split_ifs
  · exact proper_named valid .variables a.number
  · exact proper_number a.number

lemma proper_signedAmount (a : Operands.Amount) (negate : Bool) :
    (context.signedAmount a negate).Proper := by
  unfold signedAmount
  split_ifs
  · exact .unary (by simp) (proper_named valid .variables a.number)
  · exact proper_number _
  · exact proper_amount valid a

lemma words_actorTarget (a : Operands.Amount) : Words [context.actorTarget a] := by
  unfold actorTarget
  split_ifs <;>
    simp [variableNamed, proper_named valid]

end Context

end Decompile

end EventScript
