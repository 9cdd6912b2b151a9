import EventScript.Decompile.Actor
import EventScript.Decompile.Stage

/-!
What writes each command that opens no block.
-/
namespace EventScript

namespace Decompile

/-- The handlers of commands, by the commands' names. -/
def handlers : List (String × Handler) :=
  [("NOP", nothing),
   ("SHOW_TEXT", showText),
   ("SHOW_SCROLLING_TEXT", showScrollingText),
   ("COMMENT", comment),
   ("BREAK_LOOP", fun _ _ _ => .ok [.breakLoop]),
   ("EXIT_EVENT_PROCESSING", plainCall "exit_event_processing"),
   ("COMMON_EVENT", commonEvent),
   ("LABEL", label "set_label"),
   ("JUMP_TO_LABEL", label "jump_to_label"),
   ("CONTROL_SWITCHES", controlSwitches),
   ("CONTROL_VARIABLES", controlVariables),
   ("CONTROL_SELF_SWITCH", controlSelfSwitch),
   ("CONTROL_TIMER", controlTimer),
   ("CHANGE_GOLD", changeGold),
   ("CHANGE_ITEMS", changeInventory "gain_item" "item" .items "item_id"),
   ("CHANGE_WEAPONS", changeInventory "gain_weapon" "weapon" .weapons "weapon_id"),
   ("CHANGE_ARMORS", changeInventory "gain_armor" "armor" .armors "armor_id"),
   ("CHANGE_PARTY_MEMBER", changePartyMember),
   ("CHANGE_SAVE_ACCESS", changeSaveAccess),
   ("TRANSFER_PLAYER", transferPlayer),
   ("SET_EVENT_LOCATION", setEventLocation),
   ("SET_MOVEMENT_ROUTE", setMovementRoute),
   ("CHANGE_TRANSPARENCY", changeTransparency),
   ("SHOW_ANIMATION", characterEffect "show_animation" "animation_id"),
   ("SHOW_BALLOON_ICON", characterEffect "show_balloon_icon" "balloon_id"),
   ("CHANGE_PLAYER_FOLLOWERS", changePlayerFollowers),
   ("FADEOUT_SCREEN", plainCall "fadeout_screen"),
   ("FADEIN_SCREEN", plainCall "fadein_screen"),
   ("TINT_SCREEN", fieldCall "tint_screen" ["tone", "duration", "wait"]),
   ("FLASH_SCREEN", fieldCall "flash_screen" ["color", "duration", "wait"]),
   ("SHAKE_SCREEN", fieldCall "shake_screen" ["power", "speed", "duration", "wait"]),
   ("WAIT", fieldCall "wait" ["duration"]),
   ("SHOW_PICTURE", showPicture),
   ("MOVE_PICTURE", movePicture),
   ("ERASE_PICTURE", fieldCall "erase_picture" ["picture_id"]),
   ("PLAY_BGM", playAudio "play_bgm"),
   ("FADEOUT_BGM", fieldCall "fadeout_bgm" ["duration"]),
   ("SAVE_BGM", plainCall "save_bgm"),
   ("RESUME_BGM", plainCall "resume_bgm"),
   ("PLAY_BGS", playAudio "play_bgs"),
   ("FADEOUT_BGS", fieldCall "fadeout_bgs" ["duration"]),
   ("PLAY_SE", playAudio "play_se"),
   ("GET_LOCATION_INFO", getLocationInfo),
   ("BATTLE_PROCESSING", battleProcessing),
   ("NAME_INPUT_PROCESSING", nameInputProcessing),
   ("CHANGE_HP", changeActorValue "gain_hp" (some "allow_death")),
   ("CHANGE_MP", changeActorValue "gain_mp" none),
   ("CHANGE_STATE", changeState),
   ("CHANGE_LEVEL", changeActorValue "gain_level" (some "show_level_up")),
   ("CHANGE_SKILL", changeSkill),
   ("CHANGE_EQUIPMENT", changeEquipment),
   ("CHANGE_CLASS", changeClass),
   ("CHANGE_ACTOR_IMAGES", changeActorImages),
   ("FORCE_ACTION", forceAction),
   ("ABORT_BATTLE", plainCall "abort_battle"),
   ("GAME_OVER", plainCall "game_over"),
   ("RETURN_TO_TITLE_SCREEN", plainCall "return_to_title_screen"),
   ("SCRIPT", script),
   ("PLUGIN_COMMAND", pluginCommand),
   ("PLUGIN_COMMAND_MZ", pluginCall)]

/-- The handler of a command, by the command's name. -/
def handler? (name : String) : Option Handler := handlers.lookup name

end Decompile

end EventScript
