import EventScript.Decompile.Stage
import EventScript.Proofs.Decompile.Message
import EventScript.Proofs.Decompile.Value

/-! The handlers of commands about the map, the screen and sound. -/
namespace EventScript

namespace Decompile

open Operands

variable {context : Context} {entry : Entry} {layout : Layout} {operands : Operands}

lemma transferPlayer_writes
    (decoded : Decoded (Slot.referencePair "map_id" ++
      [.reference "x" "map_id_is_variable" .int, .reference "y" "map_id_is_variable" .int,
       .int "direction", .int "fade_type"]) operands) :
    Writes (transferPlayer context entry operands) := by
  obtain ⟨map, hmap⟩ := decoded.amount "map_id" (by simp)
  obtain ⟨x, hx⟩ := decoded.amount "x" (by simp)
  obtain ⟨y, hy⟩ := decoded.amount "y" (by simp)
  obtain ⟨direction, hdirection⟩ := decoded.value "direction" (by simp)
  obtain ⟨fade, hfade⟩ := decoded.value "fade_type" (by simp)
  simp [transferPlayer, hmap, hx, hy, hdirection, hfade]

lemma setEventLocation_writes
    (decoded : Decoded [.int "character_id", Catalog.designation, .int "direction"] operands) :
    Writes (setEventLocation context entry operands) := by
  obtain ⟨moved, hmoved⟩ := decoded.int "character_id" (by simp)
  obtain ⟨facing, hfacing⟩ := decoded.int "direction" (by simp)
  obtain ⟨_, tag, _, place, hcase, hplace, htagged⟩ :=
    decoded.tagged "designation" Catalog.places (by simp)
  obtain ⟨keywords, hkeywords⟩ := Context.location_ok context hcase hplace
  obtain ⟨word, hmem, rfl⟩ := Catalog.mem_cases hcase
  simp only [List.mem_cons, Prod.mk.injEq, List.not_mem_nil, or_false] at hmem
  rw [Text.toString_ofString] at htagged hkeywords
  rcases hmem with ⟨rfl, rfl⟩ | ⟨rfl, rfl⟩ | ⟨rfl, rfl⟩
  · simp [setEventLocation, hmoved, hfacing, htagged, hkeywords]
  · simp [setEventLocation, hmoved, hfacing, htagged, hkeywords]
  · obtain ⟨other, hother⟩ := hplace.int "character_id" (by simp)
    simp [setEventLocation, hmoved, hfacing, htagged, hother]

/-- Rows that repeat steps are refused only if they differ from them. -/
lemma checkRouteRows_yields {position : Nat} {steps : List MoveStep} {rows : List Operands}
    (h : ∀ row ∈ rows, Decoded [.required "step" .mapping] row) :
    Yields (fun _ => True) (checkRouteRows position steps rows) := by
  induction rows generalizing position steps with
  | nil => simp [checkRouteRows]
  | cons row rows ih =>
    cases steps with
    | nil => simp [checkRouteRows]
    | cons step steps =>
      obtain ⟨value, hvalue⟩ := (h row (by simp)).value "step" (by simp)
      simp only [checkRouteRows, hvalue, ok_bind]
      split_ifs
      · exact ih fun row hrow => h row (by simp [hrow])
      · simp

lemma setMovementRoute_writes (lead : entry.Lead context.variant)
    (hcode : entry.row.code = Catalog.routeCode)
    (decoded : Decoded [.int "character_id", .required "route" .moveRoute] operands) :
    Writes (setMovementRoute context entry operands) := by
  obtain ⟨id, hid⟩ := decoded.int "character_id" (by simp)
  obtain ⟨route, hroute⟩ := decoded.route "route" (by simp)
  simp only [setMovementRoute, hroute, ok_bind]
  refine (extras_yields lead).bind fun rows hrows => ?_
  rw [hcode, Catalog.continuationLayout, if_pos rfl] at hrows
  split_ifs
  · simp
  · exact (checkRouteRows_yields hrows).bind fun _ _ => by simp [hid]

lemma changeTransparency_writes (decoded : Decoded [Catalog.binary "is_off"] operands) :
    Writes (changeTransparency context entry operands) := by
  obtain ⟨isOff, hisOff⟩ := decoded.flag "is_off" (by simp)
  simp [changeTransparency, hisOff]

lemma changePlayerFollowers_writes (decoded : Decoded [Catalog.binary "is_off"] operands) :
    Writes (changePlayerFollowers context entry operands) := by
  obtain ⟨isOff, hisOff⟩ := decoded.flag "is_off" (by simp)
  simp [changePlayerFollowers, hisOff]

lemma characterEffect_writes (path : String) {id : String} (decoded : Decoded layout operands)
    (hcharacter : Slot.offers layout "character_id" Slot.givesInt = true)
    (hid : Slot.offers layout id Slot.givesValue = true)
    (hwait : Slot.offers layout "wait" Slot.givesValue = true) :
    Writes (characterEffect path id context entry operands) := by
  obtain ⟨shown, hshown⟩ := decoded.int "character_id" hcharacter
  obtain ⟨effect, heffect⟩ := decoded.value id hid
  obtain ⟨wait, hwait⟩ := decoded.value "wait" hwait
  simp [characterEffect, hshown, heffect, hwait]

lemma locationQuery_ok {word : String}
    (h : word ∈ ["terrain_tag", "event_id", "tile_id_layer_1", "tile_id_layer_2",
      "tile_id_layer_3", "tile_id_layer_4", "region_id"]) :
    ∃ query, locationQuery word = .ok query := by
  simp only [List.mem_cons, List.not_mem_nil, or_false] at h
  rcases h with rfl | rfl | rfl | rfl | rfl | rfl | rfl <;> exact ⟨_, rfl⟩

lemma getLocationInfo_writes
    (decoded : Decoded [.int "variable_id",
      .member "info_type" (Catalog.members
        ["terrain_tag", "event_id", "tile_id_layer_1", "tile_id_layer_2", "tile_id_layer_3",
         "tile_id_layer_4", "region_id"]),
      Catalog.designation] operands) :
    Writes (getLocationInfo context entry operands) := by
  obtain ⟨id, hid⟩ := decoded.int "variable_id" (by simp)
  obtain ⟨word, hword, hmember⟩ := decoded.memberOf "info_type" _ (by simp; rfl)
  obtain ⟨⟨path, layer⟩, hquery⟩ := locationQuery_ok hword
  obtain ⟨_, tag, _, place, hcase, hplace, htagged⟩ :=
    decoded.tagged "designation" Catalog.places (by simp)
  obtain ⟨keywords, hkeywords⟩ := Context.location_ok context hcase hplace
  simp [getLocationInfo, hmember, hquery, htagged, hkeywords, hid]

lemma picture_ok (context : Context) (decoded : Decoded layout operands)
    (hvalues : ∀ field ∈ ["origin", "scale_x", "scale_y", "opacity", "blend_mode"],
      Slot.offers layout field Slot.givesValue = true)
    (hamounts : ∀ field ∈ ["x", "y"], Slot.offers layout field Slot.givesAmount = true) :
    ∃ keywords, picture context operands = .ok keywords := by
  obtain ⟨origin, horigin⟩ := decoded.value "origin" (hvalues _ (by simp))
  obtain ⟨x, hx⟩ := decoded.amount "x" (hamounts _ (by simp))
  obtain ⟨y, hy⟩ := decoded.amount "y" (hamounts _ (by simp))
  obtain ⟨scaleX, hscaleX⟩ := decoded.value "scale_x" (hvalues _ (by simp))
  obtain ⟨scaleY, hscaleY⟩ := decoded.value "scale_y" (hvalues _ (by simp))
  obtain ⟨opacity, hopacity⟩ := decoded.value "opacity" (hvalues _ (by simp))
  obtain ⟨blend, hblend⟩ := decoded.value "blend_mode" (hvalues _ (by simp))
  simp [picture, horigin, hx, hy, hscaleX, hscaleY, hopacity, hblend]

lemma showPicture_writes
    (decoded : Decoded ([.int "picture_id", Catalog.text "name"] ++ Catalog.picture) operands) :
    Writes (showPicture context entry operands) := by
  obtain ⟨id, hid⟩ := decoded.value "picture_id" (by simp [Catalog.picture])
  obtain ⟨file, hfile⟩ := decoded.value "name" (by simp [Catalog.picture])
  obtain ⟨keywords, hkeywords⟩ :=
    picture_ok context decoded (by simp [Catalog.picture]) (by simp [Catalog.picture])
  simp [showPicture, hid, hfile, hkeywords]

lemma movePicture_writes {extra : Layout}
    (hextra : extra = [] ∨ extra = [.plain "easing_type" .int true])
    (decoded : Decoded (Catalog.movePicture extra).layout operands) :
    Writes (movePicture context entry operands) := by
  have hplace : ∀ field ∈ ["origin", "scale_x", "scale_y", "opacity", "blend_mode"],
      Slot.offers (Catalog.movePicture extra).layout field Slot.givesValue = true := by
    rcases hextra with rfl | rfl <;> simp [Catalog.movePicture, Catalog.picture]
  have hamounts : ∀ field ∈ ["x", "y"],
      Slot.offers (Catalog.movePicture extra).layout field Slot.givesAmount = true := by
    rcases hextra with rfl | rfl <;> simp [Catalog.movePicture, Catalog.picture]
  have hvalues : ∀ field ∈ ["picture_id", "duration", "wait"],
      Slot.offers (Catalog.movePicture extra).layout field Slot.givesValue = true := by
    rcases hextra with rfl | rfl <;> simp [Catalog.movePicture, Catalog.picture]
  obtain ⟨keywords, hkeywords⟩ := picture_ok context decoded hplace hamounts
  obtain ⟨id, hid⟩ := decoded.value "picture_id" (hvalues _ (by simp))
  obtain ⟨duration, hduration⟩ := decoded.value "duration" (hvalues _ (by simp))
  obtain ⟨wait, hwait⟩ := decoded.value "wait" (hvalues _ (by simp))
  simp [movePicture, hid, hkeywords, hduration, hwait]

lemma playAudio_writes (path : String) (decoded : Decoded [.required "audio" .audio] operands) :
    Writes (playAudio path context entry operands) := by
  obtain ⟨audio, haudio⟩ := decoded.audio "audio" (by simp)
  simp [playAudio, haudio]

end Decompile

end EventScript
