import EventScript.Decompile.Leaf
import EventScript.Proofs.Decompile.Progress
import EventScript.Proofs.Decompile.Stage

/-! Every command of the catalogue that opens no block has a handler, and the handler asks for the
operands that the command's layout declares. -/
namespace EventScript

namespace Decompile

open Operands

/-- A command with a handler that writes it from any operands of its layout. -/
def Handled (kind : CommandKind) : Prop :=
  ∃ handler, handler? kind.name = some handler ∧ ∀ context entry operands,
    entry.Lead context.variant → entry.row.code = kind.code → Decoded kind.layout operands →
      Writes (handler context entry operands)

lemma handled_of_mem_commonKinds :
    ∀ kind ∈ Catalog.commonKinds, kind.role = .leaf → Handled kind := by
  -- One goal is left for each command, about the handler that its name has in the table.
  simp only [Catalog.commonKinds, List.forall_mem_cons, Handled, handler?, handlers, List.lookup,
    String.reduceBEq, Option.some.injEq, exists_eq_left', reduceCtorEq, false_implies,
    List.not_mem_nil, implies_true, forall_const, true_and, and_true]
  exact ⟨
    fun _ _ _ _ _ _ => by simp [nothing],
    fun _ _ _ lead hcode decoded =>
      showScrollingText_writes lead (by rw [hcode]; decide) decoded,
    fun _ _ _ lead hcode decoded => comment_writes lead (by rw [hcode]; decide) decoded,
    fun _ _ _ _ _ _ => by simp,
    fun _ _ _ _ _ _ => by simp [plainCall],
    fun _ _ _ _ _ decoded => commonEvent_writes decoded,
    fun _ _ _ _ _ decoded => fieldCall_writes _ decoded (by simp),
    fun _ _ _ _ _ decoded => fieldCall_writes _ decoded (by simp),
    fun _ _ _ _ _ decoded => controlSwitches_writes decoded,
    fun _ _ _ _ _ decoded => controlVariables_writes decoded,
    fun _ _ _ _ _ decoded => controlSelfSwitch_writes decoded,
    fun _ _ _ _ _ decoded => controlTimer_writes decoded,
    fun _ _ _ _ _ decoded => changeGold_writes decoded,
    fun _ _ _ _ _ decoded => changeInventory_writes _ _ _ decoded
      (by simp [Catalog.inventory]) (by simp [Catalog.inventory]) (by simp [Catalog.inventory]),
    fun _ _ _ _ _ decoded => changeInventory_writes _ _ _ decoded
      (by simp [Catalog.inventory]) (by simp [Catalog.inventory]) (by simp [Catalog.inventory]),
    fun _ _ _ _ _ decoded => changeInventory_writes _ _ _ decoded
      (by simp [Catalog.inventory]) (by simp [Catalog.inventory]) (by simp [Catalog.inventory]),
    fun _ _ _ _ _ decoded => changePartyMember_writes decoded,
    fun _ _ _ _ _ decoded => changeSaveAccess_writes decoded,
    fun _ _ _ _ _ decoded => transferPlayer_writes decoded,
    fun _ _ _ _ _ decoded => setEventLocation_writes decoded,
    fun _ _ _ lead hcode decoded => setMovementRoute_writes lead hcode decoded,
    fun _ _ _ _ _ decoded => changeTransparency_writes decoded,
    fun _ _ _ _ _ decoded =>
      characterEffect_writes _ decoded (by simp) (by simp) (by simp),
    fun _ _ _ _ _ decoded =>
      characterEffect_writes _ decoded (by simp) (by simp) (by simp),
    fun _ _ _ _ _ decoded => changePlayerFollowers_writes decoded,
    fun _ _ _ _ _ _ => by simp [plainCall],
    fun _ _ _ _ _ _ => by simp [plainCall],
    fun _ _ _ _ _ decoded => fieldCall_writes _ decoded (by simp),
    fun _ _ _ _ _ decoded => fieldCall_writes _ decoded (by simp),
    fun _ _ _ _ _ decoded => fieldCall_writes _ decoded (by simp),
    fun _ _ _ _ _ decoded => fieldCall_writes _ decoded (by simp),
    fun _ _ _ _ _ decoded => showPicture_writes decoded,
    fun _ _ _ _ _ decoded => fieldCall_writes _ decoded (by simp),
    fun _ _ _ _ _ decoded => playAudio_writes _ decoded,
    fun _ _ _ _ _ decoded => fieldCall_writes _ decoded (by simp),
    fun _ _ _ _ _ _ => by simp [plainCall],
    fun _ _ _ _ _ _ => by simp [plainCall],
    fun _ _ _ _ _ decoded => playAudio_writes _ decoded,
    fun _ _ _ _ _ decoded => fieldCall_writes _ decoded (by simp),
    fun _ _ _ _ _ decoded => playAudio_writes _ decoded,
    fun _ _ _ _ _ decoded => getLocationInfo_writes decoded,
    fun _ _ _ _ _ decoded => nameInputProcessing_writes decoded,
    fun _ _ _ _ _ decoded => changeActorValue_writes _ decoded
      (by simp [Catalog.actorTarget]) (by simp [Catalog.actorTarget])
      (by simp [Catalog.actorTarget]) (by simp [Catalog.actorTarget]),
    fun _ _ _ _ _ decoded => changeActorValue_writes _ decoded
      (by simp [Catalog.actorTarget]) (by simp [Catalog.actorTarget])
      (by simp [Catalog.actorTarget]) (by simp [Catalog.actorTarget]),
    fun _ _ _ _ _ decoded => changeState_writes decoded,
    fun _ _ _ _ _ decoded => changeActorValue_writes _ decoded
      (by simp [Catalog.actorTarget]) (by simp [Catalog.actorTarget])
      (by simp [Catalog.actorTarget]) (by simp [Catalog.actorTarget]),
    fun _ _ _ _ _ decoded => changeSkill_writes decoded,
    fun _ _ _ _ _ decoded => changeEquipment_writes decoded,
    fun _ _ _ _ _ decoded => changeClass_writes decoded,
    fun _ _ _ _ _ decoded => changeActorImages_writes decoded,
    fun _ _ _ _ _ decoded => forceAction_writes decoded,
    fun _ _ _ _ _ _ => by simp [plainCall],
    fun _ _ _ _ _ _ => by simp [plainCall],
    fun _ _ _ _ _ _ => by simp [plainCall],
    fun _ _ _ lead hcode _ => script_writes lead (by rw [hcode]; decide)⟩

lemma handled_of_mem_variantKinds {variant : Variant} :
    ∀ kind ∈ Catalog.variantKinds variant, kind.role = .leaf → Handled kind := by
  cases variant <;>
    simp only [Catalog.variantKinds, Catalog.showText, Catalog.movePicture,
      Catalog.battleProcessing, List.forall_mem_cons, Handled, handler?, handlers, List.lookup,
      String.reduceBEq, Option.some.injEq, exists_eq_left', reduceCtorEq, false_implies,
      List.not_mem_nil, implies_true, forall_const, and_true]
  case mv => exact ⟨
    fun _ _ _ lead hcode decoded => showText_writes lead (by rw [hcode]; decide) decoded (by simp),
    fun _ _ _ _ _ decoded => movePicture_writes (.inl rfl) decoded,
    fun _ _ _ _ _ decoded => battleProcessing_writes [] decoded,
    fun _ _ _ _ _ decoded => pluginCommand_writes decoded⟩
  case mz => exact ⟨
    fun _ _ _ lead hcode decoded => showText_writes lead (by rw [hcode]; decide) decoded (by simp),
    fun _ _ _ _ _ decoded => movePicture_writes (.inr rfl) decoded,
    fun _ _ _ _ _ decoded => battleProcessing_writes ["active_troop"] decoded,
    fun _ _ _ _ _ decoded => pluginCall_writes decoded⟩

/-- No known command is left to the handling of unknown ones. -/
theorem handled_of_leaf {variant : Variant} {kind : CommandKind}
    (h : kind ∈ Catalog.kinds variant) (hrole : kind.role = .leaf) : Handled kind := by
  rcases List.mem_append.1 h with h | h
  · exact handled_of_mem_commonKinds kind h hrole
  · exact handled_of_mem_variantKinds kind h hrole

end Decompile

end EventScript
