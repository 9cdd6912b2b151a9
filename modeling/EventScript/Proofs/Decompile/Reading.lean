import EventScript.Proofs.Block.Step
import EventScript.Proofs.Decompile.Event

/-! Which rows a command that opens no block reads: its own, and those that continue it if its
handler asks for them. A wrong shape is found in one of these rows, and nowhere else. -/
namespace EventScript

/-- A row whose parameters can be read, if its code is known. -/
def Row.Readable (variant : Variant) (row : Row) : Prop :=
  ∀ kind, Catalog.lookup variant row.code = some kind →
    ∃ operands, Operands.decode kind.layout row.parameters = .ok operands

/-- A row of a known code whose parameters have a wrong shape. -/
def Row.Misshapen (variant : Variant) (row : Row) (fault : SchemaFault) : Prop :=
  ∃ kind, Catalog.lookup variant row.code = some kind ∧
    Operands.decode kind.layout row.parameters = .error (.schema fault)

namespace Decompile

variable {context : Context} {entry : Entry} {α β : Type}

lemma extras_error {fault : SchemaFault} (h : extras context entry = .error (.schema fault)) :
    ∃ row ∈ entry.extras, row.Misshapen context.variant fault := by
  obtain ⟨row, hrow, hfault⟩ := exists_error_of_mapM h
  split at hfault
  · cases hfault
  · rename_i kind hkind
    exact ⟨row, hrow, kind, hkind, hfault⟩

lemma extras_readable {more : List Operands} (h : extras context entry = .ok more) :
    ∀ row ∈ entry.extras, row.Readable context.variant := by
  intro row hrow kind hkind
  obtain ⟨operands, hoperands⟩ := exists_ok_of_mapM h row hrow
  simp only [hkind] at hoperands
  exact ⟨operands, hoperands⟩

/-! ### Faults of handlers -/

/-- The faults that a handler finds by itself: ids that run backwards, rows that do not repeat a
route, and defects. -/
def IsOwn : Fault → Prop
  | .cause (.data (.idRange ..)) => True
  | .cause (.data (.routeRows ..)) => True
  | .cause (.data (.routeRow _)) => True
  | .defect _ => True
  | _ => False

@[simp] lemma isOwn_idRange (first last : Int) : IsOwn (.data (.idRange first last)) := trivial

@[simp] lemma isOwn_routeRows (rows steps : Nat) : IsOwn (.data (.routeRows rows steps)) := trivial

@[simp] lemma isOwn_routeRow (position : Nat) : IsOwn (.data (.routeRow position)) := trivial

@[simp] lemma isOwn_defect (d : Defect) : IsOwn (.defect d) := trivial

/-- A computation whose faults are those of the continuation rows of an entry, or a handler's own. In
particular it finds a wrong shape only where these rows have it. -/
def FromRows (context : Context) (entry : Entry) (x : Except Fault α) : Prop :=
  ∀ fault, x = .error fault → extras context entry = .error fault ∨ IsOwn fault

section FromRows

@[simp] lemma fromRows_ok (a : α) : FromRows context entry (.ok a : Except Fault α) := by
  intro fault h
  cases h

@[simp] lemma fromRows_own {fault : Fault} (h : IsOwn fault) :
    FromRows context entry (.error fault : Except Fault α) := by
  intro other hother
  exact .inr (Except.error.inj hother ▸ h)

@[simp] lemma fromRows_extras : FromRows context entry (extras context entry) :=
  fun _ h => .inl h

@[simp] lemma fromRows_bind {x : Except Fault α} {f : α → Except Fault β}
    (hx : FromRows context entry x) :
    FromRows context entry (x >>= f) ↔ ∀ a, x = .ok a → FromRows context entry (f a) := by
  cases x with
  | ok a => simp
  | error fault =>
    have hbind : FromRows context entry (Except.error fault >>= f) := by
      intro s h
      cases h
      exact hx fault rfl
    simpa using hbind

@[simp] lemma fromRows_ite {p : Prop} [Decidable p] {x y : Except Fault α} :
    FromRows context entry (if p then x else y) ↔
      (p → FromRows context entry x) ∧ (¬p → FromRows context entry y) := by
  split_ifs with h <;> simp [h]

@[simp] lemma fromRows_mapM {f : α → Except Fault β} {list : List α}
    (h : ∀ a ∈ list, FromRows context entry (f a)) : FromRows context entry (list.mapM f) := by
  intro fault hfault
  obtain ⟨a, ha, hfault⟩ := exists_error_of_mapM hfault
  exact h a ha fault hfault

variable (operands : Operands) (name : String)

@[simp] lemma fromRows_get : FromRows context entry (operands.get name) := by
  unfold Operands.get
  split <;> simp

-- Asking for an operand finds no wrong shape, since operands have been read already.

lemma fromRows_ask {f : Operand → Except Fault α} (h : ∀ o, FromRows context entry (f o)) :
    FromRows context entry (operands.get name >>= f) := by simp [h]

@[simp] lemma fromRows_value : FromRows context entry (operands.value name) :=
  fromRows_ask operands name fun o => by split <;> simp

@[simp] lemma fromRows_int : FromRows context entry (operands.int name) :=
  fromRows_ask operands name fun o => by split <;> simp

@[simp] lemma fromRows_flag : FromRows context entry (operands.flag name) :=
  fromRows_ask operands name fun o => by split <;> simp

@[simp] lemma fromRows_text : FromRows context entry (operands.text name) :=
  fromRows_ask operands name fun o => by split <;> simp

@[simp] lemma fromRows_member : FromRows context entry (operands.member name) :=
  fromRows_ask operands name fun o => by split <;> simp

@[simp] lemma fromRows_amount : FromRows context entry (operands.amount name) :=
  fromRows_ask operands name fun o => by split <;> simp

@[simp] lemma fromRows_audio : FromRows context entry (operands.audio name) :=
  fromRows_ask operands name fun o => by split <;> simp

@[simp] lemma fromRows_route : FromRows context entry (operands.route name) :=
  fromRows_ask operands name fun o => by split <;> simp

@[simp] lemma fromRows_tagged : FromRows context entry (operands.tagged name) :=
  fromRows_ask operands name fun o => by split <;> simp

@[simp] lemma fromRows_lines : FromRows context entry (lines context entry operands) := by
  simp [lines]

@[simp] lemma fromRows_comment : FromRows context entry (comment context entry operands) := by
  rw [comment, fromRows_bind (fromRows_lines operands)]
  intro texts _
  refine fromRows_mapM fun line _ => ?_
  cases line <;> simp

@[simp] lemma fromRows_idRange : FromRows context entry (idRange operands) := by
  simp [idRange]

@[simp] lemma fromRows_assignOperator : FromRows context entry (assignOperator name) := by
  simp [assignOperator]

@[simp] lemma fromRows_otherData : FromRows context entry (otherData name) := by
  unfold otherData
  split <;> simp

@[simp] lemma fromRows_gameData : FromRows context entry (context.gameData name operands) := by
  unfold Context.gameData
  split
  case h_4 =>
    simp only [fromRows_int, fromRows_bind, fromRows_member, fromRows_ite]
    intro id _ check _
    refine ⟨fun _ => fromRows_ok _, fun _ => ?_⟩
    split <;> simp
  case h_5 =>
    simp only [fromRows_int, fromRows_bind, fromRows_member]
    intro id _ check _
    split <;> simp
  all_goals simp

@[simp] lemma fromRows_variableOperand :
    FromRows context entry (context.variableOperand name operands) := by
  unfold Context.variableOperand
  split <;> simp

@[simp] lemma fromRows_location : FromRows context entry (context.location name operands) := by
  unfold Context.location
  split <;> simp

@[simp] lemma fromRows_locationQuery : FromRows context entry (locationQuery name) := by
  unfold locationQuery
  split <;> simp

@[simp] lemma fromRows_checkRouteRows (position : Nat) (steps : List MoveStep)
    (rows : List Operands) : FromRows context entry (checkRouteRows position steps rows) := by
  fun_induction checkRouteRows with
  | case1 => simp
  | case2 => simp
  | case3 position step steps row rows ih => simp [ih]

@[simp] lemma fromRows_controlTimer :
    FromRows context entry (controlTimer context entry operands) := by
  rw [controlTimer, fromRows_bind (fromRows_tagged operands _)]
  intro operation _
  split <;> simp

@[simp] lemma fromRows_changePartyMember :
    FromRows context entry (changePartyMember context entry operands) := by
  simp only [changePartyMember, fromRows_bind, fromRows_int, fromRows_member]
  intro id _ operation _
  split <;> simp

@[simp] lemma fromRows_setEventLocation :
    FromRows context entry (setEventLocation context entry operands) := by
  simp only [setEventLocation, fromRows_bind, fromRows_int, fromRows_tagged]
  rintro id - facing - ⟨tag, place⟩ -
  split <;> simp

end FromRows

/-- Handlers find no other faults than their own and those of the continuation rows. -/
lemma handler_fromRows {word : String} {handler : Handler} (h : handler? word = some handler)
    (operands : Operands) : FromRows context entry (handler context entry operands) := by
  have hall : ∀ pair ∈ handlers, FromRows context entry (pair.2 context entry operands) := by
    simp [handlers, nothing, showText, showScrollingText, plainCall, commonEvent, label,
      controlSwitches, controlVariables, controlSelfSwitch, changeGold, changeInventory,
      changeSaveAccess, transferPlayer, setMovementRoute, changeTransparency, characterEffect,
      changePlayerFollowers, fieldCall, showPicture, movePicture, picture, playAudio,
      getLocationInfo, battleProcessing, nameInputProcessing, changeActorValue, changeState,
      changeSkill, changeEquipment, changeClass, changeActorImages, forceAction, script,
      pluginCommand, pluginCall, isDecrease]
  exact hall _ (mem_of_lookup h)

/-- The handlers that ask for continuation rows need all of them. -/
lemma extras_ok_of_reader {word : String} {handler : Handler} (hword : word ∈ Catalog.readers)
    (hhandler : handler? word = some handler) {operands : Operands} {stmts : List Stmt}
    (h : handler context entry operands = .ok stmts) : ∃ more, extras context entry = .ok more := by
  have hlines : ∀ {texts}, lines context entry operands = .ok texts →
      ∃ more, extras context entry = .ok more := by
    intro texts htexts
    obtain ⟨more, hmore, -⟩ := bind_eq_ok.1 htexts
    exact ⟨more, hmore⟩
  simp only [Catalog.readers, List.mem_cons, List.not_mem_nil, or_false] at hword
  rcases hword with rfl | rfl | rfl | rfl | rfl <;> cases hhandler
  · obtain ⟨_, -, h⟩ := bind_eq_ok.1 h
    obtain ⟨_, htexts, -⟩ := bind_eq_ok.1 h
    exact hlines htexts
  · obtain ⟨_, -, h⟩ := bind_eq_ok.1 h
    obtain ⟨_, -, h⟩ := bind_eq_ok.1 h
    obtain ⟨_, htexts, -⟩ := bind_eq_ok.1 h
    exact hlines htexts
  · obtain ⟨_, htexts, -⟩ := bind_eq_ok.1 h
    exact hlines htexts
  · obtain ⟨_, -, h⟩ := bind_eq_ok.1 h
    obtain ⟨more, hmore, -⟩ := bind_eq_ok.1 h
    exact ⟨more, hmore⟩
  · obtain ⟨_, htexts, -⟩ := bind_eq_ok.1 h
    exact hlines htexts

/-! ### Commands that open no block -/

/-- A wrong shape is found in the command's own row or, if that one is fine, in a row that continues
it. -/
theorem leaf_error {fault : SchemaFault} (lead : entry.Lead context.variant)
    (h : leaf context entry = .error (.schema fault)) :
    entry.row.Misshapen context.variant fault ∨
      entry.row.Readable context.variant ∧
        ∃ row ∈ entry.extras, row.Misshapen context.variant fault := by
  have hunknown : unknown context entry ≠ .error (.schema fault) := by
    unfold unknown
    split <;> simp [Fault.schema]
  unfold leaf at h
  split at h
  · exact absurd h hunknown
  · rename_i kind hkind
    rw [lead.kind_eq] at hkind
    split at h
    · exact absurd h hunknown
    · rename_i handler hhandler
      rcases bind_eq_error.1 h with hdecode | ⟨operands, hdecode, h⟩
      · exact .inl ⟨kind, hkind, hdecode⟩
      · rcases bind_eq_error.1 h with hwrite | ⟨_, -, hdone⟩
        · have hextras := (handler_fromRows hhandler operands _ hwrite).resolve_right id
          refine .inr ⟨?_, extras_error hextras⟩
          intro other hother
          obtain rfl := Option.some.inj (hkind.symm.trans hother)
          exact ⟨operands, hdecode⟩
        · cases hdone

/-- A command that was written has been read, and so have the rows that continue it if its handler
asks for them. -/
theorem leaf_readable {fragment : Fragment} (lead : entry.Lead context.variant)
    (plain : entry.IsPlain) (h : leaf context entry = .ok fragment) :
    entry.row.Readable context.variant ∧
      (entry.row.code ≠ Catalog.pluginCallCode →
        ∀ row ∈ entry.extras, row.Readable context.variant) := by
  cases hkind : entry.kind with
  | none =>
    have hlookup := lead.kind_eq ▸ hkind
    rw [lead.extras_eq_nil (by simp [Entry.role?, hkind])]
    exact ⟨fun kind h => by simp [hlookup] at h, by simp⟩
  | some kind =>
    have hlookup := lead.kind_eq ▸ hkind
    have hrole : kind.role = .leaf := by simpa [Entry.IsPlain, Entry.role?, hkind] using plain
    obtain ⟨handler, hhandler, -⟩ := handled_of_leaf (Catalog.mem_of_lookup hlookup) hrole
    simp only [leaf, hkind, hhandler] at h
    obtain ⟨operands, hdecode, h⟩ := bind_eq_ok.1 h
    obtain ⟨stmts, hwrite, -⟩ := bind_eq_ok.1 h
    refine ⟨?_, fun hcode row hrow => ?_⟩
    · intro other hother
      obtain rfl := Option.some.inj (hlookup.symm.trans hother)
      exact ⟨operands, hdecode⟩
    · obtain ⟨-, continuation, hcontinuation, hlead⟩ := lead.continues row hrow
      obtain ⟨first, hfirst, -, hreader⟩ :=
        Catalog.lead_of_continuation (Catalog.mem_of_lookup hcontinuation) hlead
      obtain rfl := Option.some.inj (hlookup.symm.trans hfirst)
      obtain ⟨more, hmore⟩ := extras_ok_of_reader (hreader hcode) hhandler hwrite
      exact extras_readable hmore row hrow

end Decompile

end EventScript
