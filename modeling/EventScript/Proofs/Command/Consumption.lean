import EventScript.Proofs.Command.Catalog
import EventScript.Proofs.Command.Decoding

/-! Which parameters operands were read from. Operands tell the slots that were read, those of the
selected cases among them; each slot takes one parameter, in order, and tells it. Only slots that
may be missing leave open whether a parameter was there. -/
namespace EventScript

mutual

/-- Whether the names of slots, and the words of members, are distinct at each level of a slot. -/
def Slot.isDistinct : Slot → Bool
  | .plain .. => true
  | .flag _ => true
  | .reference .. => true
  | .member _ members => decide (members.map Prod.snd).Nodup
  | .tagged _ cases => Case.areDistinct cases
  termination_by structural slot => slot

def Case.areDistinct : List Case → Bool
  | [] => true
  | .mk _ _ slots :: rest => Slot.areDistinct slots && Case.areDistinct rest
  termination_by structural cases => cases

def Slot.areDistinct : List Slot → Bool
  | [] => true
  | slot :: rest =>
    decide (slot.name ∉ rest.map Slot.name) && slot.isDistinct && Slot.areDistinct rest
  termination_by structural slots => slots

end

lemma Slot.areDistinct_cons {slot : Slot} {rest : List Slot} :
    Slot.areDistinct (slot :: rest) = true ↔ slot.name ∉ rest.map Slot.name ∧
      slot.isDistinct = true ∧ Slot.areDistinct rest = true := by
  change (decide (slot.name ∉ rest.map Slot.name) && slot.isDistinct && Slot.areDistinct rest) =
    true ↔ _
  rw [Bool.and_eq_true, Bool.and_eq_true, decide_eq_true_eq, and_assoc]

mutual

/-- The slots that were read to obtain an operand, in order, each with what it gave. -/
def Slot.readings : Slot → Operand → List (Slot × Operand)
  | .tagged name cases, .tagged tag n operands =>
    (.tagged name cases, .tagged tag n operands) :: Case.readings cases n operands
  | slot, operand => [(slot, operand)]
  termination_by structural slot => slot

def Case.readings : List Case → Int → Operands → List (Slot × Operand)
  | [], _, _ => []
  | .mk discriminant _ slots :: rest, n, operands =>
    if discriminant = n then Slot.readingsOf slots operands else Case.readings rest n operands
  termination_by structural cases => cases

def Slot.readingsOf : List Slot → Operands → List (Slot × Operand)
  | slot :: rest, (_, operand) :: operands => slot.readings operand ++ Slot.readingsOf rest operands
  | _, _ => []
  termination_by structural slots => slots

end

/-- What a parameter gives in a slot. -/
def Slot.Reads (slot : Slot) (value : Json) (operand : Operand) : Prop :=
  match slot with
  | .plain name kind _ => kind.read name value = .ok operand
  | .flag name => ∃ b, readBinary name value = .ok b ∧ operand = .value (.bool b)
  | .reference _ _ kind => ∃ isVariable, operand = .reference ⟨value, isVariable⟩ ∧
      (if isVariable then ValueKind.int else kind).accepts value = true
  | .member _ members => ∃ n word, value = .int n ∧ members.lookup n = some word ∧
      operand = .member word
  | .tagged _ _ => ∃ n tag operands, value = .int n ∧ operand = .tagged tag n operands

/-- Whether two parameters are the same to a slot: sounds and routes may be stored in different
ways, all else is equal. -/
def Slot.Agrees (slot : Slot) (v w : Json) : Prop :=
  match slot with
  | .plain _ .audio _ => ∃ a, Audio.ofJson v = .ok a ∧ Audio.ofJson w = .ok a
  | .plain _ .moveRoute _ => ∃ r, MoveRoute.ofJson v = .ok r ∧ MoveRoute.ofJson w = .ok r
  | _ => v = w

/-- Readings that take the first ones of some parameters and leave the rest. A slot takes no
parameter only if there is none left and it may be missing. -/
inductive Operands.Consumes : List (Slot × Operand) → List Json → List Json → Prop
  | nil {rest : List Json} : Consumes [] rest rest
  | read {slot : Slot} {value : Json} {operand : Operand} {more : List (Slot × Operand)}
      {parameters rest : List Json} (h : slot.Reads value operand)
      (hmore : Consumes more parameters rest) :
      Consumes ((slot, operand) :: more) (value :: parameters) rest
  | absent {name : Text} {kind : ValueKind} {more : List (Slot × Operand)} {rest : List Json}
      (hmore : Consumes more [] rest) :
      Consumes ((.plain name kind true, .value .null) :: more) [] rest

/-! ### What one slot tells -/

namespace ValueKind

/-- A null comes from a null in a slot for anything. -/
lemma eq_null_of_read {kind : ValueKind} {slot : Text} {value : Json}
    (h : kind.read slot value = .ok (.value .null)) : value = .null ∧ kind = .any := by
  have hread := read_eq_ok h
  cases kind with
  | intBool =>
    obtain ⟨b, -, hb⟩ := hread
    cases hb
  | audio =>
    obtain ⟨a, -, ha⟩ := hread
    cases ha
  | moveRoute =>
    obtain ⟨r, -, hr⟩ := hread
    cases hr
  | any =>
    obtain ⟨-, hvalue⟩ := hread
    exact ⟨(Operand.value.inj hvalue).symm, rfl⟩
  | _ =>
    obtain ⟨haccepts, hvalue⟩ := hread
    obtain rfl := Operand.value.inj hvalue
    cases haccepts

end ValueKind

/-- A word stands for one number if no other member has it. -/
lemma eq_of_lookup_eq {members : List (Int × Text)} (distinct : (members.map Prod.snd).Nodup)
    {m n : Int} {word : Text} (hm : members.lookup m = some word)
    (hn : members.lookup n = some word) : m = n := by
  have hpair := List.inj_on_of_nodup_map distinct (mem_of_lookup hm) (mem_of_lookup hn) rfl
  exact (Prod.mk.inj hpair).1

/-- An operand tells the parameter, as far as the slot cares. -/
lemma Slot.Reads.agrees {slot : Slot} (distinct : slot.isDistinct = true) {v w : Json}
    {operand : Operand} (hv : slot.Reads v operand) (hw : slot.Reads w operand) :
    slot.Agrees v w := by
  cases slot with
  | plain name kind isOptional =>
    have hv := ValueKind.read_eq_ok hv
    have hw := ValueKind.read_eq_ok hw
    cases kind with
    | intBool =>
      obtain ⟨b, rfl, rfl⟩ := hv
      obtain ⟨c, rfl, hc⟩ := hw
      obtain rfl : b = c := by simpa using hc
      rfl
    | audio =>
      obtain ⟨a, hva, rfl⟩ := hv
      obtain ⟨b, hwb, hb⟩ := hw
      obtain rfl := Operand.audio.inj hb
      exact ⟨a, hva, hwb⟩
    | moveRoute =>
      obtain ⟨r, hvr, rfl⟩ := hv
      obtain ⟨s, hws, hs⟩ := hw
      obtain rfl := Operand.route.inj hs
      exact ⟨r, hvr, hws⟩
    | _ => exact Operand.value.inj (hv.2.symm.trans hw.2)
  | flag name =>
    obtain ⟨b, hv, rfl⟩ := hv
    obtain ⟨c, hw, hc⟩ := hw
    obtain rfl : b = c := by simpa using hc
    exact (readBinary_eq_ok hv).trans (readBinary_eq_ok hw).symm
  | reference name flag kind =>
    obtain ⟨b, rfl, -⟩ := hv
    obtain ⟨c, hc, -⟩ := hw
    simp only [Operand.reference.injEq, Reference.mk.injEq] at hc
    exact hc.1
  | member name members =>
    obtain ⟨m, word, rfl, hm, rfl⟩ := hv
    obtain ⟨n, other, rfl, hn, hother⟩ := hw
    obtain rfl := Operand.member.inj hother
    rw [Slot.isDistinct, decide_eq_true_eq] at distinct
    rw [eq_of_lookup_eq distinct hm hn]
    rfl
  | tagged name cases =>
    obtain ⟨m, tag, operands, rfl, rfl⟩ := hv
    obtain ⟨n, other, others, rfl, hother⟩ := hw
    rw [(Operand.tagged.inj hother).2.1]
    rfl

-- The slots of a case stand inside the tagged slot, so that they are distinct if it is.
mutual

theorem Slot.distinct_of_mem_readings : (slot : Slot) → {operand : Operand} →
    slot.isDistinct = true → ∀ reading ∈ slot.readings operand, reading.1.isDistinct = true
  | .plain .., operand, distinct, reading, h | .flag _, operand, distinct, reading, h
  | .reference .., operand, distinct, reading, h | .member .., operand, distinct, reading, h => by
    rw [List.mem_singleton.1 h]
    exact distinct
  | .tagged name cases, operand, distinct, reading, h => by
    cases operand with
    | tagged tag n operands =>
      rcases List.mem_cons.1 h with rfl | hcase
      · exact distinct
      · exact Case.distinct_of_mem_readings cases distinct reading hcase
    | _ =>
      rw [List.mem_singleton.1 h]
      exact distinct
  termination_by structural slot => slot

theorem Case.distinct_of_mem_readings : (cases : List Case) → {n : Int} → {operands : Operands} →
    Case.areDistinct cases = true →
      ∀ reading ∈ Case.readings cases n operands, reading.1.isDistinct = true
  | [], n, operands, _, reading, h => by cases h
  | .mk discriminant tag slots :: rest, n, operands, distinct, reading, h => by
    rw [Case.areDistinct, Bool.and_eq_true] at distinct
    rw [Case.readings] at h
    split_ifs at h
    · exact Slot.distinct_of_mem_readingsOf slots distinct.1 reading h
    · exact Case.distinct_of_mem_readings rest distinct.2 reading h
  termination_by structural cases => cases

theorem Slot.distinct_of_mem_readingsOf : (slots : List Slot) → {operands : Operands} →
    Slot.areDistinct slots = true →
      ∀ reading ∈ Slot.readingsOf slots operands, reading.1.isDistinct = true
  | [], operands, _, reading, h => by cases h
  | slot :: rest, [], _, reading, h => by cases h
  | slot :: rest, (_, operand) :: operands, distinct, reading, h => by
    obtain ⟨-, hdistinct, hothers⟩ := Slot.areDistinct_cons.1 distinct
    rcases List.mem_append.1 h with hslot | hrest
    · exact Slot.distinct_of_mem_readings slot hdistinct reading hslot
    · exact Slot.distinct_of_mem_readingsOf rest hothers reading hrest
  termination_by structural slots => slots

end

/-- Every layout of the catalogue has distinct names and words. -/
lemma Catalog.distinct {variant : Variant} {kind : CommandKind} (h : kind ∈ kinds variant) :
    Slot.areDistinct kind.layout = true := by
  have hcommon : commonKinds.all (fun kind => Slot.areDistinct kind.layout) = true := by
    decide +kernel
  have hvariant : (variantKinds variant).all (fun kind => Slot.areDistinct kind.layout) = true := by
    cases variant <;> decide +kernel
  rcases List.mem_append.1 h with hmem | hmem
  · exact List.all_eq_true.1 hcommon kind hmem
  · exact List.all_eq_true.1 hvariant kind hmem

namespace Operands

/-! ### What a run over the slots consumes -/

lemma Consumes.append {first second : List (Slot × Operand)} {parameters middle rest : List Json}
    (hfirst : Consumes first parameters middle) (hsecond : Consumes second middle rest) :
    Consumes (first ++ second) parameters rest := by
  induction hfirst with
  | nil => exact hsecond
  | read h _ ih => exact .read h (ih hsecond)
  | absent _ ih => exact .absent (ih hsecond)

lemma Cursor.rest_of_take {before after : Cursor} {slot : Text} {value : Json}
    (h : before.take slot = .ok (value, after)) : before.rest = value :: after.rest := by
  unfold Cursor.take at h
  cases hrest : before.rest with
  | nil => simp [hrest] at h
  | cons first rest =>
    simp only [hrest, Except.ok.injEq, Prod.mk.injEq] at h
    rw [← h.1, ← h.2]

lemma Cursor.rest_of_takeInt {before after : Cursor} {slot : Text} {n : Int}
    (h : before.takeInt slot = .ok (n, after)) : before.rest = .int n :: after.rest := by
  obtain ⟨⟨value, cursor⟩, htake, h⟩ := bind_eq_ok.1 h
  have hrest := rest_of_take htake
  cases value with
  | int m =>
    obtain ⟨rfl, rfl⟩ := Prod.mk.inj (Except.ok.inj h)
    exact hrest
  | _ => cases h

/-- A reading of one parameter. -/
lemma consumes_one {slot : Slot} {value : Json} {operand : Operand} {parameters rest : List Json}
    (htaken : parameters = value :: rest) (h : slot.Reads value operand) :
    Consumes [(slot, operand)] parameters rest := by
  rw [htaken]
  exact .read h .nil

lemma decodePlain_consumes {name : Text} {kind : ValueKind} {isOptional : Bool}
    {before after : Cursor} {operand : Operand}
    (h : decodePlain name kind isOptional before = .ok (operand, after)) :
    Consumes [(.plain name kind isOptional, operand)] before.rest after.rest := by
  unfold decodePlain at h
  split_ifs at h with hmissing
  · rw [Bool.and_eq_true, List.isEmpty_iff] at hmissing
    obtain ⟨rfl, rfl⟩ := Prod.mk.inj (Except.ok.inj h)
    rw [hmissing.1, hmissing.2]
    exact .absent .nil
  · obtain ⟨⟨value, cursor⟩, htake, h⟩ := bind_eq_ok.1 h
    obtain ⟨read, hread, h⟩ := bind_eq_ok.1 h
    obtain ⟨rfl, rfl⟩ := Prod.mk.inj (Except.ok.inj h)
    exact consumes_one (Cursor.rest_of_take htake) hread

lemma decodeFlag_consumes {name : Text} {before after : Cursor} {operand : Operand}
    (h : decodeFlag name before = .ok (operand, after)) :
    Consumes [(.flag name, operand)] before.rest after.rest := by
  obtain ⟨⟨n, cursor⟩, htake, h⟩ := bind_eq_ok.1 h
  obtain ⟨b, hb, h⟩ := bind_eq_ok.1 h
  obtain ⟨rfl, rfl⟩ := Prod.mk.inj (Except.ok.inj h)
  have hrest := Cursor.rest_of_takeInt htake
  exact consumes_one hrest ⟨b, hb, rfl⟩

lemma decodeReference_consumes {name flag : Text} {kind : ValueKind} {before after : Cursor}
    {operand : Operand} (h : decodeReference name flag kind before = .ok (operand, after)) :
    Consumes [(.reference name flag kind, operand)] before.rest after.rest := by
  unfold decodeReference at h
  cases hflag : before.flags.lookup flag with
  | none => simp [hflag] at h
  | some isVariable =>
    simp only [hflag] at h
    obtain ⟨⟨value, cursor⟩, htake, h⟩ := bind_eq_ok.1 h
    obtain ⟨_, hcheck, h⟩ := bind_eq_ok.1 h
    obtain ⟨rfl, rfl⟩ := Prod.mk.inj (Except.ok.inj h)
    exact consumes_one (Cursor.rest_of_take htake)
      ⟨isVariable, rfl, ValueKind.accepts_of_check hcheck⟩

lemma decodeMember_consumes {name : Text} {members : List (Int × Text)} {before after : Cursor}
    {operand : Operand} (h : decodeMember name members before = .ok (operand, after)) :
    Consumes [(.member name members, operand)] before.rest after.rest := by
  obtain ⟨⟨n, cursor⟩, htake, h⟩ := bind_eq_ok.1 h
  cases hword : members.lookup n with
  | none => simp [hword] at h
  | some word =>
    simp only [hword] at h
    obtain ⟨rfl, rfl⟩ := Prod.mk.inj (Except.ok.inj h)
    exact consumes_one (Cursor.rest_of_takeInt htake) ⟨n, word, rfl, hword, rfl⟩

-- Distinct names keep an operand from replacing an earlier one, so that the operands of some slots
-- are added behind those of the slots before them.
mutual

theorem decodeSlot_consumes : (slot : Slot) → {before after : Cursor} → {operand : Operand} →
    slot.isDistinct = true → decodeSlot slot before = .ok (operand, after) →
      Consumes (slot.readings operand) before.rest after.rest
  | .plain .., before, after, operand, _, h => decodePlain_consumes h
  | .flag _, before, after, operand, _, h => decodeFlag_consumes h
  | .reference .., before, after, operand, _, h => decodeReference_consumes h
  | .member .., before, after, operand, _, h => decodeMember_consumes h
  | .tagged name cases, before, after, operand, distinct, h => by
    rw [decodeSlot] at h
    obtain ⟨⟨n, cursor⟩, htake, h⟩ := bind_eq_ok.1 h
    obtain ⟨tag, operands, rfl, hcase⟩ := decodeCase_consumes cases distinct h
    rw [Cursor.rest_of_takeInt htake]
    exact .read ⟨n, tag, operands, rfl, rfl⟩ hcase
  termination_by structural slot => slot

theorem decodeCase_consumes : (cases : List Case) → {name : Text} → {n : Int} →
    {before after : Cursor} → {operand : Operand} → Case.areDistinct cases = true →
      decodeCase cases name n before = .ok (operand, after) →
      ∃ tag operands, operand = .tagged tag n operands ∧
        Consumes (Case.readings cases n operands) before.rest after.rest
  | [], name, n, before, after, operand, _, h => by cases h
  | .mk discriminant tag slots :: rest, name, n, before, after, operand, distinct, h => by
    rw [Case.areDistinct, Bool.and_eq_true] at distinct
    simp only [Case.readings]
    rw [decodeCase] at h
    split_ifs at h ⊢ with hn
    · obtain ⟨⟨operands, cursor⟩, hslots, h⟩ := bind_eq_ok.1 h
      obtain ⟨rfl, rfl⟩ := Prod.mk.inj (Except.ok.inj h)
      obtain ⟨_, rfl, hread⟩ := decodeSlots_consumes slots distinct.1 (by simp) hslots
      exact ⟨tag, _, rfl, hread⟩
    · exact decodeCase_consumes rest distinct.2 h
  termination_by structural cases => cases

theorem decodeSlots_consumes : (slots : List Slot) → {earlier operands : Operands} →
    {before after : Cursor} → Slot.areDistinct slots = true →
      (∀ slot ∈ slots, slot.name ∉ earlier.map Prod.fst) →
      decodeSlots slots earlier before = .ok (operands, after) →
      ∃ added, operands = earlier ++ added ∧
        Consumes (Slot.readingsOf slots added) before.rest after.rest
  | [], earlier, operands, before, after, _, _, h => by
    obtain ⟨rfl, rfl⟩ := Prod.mk.inj (Except.ok.inj h)
    exact ⟨[], (List.append_nil _).symm, .nil⟩
  | slot :: rest, earlier, operands, before, after, distinct, fresh, h => by
    obtain ⟨hname, hslot, hrest⟩ := Slot.areDistinct_cons.1 distinct
    rw [decodeSlots] at h
    obtain ⟨⟨operand, cursor⟩, hoperand, h⟩ := bind_eq_ok.1 h
    simp only [insertPair_of_not_mem (fresh slot (by simp))] at h
    have hfresh : ∀ next ∈ rest, next.name ∉ (earlier ++ [(slot.name, operand)]).map Prod.fst := by
      intro next hnext
      rw [List.map_append, List.mem_append, not_or]
      refine ⟨fresh next (by simp [hnext]), ?_⟩
      intro hmem
      have hsame : next.name = slot.name := List.mem_singleton.1 hmem
      apply hname
      rw [← hsame]
      exact List.mem_map_of_mem hnext
    obtain ⟨added, rfl, hadded⟩ := decodeSlots_consumes rest hrest hfresh h
    refine ⟨(slot.name, operand) :: added, by simp, ?_⟩
    exact (decodeSlot_consumes slot hslot hoperand).append hadded
  termination_by structural slots => slots

end

/-- Operands are read from all parameters, in order. -/
lemma decode_consumes {layout : Layout} (distinct : Slot.areDistinct layout = true)
    {parameters : List Json} {operands : Operands} (h : decode layout parameters = .ok operands) :
    Consumes (Slot.readingsOf layout operands) parameters [] := by
  obtain ⟨⟨read, cursor⟩, hslots, h⟩ := bind_eq_ok.1 h
  simp only at h
  split_ifs at h with hempty
  obtain rfl := Except.ok.inj h
  obtain ⟨_, rfl, hread⟩ := decodeSlots_consumes layout distinct (by simp) hslots
  rw [List.isEmpty_iff] at hempty
  rw [hempty] at hread
  exact hread

/-! ### What the operands tell about the parameters -/

lemma Consumes.reads {readings : List (Slot × Operand)} {parameters rest : List Json}
    (h : Consumes readings parameters rest) (hrest : rest = []) {i : Nat} {value : Json}
    (hvalue : parameters[i]? = some value) :
    ∃ slot operand, readings[i]? = some (slot, operand) ∧ slot.Reads value operand := by
  induction h generalizing i with
  | nil =>
    rw [hrest] at hvalue
    cases hvalue
  | @read slot first operand more parameters rest hfirst _ ih =>
    cases i with
    | zero =>
      obtain rfl := Option.some.inj hvalue
      exact ⟨slot, operand, rfl, hfirst⟩
    | succ i => exact ih hrest hvalue
  | absent _ _ => cases hvalue

lemma Consumes.optional {readings : List (Slot × Operand)} {parameters rest : List Json}
    (h : Consumes readings parameters rest) {i : Nat} (hmissing : parameters[i]? = none)
    {slot : Slot} {operand : Operand} (hreading : readings[i]? = some (slot, operand)) :
    ∃ name kind, slot = .plain name kind true ∧ operand = .value .null := by
  induction h generalizing i with
  | nil => cases hreading
  | read _ _ ih =>
    cases i with
    | zero => cases hmissing
    | succ i => exact ih hmissing hreading
  | @absent name kind more rest _ ih =>
    cases i with
    | zero =>
      obtain ⟨rfl, rfl⟩ := Prod.mk.inj (Option.some.inj hreading)
      exact ⟨name, kind, rfl, rfl⟩
    | succ i => exact ih rfl hreading

/-- A parameter that stands where the same operands were also read without one. -/
lemma Consumes.null_of_missing {readings : List (Slot × Operand)} {p q : List Json}
    (hp : Consumes readings p []) (hq : Consumes readings q []) {i : Nat} {v : Json}
    (hv : p[i]? = some v) (hmissing : q[i]? = none) :
    v = .null ∧ ∃ name, readings[i]? = some (.plain name .any true, .value .null) := by
  obtain ⟨slot, operand, hreading, hreads⟩ := hp.reads rfl hv
  obtain ⟨name, kind, rfl, rfl⟩ := hq.optional hmissing hreading
  obtain ⟨rfl, rfl⟩ := ValueKind.eq_null_of_read hreads
  exact ⟨rfl, name, hreading⟩

/-- Parameters in one place that the same operands were read from. -/
lemma Consumes.agrees {readings : List (Slot × Operand)} {p q : List Json}
    (distinct : ∀ reading ∈ readings, reading.1.isDistinct = true)
    (hp : Consumes readings p []) (hq : Consumes readings q []) {i : Nat} {v w : Json}
    (hv : p[i]? = some v) (hw : q[i]? = some w) :
    ∃ slot operand, readings[i]? = some (slot, operand) ∧ slot.Agrees v w := by
  obtain ⟨slot, operand, hreading, hvreads⟩ := hp.reads rfl hv
  obtain ⟨slot', operand', hreading', hwreads⟩ := hq.reads rfl hw
  rw [hreading] at hreading'
  obtain ⟨rfl, rfl⟩ := Prod.mk.inj (Option.some.inj hreading')
  have hdistinct := distinct (slot, operand) (List.mem_of_getElem? hreading)
  exact ⟨slot, operand, hreading, hvreads.agrees hdistinct hwreads⟩

/-- Operands come from one parameter list, apart from how sounds and routes are stored and from
nulls at its end, which slots for anything may miss. The slots that were read take all parameters,
each one in its place. Every layout of the catalogue has distinct names. -/
theorem decode_strict :
    (∀ variant, ∀ kind ∈ Catalog.kinds variant, Slot.areDistinct kind.layout = true) ∧
    ∀ layout : Layout, Slot.areDistinct layout = true → ∀ (p q : List Json) (operands : Operands),
      decode layout p = .ok operands → decode layout q = .ok operands →
      let readings := Slot.readingsOf layout operands
      Consumes readings p [] ∧ Consumes readings q [] ∧
      (∀ (i : Nat) (v w : Json), p[i]? = some v → q[i]? = some w →
        ∃ slot operand, readings[i]? = some (slot, operand) ∧ slot.Agrees v w) ∧
      (∀ (i : Nat) (v : Json), p[i]? = some v → q[i]? = none →
        v = .null ∧ ∃ name, readings[i]? = some (.plain name .any true, .value .null)) ∧
      ∀ (i : Nat) (w : Json), p[i]? = none → q[i]? = some w →
        w = .null ∧ ∃ name, readings[i]? = some (.plain name .any true, .value .null) := by
  constructor
  · intro variant kind hkind
    exact Catalog.distinct hkind
  · intro layout distinct p q operands hp hq readings
    have hpread : Consumes readings p [] := decode_consumes distinct hp
    have hqread : Consumes readings q [] := decode_consumes distinct hq
    have hslots : ∀ reading ∈ readings, reading.1.isDistinct = true :=
      Slot.distinct_of_mem_readingsOf layout distinct
    refine ⟨hpread, hqread, ?_, ?_, ?_⟩
    · intro i v w hv hw
      exact hpread.agrees hslots hqread hv hw
    · intro i v hv hmissing
      exact hpread.null_of_missing hqread hv hmissing
    · intro i w hmissing hw
      exact hqread.null_of_missing hpread hw hmissing

/-- A sound that is stored in two ways, the case that a number selects, and a null at the end. -/
theorem decode_strict_sound :
    let layout : Layout := [.required "sound" .audio,
      .tagged "amount" [.mk 0 "fixed" [.int "value"], .mk 1 "held" (Slot.referencePair "value")],
      .unused "note"]
    let sound : Json := .obj [("name", .str "Bell"), ("pan", .int 0), ("pitch", .int 100),
      ("volume", .int 90)]
    let stored : Json := .obj [("volume", .int 90), ("pitch", .int 100), ("name", .str "Bell"),
      ("pan", .int 0)]
    Slot.areDistinct layout = true ∧
    ∃ operands, decode layout [sound, .int 1, .int 1, .int 7, .null] = .ok operands ∧
      decode layout [stored, .int 1, .int 1, .int 7] = .ok operands ∧
      (Slot.required "sound" .audio).Agrees sound stored ∧
      ∃ name, (Slot.readingsOf layout operands)[4]? =
        some (.plain name .any true, .value .null) := by
  intro layout sound stored
  have distinct : Slot.areDistinct layout = true := by decide
  have hstrict := decode_strict.2 layout distinct [sound, .int 1, .int 1, .int 7, .null]
    [stored, .int 1, .int 1, .int 7] _ rfl rfl
  obtain ⟨-, -, hagrees, hnull, -⟩ := hstrict
  obtain ⟨slot, operand, hslot, hagree⟩ := hagrees 0 sound stored rfl rfl
  obtain ⟨rfl, -⟩ := Prod.mk.inj (Option.some.inj hslot)
  exact ⟨distinct, _, rfl, rfl, hagree, (hnull 4 .null rfl rfl).2⟩

end Operands

end EventScript
