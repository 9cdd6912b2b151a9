import EventScript.Proofs.Block.Within
import EventScript.Proofs.Decompile.Mirror

/-! What can stop the decompilation of an event, as a list of checks in reading order: one for each
command that opens no block, one for each opener, and one for each arm of a choice. No other marker
and no closer is looked at. The first check that finds a fault decides how the event fails. -/
namespace EventScript

namespace Decompile

open Block

/-- What a fault becomes when it is located at an entry. -/
def Failure.ofFault (entry : Entry) : Fault → Failure
  | .cause c => .located entry.index entry.row.code c
  | .defect d => .defect d

@[simp] lemma failure?_locate {α : Type} (entry : Entry) (x : Except Fault α) :
    failure? (locate entry x) = (failure? x).map (.ofFault entry) := by
  cases x with
  | ok a => rfl
  | error fault => cases fault <;> rfl

/-- A look at an entry: what is wrong with it, if anything is, and where that is reported. -/
structure Check where
  subject : Entry
  place : Entry
  fault : Option Fault

def Check.failure? (check : Check) : Option Failure := check.fault.map (.ofFault check.place)

lemma Check.failure?_eq_located {check : Check} {index : Nat} {code : Int} {cause : Cause} :
    check.failure? = some (.located index code cause) ↔ check.fault = some (.cause cause) ∧
      check.place.index = index ∧ check.place.row.code = code := by
  cases hfault : check.fault with
  | none => simp [Check.failure?, hfault]
  | some fault =>
    cases fault with
    | defect d => simp [Check.failure?, hfault, Failure.ofFault]
    | cause c =>
      simp only [Check.failure?, hfault, Failure.ofFault, Option.map_some, Option.some.injEq,
        Failure.located.injEq, Fault.cause.injEq]
      exact and_rotate.symm

/-- What the first check that finds a fault reports. -/
def firstFailure (list : List Check) : Option Failure := list.findSome? Check.failure?

/-- The check of an opener's or an arm's parameters. -/
def operandsCheck (subject place : Entry) : Check :=
  ⟨subject, place, failure? (operandsOf subject)⟩

/-- The arms of a choice are checked, and reported at its header. Other markers are not read. -/
def markerChecks (header marker : Entry) : List Check :=
  if header.family? = some .choice then [operandsCheck marker header] else []

mutual

/-- The checks of a block in reading order. -/
def checks (context : Context) : Block → List Check
  | .leaf entry => [⟨entry, entry, failure? (leaf context entry)⟩]
  | .compound header body branches _ =>
    operandsCheck header header :: (checksOf context body ++ sectionChecks context header branches)
  termination_by structural block => block

def checksOf (context : Context) : List Block → List Check
  | [] => []
  | block :: rest => checks context block ++ checksOf context rest
  termination_by structural blocks => blocks

/-- The checks of sections: those of each marker, then those of the blocks behind it. -/
def sectionChecks (context : Context) (header : Entry) : List Branch → List Check
  | [] => []
  | .mk marker children :: rest =>
    markerChecks header marker ++ (checksOf context children ++ sectionChecks context header rest)
  termination_by structural branches => branches

end

@[simp] lemma firstFailure_nil : firstFailure [] = none := rfl

@[simp] lemma firstFailure_cons (check : Check) (list : List Check) :
    firstFailure (check :: list) = check.failure?.or (firstFailure list) := by
  unfold firstFailure
  cases hcheck : check.failure? <;> simp [hcheck]

@[simp] lemma firstFailure_append (list more : List Check) :
    firstFailure (list ++ more) = (firstFailure list).or (firstFailure more) := by
  simp [firstFailure, List.findSome?_append]

variable {context : Context} {header closer : Entry} {body : List Block} {branches : List Branch}

/-! ### Checking is decompiling -/

/-- A block that fails as its checks say. -/
def Checked (context : Context) (b : Block) : Prop :=
  failure? (block context b) = firstFailure (checks context b)

lemma checked_blocks {list : List Block} (h : ∀ b ∈ list, Checked context b) :
    failure? (blocks context list) = firstFailure (checksOf context list) := by
  induction list with
  | nil => rfl
  | cons b list ih =>
    have hrest := ih fun b hb => h b (by simp [hb])
    rw [blocks, checksOf, firstFailure_append, ← h b (by simp), ← hrest]
    exact failure?_bind fun first _ => failure?_bind_ok fun more _ => ⟨_, rfl⟩

lemma checked_sections {heading : Entry → Except Fault Heading}
    (hheading : ∀ marker ∈ branches.map Branch.marker,
      failure? (locate header (heading marker)) = firstFailure (markerChecks header marker))
    (h : ∀ b ∈ branches.flatMap Branch.children, Checked context b) :
    failure? (sections context header heading branches) =
      firstFailure (sectionChecks context header branches) := by
  induction branches with
  | nil => rfl
  | cons branch branches ih =>
    obtain ⟨marker, children⟩ := branch
    have hchildren : failure? (blocks context children) = _ :=
      checked_blocks fun b hb => h b (by simp [Branch.children, hb])
    have hrest := ih (fun marker hmarker => hheading marker (by simp [hmarker]))
      fun b hb => h b (by simp [hb])
    rw [sections, sectionChecks, firstFailure_append, firstFailure_append,
      ← hheading marker (by simp [Branch.marker]), ← hchildren, ← hrest]
    exact failure?_bind fun top _ => failure?_bind fun inner _ =>
      failure?_bind_ok fun rest _ => ⟨_, rfl⟩

lemma family?_of_opens {entry : Entry} {family : Family}
    (h : entry.role? = some (.opens family)) : entry.family? = some family := by
  obtain ⟨kind, hkind, hrole⟩ := Option.map_eq_some_iff.1 h
  simp [Entry.family?, hkind, hrole, Role.family?]

lemma checked_alternate (framed : Framed context.variant .conditional header body branches closer)
    (h : ∀ b ∈ branches.flatMap Branch.children, Checked context b) :
    failure? (alternate context branches) =
      firstFailure (sectionChecks context header branches) := by
  have hmarkers : ∀ marker, markerChecks header marker = [] := by
    simp [markerChecks, family?_of_opens framed.header_opens]
  rcases branches_of_conditional framed with rfl | ⟨marker, children, rfl, hsplit⟩
  · rfl
  · have hchildren := checked_blocks fun b hb => h b (by simpa [Branch.children] using hb)
    have halternate : failure? (alternate context [.mk marker children]) =
        failure? (blocks context children) := by
      rw [alternate, if_pos hsplit]
      exact failure?_bind_ok fun inner _ => ⟨_, rfl⟩
    simp [halternate, hchildren, sectionChecks, hmarkers]

/-- The heading of an arm fails only if the arm's parameters cannot be read. -/
lemma failure?_choiceHeading {marker : Entry} (lead : marker.Lead context.variant)
    (starts : marker.StartsSection .choice) :
    failure? (choiceHeading marker) = failure? (operandsOf marker) := by
  obtain ⟨kind, hmem, hkind, hrole⟩ := lead.kind_of_startsSection starts
  simp only [choiceHeading, operandsOf, hkind]
  refine failure?_bind_ok fun operands hoperands => ?_
  have decoded := Operands.decoded_of_decode hoperands
  split
  · rename_i hname
    rw [Catalog.layout_of_when hmem hname hrole] at decoded
    obtain ⟨index, hindex⟩ := decoded.value "choice_index" (by simp)
    obtain ⟨text, htext, -⟩ := decoded.text "choice_name" (by simp)
    simp [hindex, htext]
  · exact ⟨_, rfl⟩

/-- A well-formed block fails with the first fault that its checks find, and with no other. -/
theorem checked_of_wellFormed {inLoop : Bool} {b : Block}
    (formed : WellFormed context.variant inLoop b) : Checked context b := by
  induction formed with
  | leaf lead plain breaks => simp [Checked, block, checks, Check.failure?]
  | @compound _ family header closer body branches framed _ ih =>
    obtain ⟨kind, hmem, hkind, hrole⟩ := framed.header_lead.kind_of_role framed.header_opens
    have hbody := checked_blocks fun b hb => ih b (List.mem_append_left _ hb)
    have hchildren : ∀ b ∈ branches.flatMap Branch.children, Checked context b :=
      fun b hb => ih b (List.mem_append_right _ hb)
    have hfamily := family?_of_opens framed.header_opens
    rw [Checked, checks, firstFailure_cons, firstFailure_append, ← hbody, block,
      familyOf_eq framed.header_lead framed.header_opens]
    simp only [Check.failure?, operandsCheck, ← failure?_locate]
    refine failure?_bind fun operands hoperands => ?_
    have decoded := (operandsOf_yields hmem hkind).of_ok (locate_eq_ok.1 hoperands)
    obtain rfl := Catalog.eq_opener hmem hrole
    -- The header's own statement is written from operands that were read, so it cannot fail.
    cases family with
    | conditional =>
      obtain ⟨condition, hcondition⟩ := branchCondition_ok context decoded
      simp only [locate, ok_bind, hcondition]
      rw [← checked_alternate framed hchildren]
      refine failure?_bind fun inner _ => failure?_bind_ok fun other _ => ?_
      cases other <;> exact ⟨_, rfl⟩
    | loop =>
      obtain rfl := branches_of_loop framed
      simp only [locate, ok_bind, sectionChecks, firstFailure_nil, Option.or_none]
      exact failure?_bind_ok fun inner _ => ⟨_, rfl⟩
    | choice =>
      obtain rfl := framed.header_empty rfl
      obtain ⟨keywords, hkeywords⟩ := showChoices_ok decoded
      have hheadings : ∀ marker ∈ branches.map Branch.marker,
          failure? (locate header (choiceHeading marker)) =
            firstFailure (markerChecks header marker) := by
        intro marker hmarker
        have hheading := failure?_choiceHeading (framed.marked.lead marker hmarker)
          (framed.marked.starts marker hmarker)
        simp [markerChecks, hfamily, operandsCheck, Check.failure?, hheading]
      rw [← checked_sections hheadings hchildren]
      simp only [locate, ok_bind, hkeywords, blocks, failure?_ok, Option.none_or]
      exact failure?_bind_ok fun result _ => ⟨_, rfl⟩
    | battleResult =>
      have hheadings : ∀ marker ∈ branches.map Branch.marker,
          failure? (locate header (battleHeading marker)) =
            firstFailure (markerChecks header marker) := by
        intro marker hmarker
        obtain ⟨kind, -, hkind, -⟩ := (framed.marked.lead marker hmarker).kind_of_startsSection
          (framed.marked.starts marker hmarker)
        simp only [markerChecks, hfamily, battleHeading, hkind]
        split <;> simp
      rw [← checked_sections hheadings hchildren]
      simp only [locate, ok_bind]
      exact failure?_bind fun inner _ => failure?_bind_ok fun result _ => ⟨_, rfl⟩

/-! ### The checks of a forest -/

/-- The checks that a block has of its own. -/
inductive Makes (context : Context) : Block → Check → Prop
  | leaf (entry : Entry) :
      Makes context (.leaf entry) ⟨entry, entry, failure? (leaf context entry)⟩
  | opening (header : Entry) (body : List Block) (branches : List Branch) (closer : Entry) :
      Makes context (.compound header body branches closer) (operandsCheck header header)
  | arm {header : Entry} {body : List Block} {branches : List Branch} {closer marker : Entry}
      (choice : header.family? = some .choice) (h : marker ∈ branches.map Branch.marker) :
      Makes context (.compound header body branches closer) (operandsCheck marker header)

variable {forest : List Block} {check : Check}

lemma mem_checksOf {list : List Block} :
    check ∈ checksOf context list ↔ ∃ b ∈ list, check ∈ checks context b := by
  induction list with
  | nil => simp [checksOf]
  | cons b list ih => simp [checksOf, ih]

lemma mem_sectionChecks :
    check ∈ sectionChecks context header branches ↔
      (∃ marker ∈ branches.map Branch.marker, check ∈ markerChecks header marker) ∨
        ∃ b ∈ branches.flatMap Branch.children, check ∈ checks context b := by
  induction branches with
  | nil => simp [sectionChecks]
  | cons branch branches ih =>
    obtain ⟨marker, children⟩ := branch
    simp only [sectionChecks, List.mem_append, mem_checksOf, ih, List.map_cons, List.mem_cons,
      List.flatMap_cons, Branch.marker, Branch.children, or_and_right, exists_or, exists_eq_left]
    exact iff_of_eq (by ac_rfl)

lemma mem_checks_compound :
    check ∈ checks context (.compound header body branches closer) ↔
      Makes context (.compound header body branches closer) check ∨
        ∃ b ∈ enclosed body branches, check ∈ checks context b := by
  have hmakes : Makes context (.compound header body branches closer) check ↔
      check = operandsCheck header header ∨
        ∃ marker ∈ branches.map Branch.marker, check ∈ markerChecks header marker := by
    constructor
    · rintro (_ | _ | ⟨choice, h⟩)
      · exact .inl rfl
      · exact .inr ⟨_, h, by simp [markerChecks, choice]⟩
    · rintro (rfl | ⟨marker, h, hcheck⟩)
      · exact .opening header body branches closer
      · unfold markerChecks at hcheck
        split_ifs at hcheck with choice
        · obtain rfl := List.mem_singleton.1 hcheck
          exact .arm choice h
        · cases hcheck
  simp only [checks, List.mem_cons, List.mem_append, mem_checksOf, mem_sectionChecks, hmakes,
    enclosed, or_and_right, exists_or]
  exact iff_of_eq (by ac_rfl)

/-- What a block checks is checked in every forest that holds it. -/
lemma mem_checksOf_of_within {b : Block} (h : b.Within forest) (makes : Makes context b check) :
    check ∈ checksOf context forest := by
  induction h with
  | here h =>
    refine mem_checksOf.2 ⟨b, h, ?_⟩
    cases b with
    | leaf entry =>
      cases makes
      simp [checks]
    | compound header body branches closer => exact mem_checks_compound.2 (.inl makes)
  | inside h _ ih =>
    obtain ⟨inner, hinner, hcheck⟩ := mem_checksOf.1 ih
    exact mem_checksOf.2 ⟨_, h, mem_checks_compound.2 (.inr ⟨inner, hinner, hcheck⟩)⟩

lemma exists_makes_of_wellFormed {variant : Variant} {inLoop : Bool} {b : Block}
    (formed : WellFormed variant inLoop b) (h : check ∈ checks context b) :
    ∃ inner : Block, inner.Within [b] ∧ Makes context inner check := by
  induction formed with
  | @leaf _ entry _ _ _ =>
    obtain rfl := List.mem_singleton.1 h
    exact ⟨_, .here (List.mem_singleton_self _), .leaf entry⟩
  | compound _ _ ih =>
    rcases mem_checks_compound.1 h with makes | ⟨b, hb, hcheck⟩
    · exact ⟨_, .here (List.mem_singleton_self _), makes⟩
    · obtain ⟨inner, hinner, makes⟩ := ih b hb hcheck
      exact ⟨inner, .inside (List.mem_singleton_self _) (hinner.mono (by simpa using hb)), makes⟩

lemma exists_makes {variant : Variant} {inLoop : Bool}
    (formed : ∀ b ∈ forest, WellFormed variant inLoop b)
    (h : check ∈ checksOf context forest) :
    ∃ b : Block, b.Within forest ∧ Makes context b check := by
  obtain ⟨b, hb, hcheck⟩ := mem_checksOf.1 h
  obtain ⟨inner, hinner, makes⟩ := exists_makes_of_wellFormed (formed b hb) hcheck
  exact ⟨inner, hinner.mono (by simpa using hb), makes⟩

/-- A block that finds no fault of its own is written if it is taken without its sections. -/
lemma bare_ok {inLoop : Bool} {b : Block} (formed : WellFormed context.variant inLoop b)
    (h : ∀ check, Makes context b check → check.subject = b.head → check.fault = none) :
    ∃ fragment, block context b.bare = .ok fragment := by
  have hchecked := checked_of_wellFormed formed.bare
  refine failure?_eq_none.1 (hchecked.trans ?_)
  cases b with
  | leaf entry =>
    have hfault := h _ (.leaf entry) rfl
    simpa [bare, checks, Check.failure?] using hfault
  | compound header body branches closer =>
    have hfault := h _ (.opening header body branches closer) rfl
    simpa [bare, checks, checksOf, sectionChecks, operandsCheck, Check.failure?] using hfault

/-! ### The order of checks -/

lemma subjects_markerChecks (header marker : Entry) :
    ((markerChecks header marker).map Check.subject).Sublist [marker] := by
  unfold markerChecks
  split_ifs <;> simp [operandsCheck]

mutual

/-- The entries that are looked at come in reading order. -/
theorem subjects_checks (context : Context) : (b : Block) →
    ((checks context b).map Check.subject).Sublist b.entries
  | .leaf entry => by simp [checks, entries]
  | .compound header body branches closer => by
    rw [checks, entries, List.map_cons, List.map_append]
    refine .cons_cons header (List.Sublist.trans ?_ (List.sublist_append_left _ [closer]))
    exact (subjects_checksOf context body).append (subjects_sectionChecks context header branches)
  termination_by structural b => b

theorem subjects_checksOf (context : Context) : (list : List Block) →
    ((checksOf context list).map Check.subject).Sublist (entriesOf list)
  | [] => .slnil
  | b :: rest => by
    rw [checksOf, entriesOf, List.map_append]
    exact (subjects_checks context b).append (subjects_checksOf context rest)
  termination_by structural list => list

theorem subjects_sectionChecks (context : Context) (header : Entry) : (branches : List Branch) →
    ((sectionChecks context header branches).map Check.subject).Sublist (branchEntriesOf branches)
  | [] => .slnil
  | .mk marker children :: rest => by
    rw [sectionChecks, branchEntriesOf, List.map_append, List.map_append, ← List.singleton_append]
    exact (subjects_markerChecks header marker).append
      ((subjects_checksOf context children).append (subjects_sectionChecks context header rest))
  termination_by structural branches => branches

end

lemma header_lt_marker {header closer marker : Entry} {body : List Block} {branches : List Branch}
    (increasing : (entriesOf forest).Pairwise fun a b => a.index < b.index)
    (h : (Block.compound header body branches closer).Within forest)
    (hmarker : marker ∈ branches.map Branch.marker) : header.index < marker.index := by
  have hpairs := increasing.sublist h.entries_sublist
  rw [entries, List.pairwise_cons] at hpairs
  have hmem : marker ∈ branchEntriesOf branches := mem_branchEntriesOf.2 (.inl hmarker)
  exact hpairs.1 marker (by simp [hmem])

/-- A fault is reported at the entry that it was found in or at an earlier one. -/
lemma place_le_subject {variant : Variant} {inLoop : Bool}
    (formed : ∀ b ∈ forest, WellFormed variant inLoop b)
    (increasing : (entriesOf forest).Pairwise fun a b => a.index < b.index)
    (h : check ∈ checksOf context forest) :
    check.place ∈ entriesOf forest ∧ check.place.index ≤ check.subject.index := by
  obtain ⟨b, hb, makes⟩ := exists_makes formed h
  have hsublist := hb.entries_sublist
  cases makes with
  | leaf entry => exact ⟨hsublist.subset (by simp [entries]), le_rfl⟩
  | opening header body branches closer =>
    exact ⟨hsublist.subset (by simp [operandsCheck, entries]), le_rfl⟩
  | arm choice hmarker =>
    exact ⟨hsublist.subset (by simp [operandsCheck, entries]),
      (header_lt_marker increasing hb hmarker).le⟩

/-- An event that fails does so at its first check that finds a fault. Whatever stands before the
entry that was checked is fine. -/
theorem exists_check_of_blocks {inLoop : Bool}
    (formed : ∀ b ∈ forest, WellFormed context.variant inLoop b)
    (increasing : (entriesOf forest).Pairwise fun a b => a.index < b.index) {failure : Failure}
    (h : blocks context forest = .error failure) :
    ∃ check ∈ checksOf context forest, check.failure? = some failure ∧
      ∀ earlier ∈ checksOf context forest, earlier.subject.index < check.subject.index →
        earlier.fault = none := by
  have hchecked := checked_blocks fun b hb => checked_of_wellFormed (formed b hb)
  rw [h, failure?_error] at hchecked
  obtain ⟨before, check, after, hlist, hfailure, hbefore⟩ :=
    List.findSome?_eq_some_iff.1 hchecked.symm
  refine ⟨check, by simp [hlist], hfailure, fun earlier hearlier hlt => ?_⟩
  have hsubjects := List.pairwise_map.1 (increasing.sublist (subjects_checksOf context forest))
  rw [hlist, List.pairwise_append, List.pairwise_cons] at hsubjects
  rw [hlist, List.mem_append, List.mem_cons] at hearlier
  rcases hearlier with hearlier | rfl | hearlier
  · simpa [Check.failure?] using hbefore earlier hearlier
  · omega
  · have hlater := hsubjects.2.1.1 earlier hearlier
    omega

lemma fault_eq_none_of_blocks {inLoop : Bool}
    (formed : ∀ b ∈ forest, WellFormed context.variant inLoop b) {fragment : Fragment}
    (h : blocks context forest = .ok fragment) (hcheck : check ∈ checksOf context forest) :
    check.fault = none := by
  have hchecked := checked_blocks fun b hb => checked_of_wellFormed (formed b hb)
  rw [h, failure?_ok] at hchecked
  simpa [Check.failure?] using List.findSome?_eq_none_iff.1 hchecked.symm check hcheck

end Decompile

end EventScript
