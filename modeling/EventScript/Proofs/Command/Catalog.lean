import EventScript.Command.Catalog
import EventScript.Proofs.Command.Decoding

/-! The commands of the catalogue: which layouts can be read, and what the commands with one part in
the nesting have in common. -/
namespace EventScript

namespace Catalog

variable {variant : Variant} {kind : CommandKind}

lemma mem_of_lookup {code : Int} (h : lookup variant code = some kind) : kind ∈ kinds variant :=
  List.mem_of_find?_eq_some h

lemma code_of_lookup {code : Int} (h : lookup variant code = some kind) : kind.code = code := by
  simpa using List.find?_some h

/-- Every layout of the catalogue names known kinds and has each flag before its references. -/
lemma readable (h : kind ∈ kinds variant) : Slot.areReadable [] kind.layout = true := by
  have hall : (kinds variant).all (fun kind => Slot.areReadable [] kind.layout) = true := by
    cases variant <;> decide +kernel
  exact List.all_eq_true.1 hall kind h

-- The commands with some part are found by running the filter on the catalogue, which looks at
-- their roles only.

/-- The code of the command whose continuation rows are steps of a route. -/
def routeCode : Int := 205

/-- What a row that continues a command of some code holds: a step of a route, or a line of text. -/
def continuationLayout (lead : Int) : Layout :=
  if lead = routeCode then [.required "step" .mapping] else line

lemma layout_of_continuation {lead : Int} (h : kind ∈ kinds variant)
    (hrole : kind.role = .continuation lead) : kind.layout = continuationLayout lead := by
  have hmem : kind ∈ (kinds variant).filter fun kind => kind.role.lead?.isSome :=
    List.mem_filter.2 ⟨h, by simp [hrole, Role.lead?]⟩
  cases variant with
  | mv =>
    have hlisted : kind ∈ [_, _, _, _, _] := hmem
    simp only [List.mem_cons, List.not_mem_nil, or_false] at hlisted
    rcases hlisted with rfl | rfl | rfl | rfl | rfl <;> cases hrole <;> rfl
  | mz =>
    have hlisted : kind ∈ [_, _, _, _, _, _] := hmem
    simp only [List.mem_cons, List.not_mem_nil, or_false] at hlisted
    rcases hlisted with rfl | rfl | rfl | rfl | rfl | rfl <;> cases hrole <;> rfl

/-- The code of the command whose continuation rows nothing reads. -/
def pluginCallCode : Int := 357

/-- The commands whose handlers ask for continuation rows. -/
def readers : List String :=
  ["SHOW_TEXT", "SHOW_SCROLLING_TEXT", "COMMENT", "SET_MOVEMENT_ROUTE", "SCRIPT"]

/-- Only commands that open no block are continued, and but for one of them all ask for the rows. -/
lemma lead_of_continuation {lead : Int} (h : kind ∈ kinds variant)
    (hrole : kind.role = .continuation lead) :
    ∃ first, lookup variant lead = some first ∧ first.role = .leaf ∧
      (lead ≠ pluginCallCode → first.name ∈ readers) := by
  have hall : (kinds variant).all (fun kind => kind.role.lead?.all fun lead =>
      (lookup variant lead).any fun first =>
        decide (first.role = .leaf ∧ (lead ≠ pluginCallCode → first.name ∈ readers))) = true := by
    cases variant <;> decide +kernel
  have hkind := List.all_eq_true.1 hall kind h
  simpa only [hrole, Role.lead?, Option.all_some, Option.any_eq_true, decide_eq_true_eq] using hkind

/-- The command that opens the blocks of a family. -/
def opener : Family → CommandKind
  | .conditional =>
    ⟨111, "CONDITIONAL_BRANCH", .opens .conditional, [.tagged "condition" conditions]⟩
  | .loop => ⟨112, "LOOP", .opens .loop, []⟩
  | .choice =>
    ⟨102, "SHOW_CHOICES", .opens .choice,
      [.required "choices" .strList, .int "cancel_type", .int "default_type",
       .int "position_type", .int "background"]⟩
  | .battleResult => ⟨601, "IF_WIN", .opens .battleResult, []⟩

lemma eq_opener {family : Family} (h : kind ∈ kinds variant) (hrole : kind.role = .opens family) :
    kind = opener family := by
  have hmem : kind ∈ (kinds variant).filter fun kind => decide (kind.role = .opens family) :=
    List.mem_filter.2 ⟨h, by simp [hrole]⟩
  cases variant <;> cases family <;> exact List.mem_singleton.1 hmem

/-- The commands that start sections have the codes that their family counts. -/
lemma code_mem_markers {family : Family} (h : kind ∈ kinds variant)
    (hrole : kind.role = .split family ∨ kind.role = .arm family) :
    kind.code ∈ family.markers.map Prod.fst := by
  have hall : (kinds variant).all (fun kind => match kind.role with
      | .split family => decide (kind.code ∈ family.markers.map Prod.fst)
      | .arm family => decide (kind.code ∈ family.markers.map Prod.fst)
      | _ => true) = true := by cases variant <;> decide +kernel
  have hkind := List.all_eq_true.1 hall kind h
  rcases hrole with hrole | hrole <;> simpa only [hrole, decide_eq_true_eq] using hkind

lemma role_ne_arm_conditional (h : kind ∈ kinds variant) : kind.role ≠ .arm .conditional := by
  have hall : (kinds variant).all (fun kind => decide (kind.role ≠ .arm .conditional)) = true := by
    cases variant <;> decide +kernel
  simpa using List.all_eq_true.1 hall kind h

/-- The arm of a choice that is taken for an index. -/
lemma layout_of_when (h : kind ∈ kinds variant) (hname : kind.name = "WHEN")
    (hrole : kind.role = .split .choice ∨ kind.role = .arm .choice) :
    kind.layout = [.int "choice_index", text "choice_name"] := by
  have hmem : kind ∈ (kinds variant).filter fun kind =>
      decide (kind.role = .split .choice ∨ kind.role = .arm .choice) :=
    List.mem_filter.2 ⟨h, by simp [hrole]⟩
  have hlisted : kind ∈ [⟨402, "WHEN", .arm .choice, [.int "choice_index", text "choice_name"]⟩,
      ⟨403, "WHEN_CANCEL", .arm .choice, [.unused "cancel_index", .unused "unused"]⟩] := by
    cases variant <;> exact hmem
  simp only [List.mem_cons, List.not_mem_nil, or_false] at hlisted
  rcases hlisted with rfl | rfl
  · rfl
  · simp at hname

end Catalog

end EventScript
