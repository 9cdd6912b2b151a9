import EventScript.Proofs.Decompile.Dependence
import EventScript.Proofs.Decompile.Mirror

/-! Events that are written in one context are written in another one with the same statements, if
the commands that open no block are. Placeholders may change on the way. -/
namespace EventScript

/-- Whenever a computation returns a result, another one returns what `f` makes of it. -/
def Follows {ε α β : Type} (f : α → β) (x : Except ε α) (y : Except ε β) : Prop :=
  ∀ a, x = .ok a → y = .ok (f a)

section Follows

variable {ε α β γ δ : Type} {f : α → β} {h : γ → δ}

lemma follows_id (x : Except ε α) : Follows id x x := fun _ hx => hx

lemma follows_ok {a : α} {b : β} (hab : b = f a) :
    Follows f (.ok a : Except ε α) (.ok b) := by
  rintro a' ⟨⟩
  rw [hab]

lemma Follows.bind {x : Except ε α} {y : Except ε β} {k : α → Except ε γ} {l : β → Except ε δ}
    (hxy : Follows f x y) (hkl : ∀ a, x = .ok a → Follows h (k a) (l (f a))) :
    Follows h (x >>= k) (y >>= l) := by
  intro c hc
  obtain ⟨a, ha, hc⟩ := bind_eq_ok.1 hc
  rw [hxy a ha, ok_bind]
  exact hkl a ha c hc

end Follows

/-- A fragment with each of its placeholders replaced. -/
def Fragment.relabel (p : Placeholder → Placeholder) (fragment : Fragment) : Fragment :=
  ⟨fragment.stmts, fragment.placeholders.map p⟩

lemma Fragment.relabel_append (p : Placeholder → Placeholder) (a b : Fragment) :
    (a ++ b).relabel p = a.relabel p ++ b.relabel p := by
  change Fragment.mk _ ((a.placeholders ++ b.placeholders).map p) =
    ⟨_, a.placeholders.map p ++ b.placeholders.map p⟩
  rw [List.map_append]
  rfl

namespace Decompile

open Block

variable {context context' : Context} {p : Placeholder → Placeholder} {g : Entry → Entry}

/-- An entry that is written in one context as another entry is in another context. -/
structure Carries (context context' : Context) (p : Placeholder → Placeholder)
    (entry entry' : Entry) : Prop where
  leaf_follows : entry.IsPlain →
    Follows (Fragment.relabel p) (leaf context entry) (leaf context' entry')
  kind_eq : ¬entry.IsPlain → entry'.kind = entry.kind
  parameters_eq : entry'.row.parameters = entry.row.parameters

lemma follows_locate {α β : Type} {f : α → β} {x : Except Fault α} {y : Except Fault β}
    (h : Follows f x y) (entry entry' : Entry) : Follows f (locate entry x) (locate entry' y) := by
  intro a ha
  rw [locate_eq_ok] at ha ⊢
  exact h a ha

namespace Carries

variable {entry entry' : Entry} (h : Carries context context' p entry entry')
  (marks : ¬entry.IsPlain)

include h marks

lemma operandsOf_follows : Follows id (operandsOf entry) (operandsOf entry') := by
  unfold operandsOf
  rw [h.kind_eq marks, h.parameters_eq]
  cases entry.kind with
  | none => rintro a ⟨⟩
  | some kind => exact follows_id _

lemma familyOf_follows : Follows id (familyOf entry) (familyOf entry') := by
  unfold familyOf
  rw [h.kind_eq marks]
  cases entry.kind with
  | none => rintro a ⟨⟩
  | some kind => exact follows_id _

lemma choiceHeading_follows : Follows id (choiceHeading entry) (choiceHeading entry') := by
  unfold choiceHeading
  rw [h.kind_eq marks, h.parameters_eq]
  cases entry.kind with
  | none => rintro a ⟨⟩
  | some kind => exact follows_id _

lemma battleHeading_follows : Follows id (battleHeading entry) (battleHeading entry') := by
  unfold battleHeading
  rw [h.kind_eq marks]
  cases entry.kind with
  | none => rintro a ⟨⟩
  | some kind => exact follows_id _

lemma isSplit_eq : entry'.isSplit = entry.isSplit := by
  simp only [Entry.isSplit, h.kind_eq marks]

end Carries

/-- A block that is written in the other context once its entries are replaced. -/
abbrev BlockFollows (context context' : Context) (p : Placeholder → Placeholder)
    (g : Entry → Entry) (b : Block) : Prop :=
  Follows (Fragment.relabel p) (block context b) (block context' (b.map g))

lemma blocks_follows {bs : List Block} (h : ∀ b ∈ bs, BlockFollows context context' p g b) :
    Follows (Fragment.relabel p) (blocks context bs) (blocks context' (bs.map (Block.map g))) := by
  induction bs with
  | nil => exact follows_ok rfl
  | cons b bs ih =>
    rw [List.map_cons, blocks, blocks]
    refine (h b (by simp)).bind fun first _ => ?_
    refine (ih fun b hb => h b (by simp [hb])).bind fun more _ => follows_ok ?_
    exact (Fragment.relabel_append p first more).symm

lemma alternate_follows {branches : List Branch}
    (hmarkers : ∀ marker ∈ branches.map Branch.marker,
      ¬marker.IsPlain ∧ Carries context context' p marker (g marker))
    (h : ∀ b ∈ branches.flatMap Branch.children, BlockFollows context context' p g b) :
    Follows (Option.map (Fragment.relabel p)) (alternate context branches)
      (alternate context' (branches.map (Branch.map g))) := by
  induction branches with
  | nil => exact follows_ok rfl
  | cons branch branches ih =>
    obtain ⟨marker, children⟩ := branch
    obtain ⟨marks, hmarker⟩ := hmarkers marker (by simp [Branch.marker])
    have hchildren : Follows (Fragment.relabel p) (blocks context children)
        (blocks context' (children.map (Block.map g))) :=
      blocks_follows fun b hb => h b (by simp [Branch.children, hb])
    have hrest := ih (fun marker hmarker => hmarkers marker (by simp [hmarker]))
      fun b hb => h b (by simp [hb])
    simp only [List.map_cons, Branch.map, Branch.marker, Branch.children, alternate,
      hmarker.isSplit_eq marks]
    split_ifs
    · exact hchildren.bind fun inner _ => follows_ok rfl
    · exact hrest

lemma sections_follows (header header' : Entry) {heading : Entry → Except Fault Heading}
    {branches : List Branch}
    (hmarkers : ∀ marker ∈ branches.map Branch.marker,
      Follows id (heading marker) (heading (g marker)))
    (h : ∀ b ∈ branches.flatMap Branch.children, BlockFollows context context' p g b) :
    Follows (Prod.map id (List.map p)) (sections context header heading branches)
      (sections context' header' heading (branches.map (Branch.map g))) := by
  induction branches with
  | nil => exact follows_ok rfl
  | cons branch branches ih =>
    obtain ⟨marker, children⟩ := branch
    have hmarker := hmarkers marker (by simp [Branch.marker])
    have hchildren : Follows (Fragment.relabel p) (blocks context children)
        (blocks context' (children.map (Block.map g))) :=
      blocks_follows fun b hb => h b (by simp [Branch.children, hb])
    have hrest := ih (fun marker hmarker => hmarkers marker (by simp [hmarker]))
      fun b hb => h b (by simp [hb])
    simp only [List.map_cons, Branch.map, Branch.marker, Branch.children, sections]
    refine (follows_locate hmarker header header').bind fun top _ => ?_
    refine hchildren.bind fun inner _ => hrest.bind fun result _ => follows_ok ?_
    simp [Fragment.relabel]

/-- Well-formed blocks are written in the other context, with the same statements. -/
theorem block_follows (hnames : context'.names = context.names) {variant : Variant}
    {inLoop : Bool} {b : Block} (formed : WellFormed variant inLoop b)
    (h : ∀ entry ∈ b.entries, Carries context context' p entry (g entry)) :
    BlockFollows context context' p g b := by
  induction formed with
  | @leaf _ entry _ plain _ =>
    have hentry := h entry (by simp [entries])
    rw [BlockFollows, Block.map, block, block]
    exact follows_locate (hentry.leaf_follows plain) entry (g entry)
  | @compound _ family header closer body branches framed _ ih =>
    have hheader := h header (mem_entries_compound.2 (.inl rfl))
    have opens : ¬header.IsPlain := by simp [Entry.IsPlain, framed.header_opens]
    have hmarkers : ∀ marker ∈ branches.map Branch.marker,
        ¬marker.IsPlain ∧ Carries context context' p marker (g marker) := by
      intro marker hmarker
      refine ⟨?_, h marker (mem_entries_compound.2 (.inr (.inl hmarker)))⟩
      rcases framed.marked.starts marker hmarker with hstarts | hstarts <;>
        simp [Entry.IsPlain, hstarts]
    have henclosed : ∀ b ∈ enclosed body branches, BlockFollows context context' p g b :=
      fun b hb => ih b hb fun entry hentry =>
        h entry (mem_entries_compound.2 (.inr (.inr (.inr ⟨b, hb, hentry⟩))))
    have hbody := blocks_follows fun b hb => henclosed b (List.mem_append_left _ hb)
    have hchildren : ∀ b ∈ branches.flatMap Branch.children, BlockFollows context context' p g b :=
      fun b hb => henclosed b (List.mem_append_right _ hb)
    rw [BlockFollows, Block.map, mapList_eq, mapBranches_eq, block, block]
    refine (follows_locate (hheader.operandsOf_follows opens) _ _).bind fun operands _ => ?_
    refine (follows_locate (hheader.familyOf_follows opens) _ _).bind fun family _ => ?_
    cases family with
    | conditional =>
      simp only [id, branchCondition_congr hnames]
      refine (follows_locate (follows_id _) _ _).bind fun condition _ => ?_
      refine hbody.bind fun inner _ => (alternate_follows hmarkers hchildren).bind fun other _ => ?_
      cases other <;> exact follows_ok (by simp [Fragment.relabel])
    | loop => exact hbody.bind fun inner _ => follows_ok rfl
    | choice =>
      refine (follows_locate (follows_id _) _ _).bind fun shown _ => ?_
      have hsections := sections_follows header (g header)
        (fun marker hmarker => (hmarkers marker hmarker).2.choiceHeading_follows
          (hmarkers marker hmarker).1) hchildren
      exact hsections.bind fun result _ => follows_ok rfl
    | battleResult =>
      refine hbody.bind fun inner _ => ?_
      have hsections := sections_follows header (g header)
        (fun marker hmarker => (hmarkers marker hmarker).2.battleHeading_follows
          (hmarkers marker hmarker).1) hchildren
      exact hsections.bind fun result _ => follows_ok (by simp [Fragment.relabel])

end Decompile

end EventScript
