import EventScript.Proofs.Block.Grammar
import EventScript.Proofs.Command.Catalog

/-! One entry of an event, as a relation: what it does to the blocks that are open, and on which
conditions. -/
namespace EventScript

namespace Catalog

lemma lookup_break (variant : Variant) : (lookup variant Nest.breakCode).isSome := by
  cases variant <;> decide

end Catalog

lemma Entry.Lead.code_eq {variant : Variant} {entry : Entry} {kind : CommandKind}
    (lead : entry.Lead variant) (hkind : entry.kind = some kind) : kind.code = entry.row.code :=
  Catalog.code_of_lookup (lead.kind_eq ▸ hkind)

/-- Only commands that open no block are continued. -/
lemma Entry.Lead.extras_eq_nil {variant : Variant} {entry : Entry} (lead : entry.Lead variant)
    (h : entry.role? ≠ some .leaf) : entry.extras = [] := by
  refine List.eq_nil_iff_forall_not_mem.2 fun row hrow => h ?_
  obtain ⟨-, kind, hkind, hrole⟩ := lead.continues row hrow
  obtain ⟨first, hfirst, hleaf, -⟩ :=
    Catalog.lead_of_continuation (Catalog.mem_of_lookup hkind) hrole
  simp [Entry.role?, lead.kind_eq, hfirst, hleaf]

namespace Nest

/-- An entry that stands deeper than the innermost block, if one is open. -/
def Deeper (nest : Nest) (entry : Entry) : Prop :=
  ∀ top ∈ nest.frames.head?, top.indent < entry.row.indent

/-- What an entry does: it is a block of its own, opens one, starts a section of the innermost one
or closes that. -/
inductive Step (nest : Nest) (entry : Entry) : Nest → Prop
  | leaf (plain : entry.IsPlain) (deeper : nest.Deeper entry)
      (breaks : entry.row.code = breakCode → nest.insideLoop = true) :
      Step nest entry (nest.add (.leaf entry))
  | opens {kind : CommandKind} {family : Family} (hkind : entry.kind = some kind)
      (hrole : kind.role = .opens family) (deeper : nest.Deeper entry) :
      Step nest entry ⟨nest.done, ⟨entry, kind, family, [], []⟩ :: nest.frames⟩
  | starts {top : Frame} {rest : List Frame} (hframes : nest.frames = top :: rest)
      (hstarts : entry.StartsSection top.family) (indent : entry.row.indent = top.indent)
      (limit : exceedsLimit top entry.row.code = false)
      (order : outOfOrder top entry.row.code = false)
      (header : top.family.emptyHeader = true → top.branches = [] → top.body = []) :
      Step nest entry
        ⟨nest.done, { top with branches := .mk entry [] :: top.branches } :: rest⟩
  | closes {top : Frame} {rest : List Frame} (hframes : nest.frames = top :: rest)
      (hcloses : entry.role? = some (.closes top.family)) (indent : entry.row.indent = top.indent)
      (header : top.family.emptyHeader = true → top.body = []) :
      Step nest entry
        (add ⟨nest.done, rest⟩ (.compound top.header top.body top.branches.reverse entry))

lemma checkIndent_eq_ok {nest : Nest} {entry : Entry} :
    nest.checkIndent entry = .ok () ↔ nest.Deeper entry := by
  unfold checkIndent Deeper
  cases nest.frames with
  | nil => simp
  | cons top rest => simp

lemma close_eq_ok {nest next : Nest} {top : Frame} {rest : List Frame} {entry : Entry} :
    nest.close top rest entry = .ok next ↔
      (top.family.emptyHeader = true → top.body = []) ∧
        next = add ⟨nest.done, rest⟩
          (.compound top.header top.body top.branches.reverse entry) := by
  unfold close
  cases top.family.emptyHeader <;> cases top.body <;> simp [@eq_comm _ next]

lemma startSection_eq_ok {nest next : Nest} {top : Frame} {rest : List Frame} {entry : Entry}
    {kind : CommandKind} :
    nest.startSection top rest entry kind = .ok next ↔
      exceedsLimit top kind.code = false ∧ outOfOrder top kind.code = false ∧
        (top.family.emptyHeader = true → top.branches = [] → top.body = []) ∧
        next = ⟨nest.done, { top with branches := .mk entry [] :: top.branches } :: rest⟩ := by
  unfold startSection
  cases exceedsLimit top kind.code
  · cases outOfOrder top kind.code
    · cases top.family.emptyHeader <;> cases top.branches <;> cases top.body <;>
        simp [@eq_comm _ next]
    · simp
  · simp

lemma mark_eq_ok {nest next : Nest} {entry : Entry} {kind : CommandKind} {family : Family} :
    nest.mark entry kind family = .ok next ↔
      ∃ top rest, nest.frames = top :: rest ∧ top.family = family ∧
        entry.row.indent = top.indent ∧
        (match kind.role with
          | .closes _ => nest.close top rest entry
          | _ => nest.startSection top rest entry kind) = .ok next := by
  unfold mark
  cases nest.frames with
  | nil => simp
  | cons top rest =>
    by_cases hfamily : top.family = family
    · by_cases hindent : entry.row.indent = top.indent
      · cases kind.role <;> simp [hfamily, hindent]
      · simp [hfamily, hindent]
    · simp [hfamily]

/-- The relation is what a step of the reconstruction computes. -/
theorem step_eq_ok {variant : Variant} {nest next : Nest} {entry : Entry}
    (lead : entry.Lead variant) : nest.step entry = .ok next ↔ Step nest entry next := by
  constructor
  · intro h
    unfold step at h
    cases hkind : entry.kind with
    | none =>
      simp only [hkind, bind_eq_ok] at h
      obtain ⟨_, hindent, h⟩ := h
      have deeper := checkIndent_eq_ok.1 hindent
      obtain rfl := Except.ok.inj h
      refine .leaf (.inl (by simp [Entry.role?, hkind])) deeper fun hbreak => ?_
      have := Catalog.lookup_break variant
      rw [← hbreak, ← lead.kind_eq, hkind] at this
      contradiction
    | some kind =>
      have hcode := lead.code_eq hkind
      cases hrole : kind.role with
      | leaf =>
        simp only [hkind, hrole, bind_eq_ok] at h
        obtain ⟨_, hindent, h⟩ := h
        have deeper := checkIndent_eq_ok.1 hindent
        split_ifs at h with hbreak
        · cases h
        · obtain rfl := Except.ok.inj h
          refine .leaf (.inr (by simp [Entry.role?, hkind, hrole])) deeper fun hcode' => ?_
          by_contra hloop
          exact hbreak ⟨hcode.trans hcode', hloop⟩
      | opens family =>
        simp only [hkind, hrole, bind_eq_ok] at h
        obtain ⟨_, hindent, h⟩ := h
        have deeper := checkIndent_eq_ok.1 hindent
        obtain rfl := Except.ok.inj h
        exact .opens hkind hrole deeper
      | split family =>
        simp only [hkind, hrole, mark_eq_ok, startSection_eq_ok] at h
        obtain ⟨top, rest, hframes, rfl, indent, limit, order, header, rfl⟩ := h
        rw [hcode] at limit order
        exact .starts hframes (.inl (by simp [Entry.role?, hkind, hrole])) indent limit order header
      | arm family =>
        simp only [hkind, hrole, mark_eq_ok, startSection_eq_ok] at h
        obtain ⟨top, rest, hframes, rfl, indent, limit, order, header, rfl⟩ := h
        rw [hcode] at limit order
        exact .starts hframes (.inr (by simp [Entry.role?, hkind, hrole])) indent limit order header
      | closes family =>
        simp only [hkind, hrole, mark_eq_ok, close_eq_ok] at h
        obtain ⟨top, rest, hframes, rfl, indent, header, rfl⟩ := h
        exact .closes hframes (by simp [Entry.role?, hkind, hrole]) indent header
      | continuation code =>
        exact absurd (by simp [Entry.role?, hkind, hrole]) (lead.leads code)
  · intro h
    cases h with
    | leaf plain deeper breaks =>
      have hindent := checkIndent_eq_ok.2 deeper
      rcases plain with hrole | hrole
      · have hkind : entry.kind = none := by simpa [Entry.role?] using hrole
        simp only [step, hkind, hindent]
        rfl
      · obtain ⟨kind, hkind, hrole⟩ := Option.map_eq_some_iff.1 hrole
        have hcode := lead.code_eq hkind
        have hnot : ¬(kind.code = breakCode ∧ ¬nest.insideLoop = true) := by
          rintro ⟨hbreak, hloop⟩
          exact hloop (breaks (hcode.symm.trans hbreak))
        simp only [step, hkind, hrole, hindent, if_neg hnot]
        rfl
    | opens hkind hrole deeper =>
      simp only [step, hkind, hrole, checkIndent_eq_ok.2 deeper]
      rfl
    | @starts top rest hframes hstarts indent limit order header =>
      rcases hstarts with hrole | hrole <;>
      · obtain ⟨kind, hkind, hrole⟩ := Option.map_eq_some_iff.1 hrole
        rw [← lead.code_eq hkind] at limit order
        simp only [step, hkind, hrole, mark_eq_ok, startSection_eq_ok]
        exact ⟨top, rest, hframes, rfl, indent, limit, order, header, rfl⟩
    | @closes top rest hframes hcloses indent header =>
      obtain ⟨kind, hkind, hrole⟩ := Option.map_eq_some_iff.1 hcloses
      simp only [step, hkind, hrole, mark_eq_ok, close_eq_ok]
      exact ⟨top, rest, hframes, rfl, indent, header, rfl⟩

end Nest

end EventScript
