import EventScript.Proofs.Block.Within

/-! Rows that do not nest are refused at one of them: a fault of the structure is located at the row
that was read last or at an entry that was read before. That rows are missing is found at the end
only. -/
namespace EventScript

open Block (entriesOf)

/-- A fault that says that the rows ended too early. -/
def StructuralFault.IsUnclosed : StructuralFault → Prop
  | .unclosed _ => True
  | _ => False

variable {variant : Variant} {fault : Located StructuralFault}

namespace Entry

lemma absorb_error {reversed : List Entry} {index : Nat} {row : Row}
    (h : absorb variant reversed index row = .error fault) :
    fault.index = index ∧ ¬fault.fault.IsUnclosed := by
  unfold absorb at h
  split at h
  · cases h
  · split at h
    · split at h
      · cases h
        exact ⟨rfl, id⟩
      · split_ifs at h <;> cases h <;> exact ⟨rfl, id⟩
    · cases h

/-- The run: a fault is located at one of the rows that were still to be read. -/
lemma foldFrom_error {index : Nat} {reversed : List Entry} {more : List Row}
    (h : foldFrom variant index reversed more = .error fault) :
    fault.index < index + more.length ∧ ¬fault.fault.IsUnclosed := by
  induction more generalizing index reversed with
  | nil => cases h
  | cons row more ih =>
    rw [foldFrom] at h
    rw [List.length_cons]
    rcases bind_eq_error.1 h with habsorb | ⟨next, -, hrest⟩
    · obtain ⟨hindex, hopen⟩ := absorb_error habsorb
      exact ⟨by omega, hopen⟩
    · obtain ⟨hlt, hopen⟩ := ih hrest
      exact ⟨by omega, hopen⟩

end Entry

namespace Nest

/-- The entry that a block starts with is one of those that were read, if the block is in the body
of an open one. -/
lemma head_mem_entries {nest : Nest} {top : Frame} {rest : List Frame} {b : Block}
    (hframes : nest.frames = top :: rest) (hb : b ∈ top.body) : b.head ∈ nest.entries := by
  have hbody : b.head ∈ entriesOf top.body := Block.mem_entriesOf.2 ⟨b, hb, b.head_mem_entries⟩
  simp [entries, hframes, Frame.entries, hbody]

lemma header_mem_entries {nest : Nest} {top : Frame} {rest : List Frame}
    (hframes : nest.frames = top :: rest) : top.header ∈ nest.entries := by
  simp [entries, hframes, Frame.entries]

/-- How an entry is refused: at its own row or at that of an earlier entry, and not because nothing
follows. -/
structure RefusedAt (nest : Nest) (entry : Entry) (fault : Located StructuralFault) : Prop where
  located : ∃ e ∈ nest.entries ++ [entry], e.index = fault.index
  not_unclosed : ¬fault.fault.IsUnclosed

section Refused

variable {nest : Nest} {entry : Entry} {cause : StructuralFault}

lemma refusedAt_self (h : ¬cause.IsUnclosed) : nest.RefusedAt entry ⟨entry.index, cause⟩ :=
  ⟨⟨entry, by simp, rfl⟩, h⟩

/-- A block that stands where it must not is pointed at. -/
lemma refusedAt_body {top : Frame} {rest : List Frame} {b : Block}
    (hframes : nest.frames = top :: rest) (hb : b ∈ top.body) (h : ¬cause.IsUnclosed) :
    nest.RefusedAt entry ⟨b.index, cause⟩ :=
  ⟨⟨b.head, by simp [head_mem_entries hframes hb], rfl⟩, h⟩

lemma close_error {top : Frame} {rest : List Frame} (hframes : nest.frames = top :: rest)
    (h : nest.close top rest entry = .error fault) : nest.RefusedAt entry fault := by
  unfold close at h
  split at h
  · rename_i b more _ hbody
    cases h
    exact refusedAt_body hframes (by simp [hbody]) id
  · cases h

lemma startSection_error {top : Frame} {rest : List Frame} {kind : CommandKind}
    (hframes : nest.frames = top :: rest)
    (h : nest.startSection top rest entry kind = .error fault) : nest.RefusedAt entry fault := by
  unfold startSection at h
  split_ifs at h
  · cases h
    exact refusedAt_self id
  · cases h
    exact refusedAt_self id
  · split at h
    · rename_i b more _ hbody
      cases h
      exact refusedAt_body hframes (by simp [hbody]) id
    · cases h

lemma mark_error {kind : CommandKind} {family : Family}
    (h : nest.mark entry kind family = .error fault) : nest.RefusedAt entry fault := by
  unfold mark at h
  cases hframes : nest.frames with
  | nil =>
    simp only [hframes] at h
    cases h
    exact refusedAt_self id
  | cons top rest =>
    simp only [hframes] at h
    split_ifs at h
    · cases h
      exact refusedAt_self id
    · cases h
      exact refusedAt_self id
    · split at h
      · exact close_error hframes h
      · exact startSection_error hframes h

lemma checkIndent_error (h : nest.checkIndent entry = .error fault) :
    nest.RefusedAt entry fault := by
  unfold checkIndent at h
  split at h
  · cases h
  · split_ifs at h
    cases h
    exact refusedAt_self id

lemma step_error (h : nest.step entry = .error fault) : nest.RefusedAt entry fault := by
  unfold step at h
  split at h
  · rcases bind_eq_error.1 h with h | ⟨_, -, h⟩
    · exact checkIndent_error h
    · cases h
  · split at h
    · exact mark_error h
    · exact mark_error h
    · exact mark_error h
    · rcases bind_eq_error.1 h with h | ⟨_, -, h⟩
      · exact checkIndent_error h
      · cases h
    · rcases bind_eq_error.1 h with h | ⟨_, -, h⟩
      · exact checkIndent_error h
      · split_ifs at h
        · cases h
          exact refusedAt_self id
        · cases h

end Refused

/-- The run over a list of entries: it is refused at one of them or at one that was read before. -/
lemma Sound.run_error {nest : Nest} {list : List Entry} (sound : nest.Sound variant)
    (lead : ∀ entry ∈ list, entry.Lead variant)
    (h : list.foldlM Nest.step nest = .error fault) :
    (∃ entry ∈ nest.entries ++ list, entry.index = fault.index) ∧ ¬fault.fault.IsUnclosed := by
  induction list generalizing nest with
  | nil => cases h
  | cons entry list ih =>
    rw [List.foldlM_cons] at h
    rcases bind_eq_error.1 h with hstep | ⟨next, hstep, hrest⟩
    · obtain ⟨⟨e, he, hindex⟩, hopen⟩ := step_error hstep
      refine ⟨⟨e, ?_, hindex⟩, hopen⟩
      simp only [List.mem_append, List.mem_cons] at he ⊢
      tauto
    · have hlead := lead entry (by simp)
      obtain ⟨sound, hentries⟩ := sound.step hlead ((step_eq_ok hlead).1 hstep)
      obtain ⟨⟨e, he, hindex⟩, hopen⟩ := ih sound (fun e he => lead e (by simp [he])) hrest
      exact ⟨⟨e, by simpa [hentries] using he, hindex⟩, hopen⟩

lemma finish_error {nest : Nest} (h : nest.finish = .error fault) :
    (∃ entry ∈ nest.entries, entry.index = fault.index) ∧ fault.fault.IsUnclosed := by
  unfold finish at h
  split at h
  · cases h
  · rename_i top rest hframes
    cases h
    exact ⟨⟨top.header, header_mem_entries hframes, rfl⟩, trivial⟩

end Nest

/-- A list of rows that is refused is refused at one of its rows. -/
theorem Block.reconstruct_error {rows : List Row}
    (h : reconstruct variant rows = .error fault) : fault.index < rows.length := by
  rw [reconstruct] at h
  rcases bind_eq_error.1 h with hfold | ⟨entries, hfold, hnest⟩
  · simpa using (Entry.foldFrom_error hfold).1
  · obtain ⟨lead, placed, rfl⟩ := Entry.fold_eq_ok_iff.1 hfold
    have hentries : ∃ entry ∈ entries, entry.index = fault.index := by
      rcases bind_eq_error.1 hnest with hrun | ⟨nest, hrun, hfinish⟩
      · simpa [Nest.entries, Nest.empty, entriesOf] using
          ((Nest.sound_empty variant).run_error lead hrun).1
      · obtain ⟨-, hentries⟩ := (Nest.sound_empty variant).run lead hrun
        obtain ⟨⟨entry, hentry, hindex⟩, -⟩ := Nest.finish_error hfinish
        rw [hentries] at hentry
        exact ⟨entry, by simpa [Nest.entries, Nest.empty, entriesOf] using hentry, hindex⟩
    obtain ⟨entry, hentry, hindex⟩ := hentries
    have hrow := Entry.row_at placed hentry
    rw [hindex] at hrow
    exact (List.getElem?_eq_some_iff.1 hrow).1

end EventScript
