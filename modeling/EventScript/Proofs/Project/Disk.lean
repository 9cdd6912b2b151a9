import EventScript.Project.TextFile
import EventScript.Proofs.Command.Decoding
import EventScript.Proofs.Script.Lines
import EventScript.Proofs.Text.Encoding

/-! What writing leaves as it was. No operation makes or removes a directory, so a path leads to the
same place before and after it; what stands at a place changes only if one of the operation's paths
leads there. -/
namespace EventScript

namespace Path

/-- A path with a name is that name behind a path. -/
lemma segments_eq_concat {path : Path} (h : path.name.isEmpty = false) :
    path.segments = path.segments.dropLast ++ [path.name] := by
  cases hlast : path.segments.getLast? with
  | none => simp [name, hlast] at h
  | some last =>
    obtain ⟨front, hfront⟩ := List.getLast?_eq_some_iff.1 hlast
    simp [name, hfront]

lemma extend?_eq_some {path extended : Path} {suffix : Text} :
    path.extend? suffix = some extended ↔ path.name.isEmpty = false ∧
      extended = { path with segments := path.segments.dropLast ++ [path.name ++ suffix] } := by
  unfold extend?
  cases path.name.isEmpty <;> simp [eq_comm]

lemma join_concat_append (separator last suffix : Text) (front : List Text) :
    Text.join separator (front ++ [last ++ suffix]) =
      Text.join separator (front ++ [last]) ++ suffix := by
  induction front with
  | nil => rfl
  | cons first front ih =>
    rw [List.cons_append, List.cons_append, Text.join_cons _ _ (by simp),
      Text.join_cons _ _ (by simp), ih]
    simp

lemma text_extend? {path extended : Path} {suffix : Text}
    (h : path.extend? suffix = some extended) : extended.text = path.text ++ suffix := by
  obtain ⟨hname, rfl⟩ := extend?_eq_some.1 h
  have hsegments := segments_eq_concat hname
  have hsome : ¬(path.slashes = 0 ∧ path.segments.isEmpty = true) := by
    rw [hsegments]
    simp
  rw [text, text, if_neg hsome, if_neg (by simp), join_concat_append, ← hsegments]
  simp

lemma check_eq_ok {path : Path} :
    path.check = .ok () ↔
      ∀ c ∈ path.text, (c.isSurrogate && !isRawByte c) = false ∧ c.val ≠ 0 := by
  unfold check
  split
  · rename_i run hrun
    simp only [reduceCtorEq, false_iff]
    intro h
    rw [SurrogateRun.find?_eq_none.2 fun c hc => (h c hc).1] at hrun
    cases hrun
  · rename_i hnone
    have hplain := SurrogateRun.find?_eq_none.1 hnone
    rw [forall₂_and, and_iff_right hplain]
    split_ifs with hzero
    · simpa using hzero
    · simpa using hzero

/-- An ASCII ending does not make a path the name of something, nor does it keep a path from being
one. -/
lemma check_extend? {path extended : Path} {suffix : Text}
    (h : path.extend? suffix = some extended)
    (hsuffix : ∀ c ∈ suffix, (c.isSurrogate && !isRawByte c) = false ∧ c.val ≠ 0) :
    extended.check = .ok () ↔ path.check = .ok () := by
  rw [check_eq_ok, check_eq_ok, text_extend? h]
  constructor
  · intro hextended c hc
    exact hextended c (List.mem_append_left suffix hc)
  · intro hpath c hc
    rcases List.mem_append.1 hc with hc | hc
    · exact hpath c hc
    · exact hsuffix c hc

/-- No directory holds a name and its extension in one place, even if the name is that of the
directory above. -/
lemma child_ne_child_append (place : Path) {segment suffix : Text} (hsuffix : 2 < suffix.length) :
    place.child segment ≠ place.child (segment ++ suffix) := by
  have hlength : ∀ other : Text, other.length ≤ segment.length ∨ other.length ≤ 2 →
      segment ++ suffix ≠ other := by
    rintro other hother rfl
    simp only [List.length_append] at hother
    omega
  have hdots : segment ++ suffix ≠ Text.ofString ".." := hlength _ (.inr (by decide))
  rw [child, child, if_neg hdots]
  split_ifs with hup
  · intro h
    have hsegments := congrArg segments h
    unfold parent at hsegments
    split_ifs at hsegments
    · exact hdots (by simpa using hsegments.symm)
    · simpa using congrArg List.length hsegments
    · have hlengths := congrArg List.length hsegments
      simp only [List.length_dropLast, List.length_append, List.length_singleton] at hlengths
      omega
  · intro h
    exact hlength segment (.inl le_rfl) (by simpa using (congrArg segments h).symm)

end Path

namespace Disk

variable {disk before middle after : Disk} {path place other : Path}

/-! ### Places -/

lemma lookup_filter_ne {β : Type} (key other : Path) (pairs : List (Path × β)) :
    (pairs.filter fun pair => pair.1 ≠ key).lookup other =
      if other = key then none else pairs.lookup other := by
  induction pairs with
  | nil => simp
  | cons pair pairs ih =>
    obtain ⟨k, v⟩ := pair
    by_cases hk : k = key
    · subst hk
      rw [List.filter_cons_of_neg (by simp), ih]
      by_cases hother : other = k <;> simp [hother, lookup_pair]
    · rw [List.filter_cons_of_pos (by simp [hk]), lookup_pair, lookup_pair, ih]
      by_cases hother : other = k
      · subst hother
        simp [hk]
      · simp [hother]

lemma not_isAbove (h : disk.node? place ≠ some .directory) : place.isAbove = false := by
  by_contra habove
  exact h (by simp [node?, habove])

lemma node?_put_self {node : DiskNode} (h : disk.node? place ≠ some .directory) :
    (disk.put place node).node? place = some node := by
  simp [node?, put, lookup_insertPair, not_isAbove h]

lemma node?_put_of_ne {node : DiskNode} (h : other ≠ place) :
    (disk.put place node).node? other = disk.node? other := by
  simp [node?, put, lookup_insertPair, h]

lemma node?_erase_self (h : disk.node? place ≠ some .directory) :
    (disk.erase place).node? place = none := by
  simp only [node?, erase, lookup_filter_ne, not_isAbove h]
  simp

lemma node?_erase_of_ne (h : other ≠ place) : (disk.erase place).node? other = disk.node? other := by
  simp only [node?, erase, lookup_filter_ne, if_neg h]

/-- Disks with the same directories, and with the same files outside some places. -/
structure AlikeBut (changed : Path → Prop) (before after : Disk) : Prop where
  directories : ∀ place, after.node? place = some .directory ↔
    before.node? place = some .directory
  elsewhere : ∀ place, ¬changed place → after.node? place = before.node? place

lemma AlikeBut.refl (changed : Path → Prop) (disk : Disk) : AlikeBut changed disk disk :=
  ⟨fun _ => Iff.rfl, fun _ _ => rfl⟩

lemma AlikeBut.trans {changed : Path → Prop} (h : AlikeBut changed before middle)
    (h' : AlikeBut changed middle after) : AlikeBut changed before after :=
  ⟨fun place => (h'.directories place).trans (h.directories place),
    fun place hplace => (h'.elsewhere place hplace).trans (h.elsewhere place hplace)⟩

lemma AlikeBut.mono {changed more : Path → Prop} (h : AlikeBut changed before after)
    (hmore : ∀ place, changed place → more place) : AlikeBut more before after :=
  ⟨h.directories, fun place hplace => h.elsewhere place fun hchanged => hplace (hmore place hchanged)⟩

/-- A file takes the place of nothing or of another file. -/
lemma alikeBut_put {bytes : List UInt8} (h : disk.node? place ≠ some .directory) :
    AlikeBut (· = place) disk (disk.put place (.file bytes)) where
  directories other := by
    by_cases hother : other = place
    · subst hother
      simp [node?_put_self h, h]
    · rw [node?_put_of_ne hother]
  elsewhere _ := node?_put_of_ne

lemma alikeBut_erase (h : disk.node? place ≠ some .directory) :
    AlikeBut (· = place) disk (disk.erase place) where
  directories other := by
    by_cases hother : other = place
    · subst hother
      simp [node?_erase_self h, h]
    · rw [node?_erase_of_ne hother]
  elsewhere _ := node?_erase_of_ne

/-! ### Where paths lead -/

lemma walk_cons_eq_ok {segment : Text} {rest : List Text} :
    disk.walk place (segment :: rest) = .ok other ↔ disk.node? place = some .directory ∧
      Path.size segment ≤ segmentLimit ∧ disk.walk (place.child segment) rest = .ok other := by
  rw [walk]
  split
  · rename_i hnode
    simp [hnode]
  · rename_i hnode
    simp [hnode]
  · rename_i hnode
    split_ifs with hlong
    · simp [hnode, Nat.not_le.2 hlong]
    · simp [hnode, Nat.not_lt.1 hlong]

lemma walk_concat_eq_ok {front : List Text} {segment : Text} :
    disk.walk place (front ++ [segment]) = .ok other ↔
      ∃ base, disk.walk place front = .ok base ∧ disk.node? base = some .directory ∧
        Path.size segment ≤ segmentLimit ∧ base.child segment = other := by
  induction front generalizing place with
  | nil =>
    rw [List.nil_append, walk_cons_eq_ok]
    simp [walk]
  | cons first front ih =>
    rw [List.cons_append, walk_cons_eq_ok, ih]
    simp only [walk_cons_eq_ok]
    constructor
    · rintro ⟨hplace, hsize, base, hbase, hrest⟩
      exact ⟨base, ⟨hplace, hsize, hbase⟩, hrest⟩
    · rintro ⟨base, ⟨hplace, hsize, hbase⟩, hrest⟩
      exact ⟨hplace, hsize, base, hbase, hrest⟩

lemma AlikeBut.walk_eq_ok {changed : Path → Prop} (h : AlikeBut changed before after)
    {segments : List Text} :
    after.walk place segments = .ok other ↔ before.walk place segments = .ok other := by
  induction segments generalizing place with
  | nil => simp [walk]
  | cons segment segments ih => rw [walk_cons_eq_ok, walk_cons_eq_ok, h.directories, ih]

/-- A path leads to the same place on disks with the same directories. -/
lemma AlikeBut.resolve_eq_ok {changed : Path → Prop} (h : AlikeBut changed before after) :
    after.resolve path = .ok place ↔ before.resolve path = .ok place := by
  unfold resolve
  split_ifs
  · simp
  · exact h.walk_eq_ok

/-- A temporary file never is the file it stands for. -/
lemma ne_of_extend? {temporary spare : Path} (htemporary : path.extend? ".tmp" = some temporary)
    (hplace : disk.resolve path = .ok place) (hspare : disk.resolve temporary = .ok spare) :
    place ≠ spare := by
  obtain ⟨hname, rfl⟩ := Path.extend?_eq_some.1 htemporary
  unfold resolve at hplace hspare
  split_ifs at hplace hspare
  rw [Path.segments_eq_concat hname, walk_concat_eq_ok] at hplace
  obtain ⟨base, hbase, -, -, rfl⟩ := hplace
  obtain ⟨base', hbase', -, -, rfl⟩ := walk_concat_eq_ok.1 hspare
  obtain rfl := Except.ok.inj (hbase.symm.trans hbase')
  exact base.child_ne_child_append (by decide)

/-! ### Operations -/

lemma locate_eq_ok :
    disk.locate path = .ok place ↔ path.check = .ok () ∧ disk.resolve path = .ok place := by
  unfold locate
  split
  · rename_i hcheck
    simp [hcheck]
  · rename_i hcheck
    cases hresolve : disk.resolve path <;> simp [hcheck]

lemma AlikeBut.locate_eq_ok {changed : Path → Prop} (h : AlikeBut changed before after) :
    after.locate path = .ok place ↔ before.locate path = .ok place := by
  rw [Disk.locate_eq_ok, Disk.locate_eq_ok, h.resolve_eq_ok]

lemma read_eq_ok {bytes : List UInt8} :
    disk.read path = .ok bytes ↔
      ∃ place, disk.locate path = .ok place ∧ disk.node? place = some (.file bytes) := by
  unfold read
  rw [bind_eq_ok]
  refine exists_congr fun place => and_congr_right fun _ => ?_
  split <;> simp_all

lemma write_eq_ok {bytes : List UInt8} {written : Disk} :
    disk.write path bytes = .ok written ↔ ∃ place, disk.locate path = .ok place ∧
      disk.node? place ≠ some .directory ∧ disk.put place (.file bytes) = written := by
  unfold write
  rw [bind_eq_ok]
  refine exists_congr fun place => and_congr_right fun _ => ?_
  split <;> simp_all

/-- A file that is removed leaves the others alone. -/
lemma alikeBut_remove (disk : Disk) (path : Path) :
    AlikeBut (fun place => disk.resolve path = .ok place) disk (disk.remove path) := by
  unfold remove
  cases hplace : disk.resolve path with
  | error reason => exact .refl _ disk
  | ok place =>
    simp only
    split
    · rename_i bytes hnode
      refine (alikeBut_erase (by simp [hnode])).mono ?_
      rintro _ rfl
      rfl
    · exact .refl _ disk

/-- A text is written where its path leads, or nowhere. -/
lemma alikeBut_writeText {text : Text} {left : Disk} {ending : Except WriteFault Unit}
    (h : disk.writeText path text = (left, ending)) :
    AlikeBut (fun place => disk.resolve path = .ok place) disk left := by
  unfold writeText at h
  split at h
  · obtain rfl := (Prod.mk.inj h).1
    exact .refl _ disk
  · obtain rfl := (Prod.mk.inj h).1
    exact .refl _ disk
  · rename_i written hwrite
    obtain rfl : written = left := by split at h <;> exact (Prod.mk.inj h).1
    obtain ⟨place, hplace, hnode, rfl⟩ := write_eq_ok.1 hwrite
    refine (alikeBut_put hnode).mono ?_
    rintro _ rfl
    exact (locate_eq_ok.1 hplace).2

/-- A text that was written can be found there. -/
lemma writeText_eq_ok {text : Text} {written : Disk}
    (h : disk.writeText path text = (written, .ok ())) :
    ∃ place bytes, disk.locate path = .ok place ∧ Text.encodeUtf8? text = some bytes ∧
      written.node? place = some (.file bytes) := by
  unfold writeText at h
  split at h
  · simp at h
  · simp at h
  · rename_i hwrite
    split at h
    · simp at h
    · rename_i hfind
      obtain ⟨bytes, hbytes⟩ := Text.exists_encodeUtf8?.2 (SurrogateRun.find?_all_eq_none.1 hfind)
      obtain ⟨place, hplace, hnode, hput⟩ := write_eq_ok.1 hwrite
      obtain rfl : _ = written := (Prod.mk.inj h).1
      refine ⟨place, bytes, hplace, hbytes, ?_⟩
      rw [← hput, node?_put_self hnode, hbytes]
      rfl

/-- A file that is moved leaves its place and stands at the other. -/
lemma rename_eq_ok {target : Path} {renamed : Disk} {bytes : List UInt8}
    (h : disk.rename path target = .ok renamed) (hplace : disk.resolve path = .ok place)
    (hfile : disk.node? place = some (.file bytes)) :
    ∃ targetPlace, disk.resolve target = .ok targetPlace ∧
      renamed.node? targetPlace = some (.file bytes) ∧
      (place ≠ targetPlace → renamed.node? place = none) ∧
      AlikeBut (fun other => other = targetPlace ∨ other = place) disk renamed := by
  unfold rename at h
  rw [hplace] at h
  cases htarget : disk.resolve target with
  | error reason => simp [htarget] at h
  | ok targetPlace =>
    simp only [htarget, hfile] at h
    split_ifs at h
    have hdirectory : disk.node? targetPlace ≠ some .directory := by
      intro hdirectory
      simp [hdirectory] at h
    obtain rfl : (disk.erase place).put targetPlace (.file bytes) = renamed := by
      cases hnode : disk.node? targetPlace with
      | none => simpa [hnode] using h
      | some node =>
        cases node with
        | directory => exact absurd hnode hdirectory
        | file old => simpa [hnode] using h
    have herase : AlikeBut (· = place) disk (disk.erase place) := alikeBut_erase (by simp [hfile])
    have hfree : (disk.erase place).node? targetPlace ≠ some .directory := by
      rwa [Ne, herase.directories]
    refine ⟨targetPlace, rfl, node?_put_self hfree, fun hne => ?_, ?_⟩
    · rw [node?_put_of_ne hne, node?_erase_self (by simp [hfile])]
    · exact (herase.mono fun _ => .inr).trans ((alikeBut_put hfree).mono fun _ => .inl)

/-- A text that could not take the place of a file leaves the file alone: at most the temporary one
is different. -/
lemma replaceText_eq_error {text : Text} {left : Disk} {fault : WriteFault}
    (h : disk.replaceText path text = (left, .error fault)) :
    AlikeBut (fun place => ∃ temporary, path.extend? ".tmp" = some temporary ∧
      disk.resolve temporary = .ok place) disk left := by
  unfold replaceText at h
  split at h
  · obtain rfl := (Prod.mk.inj h).1
    exact .refl _ disk
  · rename_i temporary htemporary
    have hmore : ∀ place, disk.resolve temporary = .ok place → ∃ temporary,
        path.extend? ".tmp" = some temporary ∧ disk.resolve temporary = .ok place :=
      fun place hplace => ⟨temporary, htemporary, hplace⟩
    have hremove : ∀ written, AlikeBut (fun place => disk.resolve temporary = .ok place) disk written →
        AlikeBut (fun place => disk.resolve temporary = .ok place) disk
          (written.remove temporary) :=
      fun written halike => halike.trans ((alikeBut_remove written temporary).mono
        fun place hplace => halike.resolve_eq_ok.1 hplace)
    split at h
    · rename_i hwritten
      obtain rfl := (Prod.mk.inj h).1
      exact (hremove _ (alikeBut_writeText hwritten)).mono hmore
    · rename_i hwritten
      obtain rfl := (Prod.mk.inj h).1
      exact (alikeBut_writeText hwritten).mono hmore
    · rename_i hwritten
      split at h
      · obtain rfl := (Prod.mk.inj h).1
        exact (hremove _ (alikeBut_writeText hwritten)).mono hmore
      · simp at h

/-- A text that took the place of a file can be found there, and the temporary file is gone. -/
lemma replaceText_eq_ok {text : Text} {replaced : Disk}
    (h : disk.replaceText path text = (replaced, .ok ())) :
    ∃ temporary place spare bytes, path.extend? ".tmp" = some temporary ∧
      disk.locate path = .ok place ∧ disk.locate temporary = .ok spare ∧
      Text.encodeUtf8? text = some bytes ∧ replaced.node? place = some (.file bytes) ∧
      replaced.node? spare = none ∧
      AlikeBut (fun other => other = place ∨ other = spare) disk replaced := by
  unfold replaceText at h
  split at h
  · simp at h
  · rename_i temporary htemporary
    split at h
    · simp at h
    · simp at h
    · rename_i written hwritten
      split at h
      · simp at h
      · rename_i hrename
        obtain rfl := (Prod.mk.inj h).1
        obtain ⟨spare, bytes, hspare, hbytes, hfile⟩ := writeText_eq_ok hwritten
        have hwrite := alikeBut_writeText hwritten
        obtain ⟨hcheck, hresolve⟩ := locate_eq_ok.1 hspare
        obtain ⟨place, hplace, hplaced, hgone, halike⟩ :=
          rename_eq_ok hrename (hwrite.resolve_eq_ok.2 hresolve) hfile
        have hplace := hwrite.resolve_eq_ok.1 hplace
        have hne := ne_of_extend? htemporary hplace hresolve
        have hpath : path.check = .ok () := (Path.check_extend? htemporary (by decide)).1 hcheck
        refine ⟨temporary, place, spare, bytes, htemporary, locate_eq_ok.2 ⟨hpath, hplace⟩, hspare,
          hbytes, hplaced, hgone hne.symm, (hwrite.mono ?_).trans halike⟩
        intro other hother
        exact .inr (Except.ok.inj (hother.symm.trans hresolve))

end Disk

end EventScript
