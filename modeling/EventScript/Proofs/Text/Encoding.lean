import EventScript.Proofs.Text.Printable
import EventScript.Text.Utf8

/-! Texts that can be written to a file: those without surrogates have bytes in UTF-8, and no
others. The bytes are read back as the text they were made from. -/
namespace EventScript

namespace CodePoint

@[simp] lemma isSurrogate_newline : newline.isSurrogate = false := by decide

@[simp] lemma isSurrogate_backslash : backslash.isSurrogate = false := by decide

end CodePoint

namespace Text

/-- No character is a surrogate. -/
def Encodable (t : Text) : Prop := ∀ c ∈ t, c.isSurrogate = false

@[simp] lemma encodable_nil : Encodable [] := by simp [Encodable]

@[simp] lemma encodable_cons (c : CodePoint) (t : Text) :
    Encodable (c :: t) ↔ c.isSurrogate = false ∧ Encodable t := by
  simp [Encodable]

@[simp] lemma encodable_append (t u : Text) :
    Encodable (t ++ u) ↔ Encodable t ∧ Encodable u := by
  simp [Encodable, or_imp, forall_and]

lemma encodable_dropEndWhile (p : CodePoint → Bool) {t : Text} (h : Encodable t) :
    Encodable (dropEndWhile p t) :=
  fun c hc => h c (List.mem_reverse.1 (List.dropWhile_subset p (List.mem_reverse.1 hc)))

lemma encodable_join {separator : Text} (hseparator : Encodable separator) {parts : List Text}
    (h : ∀ part ∈ parts, Encodable part) : Encodable (join separator parts) := by
  fun_induction join separator parts with
  | case1 => simp
  | case2 t => exact h t (by simp)
  | case3 t rest _ ih =>
    simp only [encodable_append]
    exact ⟨⟨h t (by simp), hseparator⟩, ih fun part hpart => h part (by simp [hpart])⟩

@[simp] lemma encodable_ofString (s : String) : Encodable (ofString s) := by
  intro c hc
  obtain ⟨d, -, rfl⟩ := List.mem_map.1 hc
  exact CodePoint.isSurrogate_ofChar d

lemma pointBytes?_eq_none {c : CodePoint} : pointBytes? c = none ↔ c.isSurrogate = true := by
  unfold pointBytes?
  by_cases hshort : c.val < 0x800
  · have hplain : c.isSurrogate = false := by
      rw [CodePoint.isSurrogate, Bool.and_eq_false_iff]
      exact .inl (by simpa using by omega)
    by_cases hascii : c.val < 0x80 <;> simp [hshort, hascii, hplain]
  · have hascii : ¬c.val < 0x80 := by omega
    by_cases hsurrogate : c.isSurrogate = true
    · simp [hshort, hascii, hsurrogate]
    · by_cases hbasic : c.val < 0x10000 <;> simp [hshort, hascii, hsurrogate, hbasic]

lemma not_isSurrogate_of_pointBytes? {c : CodePoint} {bytes : List UInt8}
    (h : pointBytes? c = some bytes) : c.isSurrogate = false := by
  rw [← Bool.not_eq_true, ← pointBytes?_eq_none, h]
  simp

/-- A text has bytes just if it holds no surrogate. -/
lemma exists_encodeUtf8? {t : Text} : (∃ bytes, encodeUtf8? t = some bytes) ↔ Encodable t := by
  induction t with
  | nil => simp [encodeUtf8?]
  | cons c t ih =>
    rw [encodable_cons, ← ih, encodeUtf8?]
    cases hpoint : pointBytes? c with
    | none => simp [pointBytes?_eq_none.1 hpoint]
    | some first =>
      cases encodeUtf8? t <;> simp [not_isSurrogate_of_pointBytes? hpoint]

lemma toNat_toUInt8 {n : Nat} (h : n < 0x100) : n.toUInt8.toNat = n := by
  simpa using Nat.mod_eq_of_lt h

lemma continuationBits?_tail (n : Nat) :
    continuationBits? (0x80 + n % 0x40).toUInt8 = some (n % 0x40) := by
  have hbyte : (0x80 + n % 0x40).toUInt8.toNat = 0x80 + n % 0x40 := toNat_toUInt8 (by omega)
  rw [continuationBits?, hbyte, if_pos (by omega)]
  simp

lemma sequencePoint?_val {least : Nat} {c : CodePoint} (hleast : least ≤ c.val)
    (hplain : c.isSurrogate = false) : sequencePoint? least c.val = some c := by
  have hc : CodePoint.ofNat? c.val = some c := dif_pos c.isLt
  simp [sequencePoint?, hc, hleast, hplain]

/-- The bytes of a character are read as this character, whatever follows. -/
lemma decodeUtf8?_pointBytes? {c : CodePoint} {first : List UInt8} (h : pointBytes? c = some first)
    (rest : List UInt8) : decodeUtf8? (first ++ rest) = (decodeUtf8? rest).map (c :: ·) := by
  have hplain := not_isSurrogate_of_pointBytes? h
  have hlimit := c.isLt
  simp only [pointBytes?, hplain] at h
  split_ifs at h with hone htwo hfour <;> obtain rfl := Option.some.inj h
  · have hbyte := toNat_toUInt8 (n := c.val) (by omega)
    have hpoint := sequencePoint?_val (Nat.zero_le c.val) hplain
    rw [List.cons_append, List.nil_append, decodeUtf8?.eq_def]
    simp only [hbyte, hone, if_true, hpoint, Option.bind_eq_bind, Option.bind_some]
    cases decodeUtf8? rest <;> rfl
  · have hbyte := toNat_toUInt8 (n := 0xc0 + c.val / 0x40) (by omega)
    have hvalue : (0xc0 + c.val / 0x40 - 0xc0) * 0x40 + c.val / 1 % 0x40 = c.val := by omega
    have hpoint : sequencePoint? 0x80 c.val = some c := sequencePoint?_val (by omega) hplain
    simp only [List.cons_append, List.nil_append, decodeUtf8?, hbyte]
    rw [if_neg (by omega), if_pos (by omega), continuationBits?_tail]
    simp only [Option.bind_eq_bind, Option.bind_some, hvalue, hpoint]
    cases decodeUtf8? rest <;> rfl
  · have hbyte := toNat_toUInt8 (n := 0xe0 + c.val / 0x1000) (by omega)
    have hvalue : ((0xe0 + c.val / 0x1000 - 0xe0) * 0x40 + c.val / 0x40 % 0x40) * 0x40
        + c.val / 1 % 0x40 = c.val := by omega
    have hpoint : sequencePoint? 0x800 c.val = some c := sequencePoint?_val (by omega) hplain
    simp only [List.cons_append, List.nil_append, decodeUtf8?, hbyte]
    rw [if_neg (by omega), if_neg (by omega), if_pos (by omega), continuationBits?_tail,
      continuationBits?_tail]
    simp only [Option.bind_eq_bind, Option.bind_some, hvalue, hpoint]
    cases decodeUtf8? rest <;> rfl
  · have hbyte := toNat_toUInt8 (n := 0xf0 + c.val / 0x40000) (by omega)
    have hvalue : (((0xf0 + c.val / 0x40000 - 0xf0) * 0x40 + c.val / 0x1000 % 0x40) * 0x40
        + c.val / 0x40 % 0x40) * 0x40 + c.val / 1 % 0x40 = c.val := by omega
    have hpoint : sequencePoint? 0x10000 c.val = some c := sequencePoint?_val (by omega) hplain
    simp only [List.cons_append, List.nil_append, decodeUtf8?, hbyte]
    rw [if_neg (by omega), if_neg (by omega), if_neg (by omega), if_pos (by omega),
      continuationBits?_tail, continuationBits?_tail, continuationBits?_tail]
    simp only [Option.bind_eq_bind, Option.bind_some, hvalue, hpoint]
    cases decodeUtf8? rest <;> rfl

/-- What was written is read back. -/
lemma decodeUtf8?_of_encodeUtf8? {t : Text} {bytes : List UInt8} (h : encodeUtf8? t = some bytes) :
    decodeUtf8? bytes = some t := by
  induction t generalizing bytes with
  | nil =>
    obtain rfl := Option.some.inj h
    rfl
  | cons c t ih =>
    rw [encodeUtf8?] at h
    obtain ⟨first, hfirst, h⟩ := Option.bind_eq_some_iff.1 h
    obtain ⟨more, hmore, h⟩ := Option.bind_eq_some_iff.1 h
    obtain rfl := Option.some.inj h
    rw [decodeUtf8?_pointBytes? hfirst, ih hmore, Option.map_some]

lemma findFrom?_eq_none {p : CodePoint → Bool} {t : Text} (position : Nat) :
    findFrom? p position t = none ↔ ∀ c ∈ t, p c = false := by
  induction t generalizing position with
  | nil => simp [findFrom?]
  | cons c t ih => cases hc : p c <;> simp [findFrom?, hc, ih]

lemma findFrom?_ne_nil {p : CodePoint → Bool} {t : Text} (position place : Nat) :
    findFrom? p position t ≠ some (place, []) := by
  induction t generalizing position with
  | nil => simp [findFrom?]
  | cons c t ih =>
    cases hc : p c with
    | true => simp [findFrom?, hc]
    | false => simpa [findFrom?, hc] using ih (position + 1)

end Text

namespace SurrogateRun

lemma find?_eq_none {counts : CodePoint → Bool} {t : Text} :
    find? counts t = none ↔ ∀ c ∈ t, (c.isSurrogate && counts c) = false := by
  rw [← Text.findFrom?_eq_none 0, find?]
  split
  · rename_i hfound
    simp [hfound]
  · rename_i hfound
    rw [iff_true_left rfl]
    cases hfind : Text.findFrom? (fun c => c.isSurrogate && counts c) 0 t with
    | none => rfl
    | some found =>
      obtain ⟨place, rest⟩ := found
      cases rest with
      | nil => exact absurd hfind (Text.findFrom?_ne_nil 0 place)
      | cons c rest => exact absurd hfind (hfound place c rest)

/-- Nothing is found just if the text can be written. -/
lemma find?_all_eq_none {t : Text} : find? (fun _ => true) t = none ↔ t.Encodable := by
  simp [find?_eq_none, Text.Encodable]

end SurrogateRun

namespace CodePoint

/-- Surrogates are not printable. -/
lemma not_isSurrogate_of_isPrintable {c : CodePoint} (h : c.isPrintable = true) :
    c.isSurrogate = false := by
  by_contra hsurrogate
  simp only [isSurrogate, Bool.not_eq_false, Bool.and_eq_true, decide_eq_true_eq] at hsurrogate
  -- The first range that reaches the surrogates covers them all.
  obtain ⟨rest, htable⟩ :
      ∃ rest, unprintableRanges.dropWhile (fun range => decide (range.2 < 0xd800)) =
        (0xd7fc, 0xf8ff) :: rest :=
    List.head?_eq_some_iff.1 (by decide +kernel)
  have hcontains : unprintableRanges.contains c.val = true := by
    rw [← RangeTable.contains_dropWhile hsurrogate.1, htable, RangeTable.contains,
      if_pos (by omega)]
    simpa using by omega
  simp [isPrintable, hcontains] at h

end CodePoint

namespace Text

lemma Printable.encodable {t : Text} (h : Printable t) : Encodable t :=
  fun c hc => CodePoint.not_isSurrogate_of_isPrintable (h c hc)

end Text

end EventScript
