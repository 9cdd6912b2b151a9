import EventScript.Json.Printer
import EventScript.Proofs.Json.Equality
import EventScript.Proofs.Json.Reading

/-! JSON texts. Whatever is read holds each key once in each of its objects. A value that is written
with its parts on lines of their own is read back, as long as it does so too and holds no double. -/
namespace EventScript

namespace Json

namespace Parser

lemma keyed_of_unsigned? {negative : Bool} {t rest : Text} {v : Json}
    (h : unsigned? negative t = some (v, rest)) : v.Keyed := by
  unfold unsigned? at h
  obtain ⟨⟨whole, behind⟩, -, h⟩ := Option.bind_eq_some_iff.1 h
  dsimp only at h
  split at h
  · obtain ⟨rfl, -⟩ := Prod.mk.inj (Option.some.inj h)
    exact .int _
  · obtain ⟨rfl, -⟩ := Prod.mk.inj (Option.some.inj h)
    exact .float _

lemma keyed_of_scalar? {t rest : Text} {v : Json} (h : scalar? t = some (v, rest)) : v.Keyed := by
  have hwords : ∀ entry ∈ words, entry.2.Keyed := by
    simp only [words, List.mem_cons, List.not_mem_nil, or_false, forall_eq_or_imp, forall_eq]
    exact ⟨.null, .bool _, .bool _, .float _, .float _, .float _⟩
  unfold scalar? at h
  split at h
  · rename_i result hword
    obtain rfl := Option.some.inj h
    obtain ⟨entry, hentry, hresult⟩ := List.exists_of_findSome?_eq_some hword
    obtain ⟨behind, -, hpair⟩ := Option.map_eq_some_iff.1 hresult
    obtain ⟨rfl, -⟩ := Prod.mk.inj hpair
    exact hwords entry hentry
  · split at h
    · split_ifs at h <;> exact keyed_of_unsigned? h
    · cases h

section Brackets

variable {α : Type} {P : α → Prop} {part? : Text → Option (α × Text)} {closing : CodePoint}
  {limit : Nat} {t rest : Text} {parts : List α}

/-- What holds of every part that can be read holds of those between brackets. -/
lemma forall_of_parts? (hpart : ∀ {t a rest}, part? t = some (a, rest) → P a)
    (h : parts? part? closing limit t = some (parts, rest)) : ∀ a ∈ parts, P a := by
  induction limit generalizing t parts rest with
  | zero => cases h
  | succ limit ih =>
    rw [parts?] at h
    obtain ⟨⟨a, behind⟩, ha, h⟩ := Option.bind_eq_some_iff.1 h
    dsimp only at h
    split at h
    · cases h
    · split_ifs at h
      · obtain ⟨rfl, -⟩ := Prod.mk.inj (Option.some.inj h)
        simpa using hpart ha
      · obtain ⟨more, hmore, h⟩ := Option.bind_eq_some_iff.1 h
        obtain ⟨rfl, -⟩ := Prod.mk.inj (Option.some.inj h)
        exact List.forall_mem_cons.2 ⟨hpart ha, ih hmore⟩

lemma forall_of_bracketed? (hpart : ∀ {t a rest}, part? t = some (a, rest) → P a)
    (h : bracketed? part? closing limit t = some (parts, rest)) : ∀ a ∈ parts, P a := by
  unfold bracketed? at h
  split at h
  · cases h
  · split_ifs at h
    · obtain ⟨rfl, -⟩ := Prod.mk.inj (Option.some.inj h)
      exact nofun
    · exact forall_of_parts? hpart h

end Brackets

lemma of_field? {P : Json → Prop} {key? : Text → Option (Text × Text)}
    {value? : Text → Option (Json × Text)}
    (hvalue : ∀ {t v rest}, value? t = some (v, rest) → P v) {t rest : Text} {field : Text × Json}
    (h : field? key? value? t = some (field, rest)) : P field.2 := by
  obtain ⟨key, -, h⟩ := Option.bind_eq_some_iff.1 h
  dsimp only at h
  split at h
  · cases h
  · split_ifs at h
    obtain ⟨read, hread, h⟩ := Option.bind_eq_some_iff.1 h
    obtain ⟨rfl, -⟩ := Prod.mk.inj (Option.some.inj h)
    exact hvalue hread

lemma keyed_of_value? {fuel : Nat} {t rest : Text} {v : Json}
    (h : value? fuel t = some (v, rest)) : v.Keyed := by
  induction fuel generalizing t v rest with
  | zero => cases h
  | succ fuel ih =>
    cases t with
    | nil => cases h
    | cons c t =>
      rw [value?] at h
      split_ifs at h
      · obtain ⟨read, -, hpair⟩ := Option.map_eq_some_iff.1 h
        obtain ⟨rfl, -⟩ := Prod.mk.inj hpair
        exact .str _
      · obtain ⟨read, hread, hpair⟩ := Option.map_eq_some_iff.1 h
        obtain ⟨rfl, -⟩ := Prod.mk.inj hpair
        exact .arr (forall_of_bracketed? ih hread)
      · obtain ⟨read, hread, hpair⟩ := Option.map_eq_some_iff.1 h
        obtain ⟨rfl, -⟩ := Prod.mk.inj hpair
        exact .obj (nodup_collectPairs _) fun field hfield =>
          forall_of_bracketed? (of_field? ih) hread field (mem_of_mem_collectPairs hfield)
      · exact keyed_of_scalar? h

end Parser

/-- The objects of a value that was read hold each key once. -/
theorem keyed_of_parse? {t : Text} {v : Json} (h : parse? t = some v) : v.Keyed := by
  obtain ⟨⟨read, rest⟩, hread, h⟩ := Option.bind_eq_some_iff.1 h
  dsimp only at h
  split_ifs at h
  obtain rfl := Option.some.inj h
  exact Parser.keyed_of_value? hread

end Json

namespace Text

/-- Only zero itself starts with a zero. -/
lemma head?_ofNat_ne {n : Nat} (h : 0 < n) : (ofNat n).head? ≠ some (CodePoint.ofChar '0') := by
  induction n using Nat.strongRecOn with
  | ind n ih =>
    by_cases hsmall : n < 10
    · interval_cases n <;> decide
    · have hfront := ih (n / 10) (by omega) (by omega)
      rw [ofNat, Nat.toDigits_of_base_le (by decide) (by omega), List.map_append]
      rwa [List.head?_append_of_ne_nil _ (by simp)]

lemma digitsValue_ofNat (n : Nat) : Json.Parser.digitsValue (ofNat n) = n := by
  rw [Json.Parser.digitsValue, ofNat, List.foldl_map]
  exact Nat.ofDigitChars_ten_toDigits

end Text

namespace Json

open CodePoint EventScript.Json.Parser Dialect

namespace Parser

/-! ### Strings -/

lemma hexFour?_hex {n : Nat} (h : n < 0x10000) (rest : Text) :
    hexFour? (Text.hex 4 n ++ rest) = some (n, rest) := by
  have hvalue : ((n / 16 ^ 3 % 16 * 16 + n / 16 ^ 2 % 16) * 16 + n / 16 ^ 1 % 16) * 16
      + n / 16 ^ 0 % 16 = n := by omega
  rw [Text.hex_succ, Text.hex_succ, Text.hex_succ, Text.hex_succ]
  simp only [Text.hex, List.cons_append, List.nil_append, hexFour?, Text.hexValue?_hexDigit,
    Option.bind_eq_bind, Option.bind_some, hvalue]
  rfl

lemma numberEscape?_hex {c : CodePoint} (h : c.val < 0x20) (rest : Text) :
    numberEscape? (Text.hex 4 c.val ++ rest) = some (c, rest) := by
  have hlow : ¬(0xd800 ≤ c.val ∧ c.val ≤ 0xdbff) := by omega
  have hc : CodePoint.ofNat? c.val = some c := dif_pos c.isLt
  simp [numberEscape?, hexFour?_hex (by omega : c.val < 0x10000), hlow, hc]

variable {fuel : Nat} {reversed rest : Text}

/-- A character of a written string stands for itself, or is escaped by a letter or its number. -/
lemma stringChar_cases (c : CodePoint) :
    (∃ letter, letter ≠ CodePoint.ofChar 'u' ∧ simpleEscape? letter = some c ∧
      stringChar c = Text.charEscape letter) ∨
    (c.val < 0x20 ∧ stringChar c = Text.hexEscape 'u' 4 c.val) ∨
    (c ≠ doubleQuote ∧ c ≠ backslash ∧ ¬c.val < 0x20 ∧ stringChar c = [c]) := by
  by_cases hmark : c = doubleQuote ∨ c = backslash
  · refine .inl ⟨c, ?_, ?_, if_pos hmark⟩ <;> rcases hmark with rfl | rfl <;> decide
  by_cases hline : c = newline ∨ c = carriageReturn ∨ c = tab
  · refine .inl ?_
    rcases hline with rfl | rfl | rfl
    · exact ⟨'n', by decide, rfl, rfl⟩
    · exact ⟨'r', by decide, rfl, rfl⟩
    · exact ⟨'t', by decide, rfl, rfl⟩
  have hescape : Text.lineEscape? c = none := by
    rw [not_or, not_or] at hline
    simp [Text.lineEscape?, hline]
  by_cases hback : c.val = 0x08
  · obtain rfl : c = ⟨0x08, by decide⟩ := by cases c; simp_all
    exact .inl ⟨'b', by decide, rfl, rfl⟩
  by_cases hfeed : c.val = 0x0c
  · obtain rfl : c = ⟨0x0c, by decide⟩ := by cases c; simp_all
    exact .inl ⟨'f', by decide, rfl, rfl⟩
  rw [stringChar, if_neg hmark, hescape]
  simp only [hback, hfeed, if_false]
  by_cases hcontrol : c.val < 0x20
  · exact .inr (.inl ⟨hcontrol, if_pos hcontrol⟩)
  · exact .inr (.inr ⟨fun h => hmark (.inl h), fun h => hmark (.inr h), hcontrol, if_neg hcontrol⟩)

/-- A character of a written string is read back. -/
lemma string?_stringChar (c : CodePoint) :
    string? (fuel + 1) reversed (stringChar c ++ rest) = string? fuel (c :: reversed) rest := by
  have hquote : backslash ≠ doubleQuote := by decide
  rcases stringChar_cases c with ⟨letter, hletter, hescape, hchar⟩ | ⟨hcontrol, hchar⟩ |
      ⟨hne, hplain, hcontrol, hchar⟩
  · rw [hchar, Text.charEscape, List.cons_append, List.cons_append, List.nil_append, string?,
      if_neg hquote, if_pos rfl]
    simp only [hletter, if_false, hescape, Option.bind_eq_bind, Option.bind_some]
  · rw [hchar, Text.hexEscape, List.cons_append, List.cons_append, string?, if_neg hquote,
      if_pos rfl]
    simp only [if_true, numberEscape?_hex hcontrol, Option.bind_eq_bind, Option.bind_some]
  · rw [hchar, List.cons_append, List.nil_append, string?.eq_def]
    simp only [hne, hplain, hcontrol, if_false]

/-- A written string is read back, whatever stands behind its closing quote. -/
lemma string?_flatMap {t : Text} (h : t.length < fuel) :
    string? fuel reversed (t.flatMap stringChar ++ doubleQuote :: rest) =
      some (reversed.reverse ++ t, rest) := by
  induction t generalizing fuel reversed with
  | nil =>
    obtain ⟨fuel, rfl⟩ := Nat.exists_eq_add_one.2 (Nat.zero_lt_of_lt h)
    rw [List.flatMap_nil, List.nil_append, List.append_nil, string?.eq_def]
    simp only [if_true]
  | cons c t ih =>
    obtain ⟨fuel, rfl⟩ := Nat.exists_eq_add_one.2 (Nat.zero_lt_of_lt h)
    rw [List.flatMap_cons, List.append_assoc, string?_stringChar,
      ih (by simpa using h), List.reverse_cons, List.append_assoc, List.singleton_append]

/-! ### Numbers and words -/

lemma isDigit_of_mem_ofNat {n : Nat} {c : CodePoint} (h : c ∈ Text.ofNat n) :
    c.isDigit = true := by
  obtain ⟨hlow, hhigh⟩ := Text.digit_of_mem_ofNat h
  simp [isDigit, hlow, hhigh]

lemma not_isDigit_of_not_isWordPart {c : CodePoint} (h : isWordPart c = false) :
    c.isDigit = false := by
  by_contra hdigit
  simp [isWordPart, isAlphanumeric, hdigit] at h

lemma whole?_ofNat (n : Nat) (hrest : Stops rest) :
    whole? (Text.ofNat n ++ rest) = some (Text.ofNat n, rest) := by
  rcases Nat.eq_zero_or_pos n with rfl | hpos
  · rfl
  · have hne := Text.head?_ofNat_ne hpos
    have hdigits : ∀ c ∈ Text.ofNat n, c.isDigit = true := fun c => isDigit_of_mem_ofNat
    have htake : (Text.ofNat n ++ rest).takeWhile isDigit = Text.ofNat n ∧
        (Text.ofNat n ++ rest).dropWhile isDigit = rest := by
      rw [List.takeWhile_append_of_pos hdigits, List.dropWhile_append_of_pos hdigits]
      cases rest with
      | nil => simp
      | cons c rest => simp [not_isDigit_of_not_isWordPart (hrest c rfl)]
    cases hnumeral : Text.ofNat n with
    | nil => simp [Text.ofNat] at hnumeral
    | cons c more =>
      rw [hnumeral] at hne hdigits htake
      rw [List.cons_append] at htake ⊢
      rw [whole?, if_neg (by simpa using hne), if_pos (hdigits c (by simp)), htake.1, htake.2]

lemma fraction?_of_stops (h : Stops rest) : fraction? rest = none := by
  cases rest with
  | nil => rfl
  | cons c rest =>
    have hpoint : c ≠ '.' := (ne_of_isWordPart (by decide) (h c rfl)).symm
    simp [fraction?, hpoint]

lemma exponent?_of_stops (h : Stops rest) : exponent? rest = none := by
  cases rest with
  | nil => rfl
  | cons c rest =>
    have hlower : c ≠ 'e' := (ne_of_isWordPart (by decide) (h c rfl)).symm
    have hupper : c ≠ 'E' := (ne_of_isWordPart (by decide) (h c rfl)).symm
    simp [exponent?, hlower, hupper]

lemma unsigned?_ofNat (negative : Bool) (n : Nat) (hrest : Stops rest) :
    unsigned? negative (Text.ofNat n ++ rest) =
      some (.int (if negative then -(n : Int) else n), rest) := by
  simp only [unsigned?, whole?_ofNat n hrest, fraction?_of_stops hrest, exponent?_of_stops hrest,
    Text.digitsValue_ofNat, Option.bind_eq_bind, Option.bind_some]
  rfl

/-- No word starts with a digit, or with a minus sign and a digit. -/
lemma after?_words {c : CodePoint} (hc : c.isDigit = true) (rest : Text) :
    ∀ entry ∈ words, Text.after? entry.1 (c :: rest) = none ∧
      Text.after? entry.1 (CodePoint.ofChar '-' :: c :: rest) = none := by
  have hne : ∀ letter : Char, (CodePoint.ofChar letter).isDigit = false →
      CodePoint.ofChar letter ≠ c := by
    rintro letter hletter rfl
    rw [hc] at hletter
    cases hletter
  simp only [words, List.mem_cons, List.not_mem_nil, or_false, forall_eq_or_imp, forall_eq]
  refine ⟨⟨?_, rfl⟩, ⟨?_, rfl⟩, ⟨?_, rfl⟩, ⟨?_, rfl⟩, ⟨?_, rfl⟩, ?_, ?_⟩
  · exact if_neg (hne 'n' (by decide))
  · exact if_neg (hne 't' (by decide))
  · exact if_neg (hne 'f' (by decide))
  · exact if_neg (hne 'N' (by decide))
  · exact if_neg (hne 'I' (by decide))
  · exact if_neg (hne '-' (by decide))
  · exact if_neg (hne 'I' (by decide))

lemma findSome?_words {t : Text} (h : ∀ entry ∈ words, Text.after? entry.1 t = none) :
    (words.findSome? fun entry => (Text.after? entry.1 t).map fun rest => (entry.2, rest)) =
      none := by
  rw [List.findSome?_eq_none_iff]
  intro entry hentry
  rw [h entry hentry, Option.map_none]

lemma scalar?_ofInt (n : Int) (hrest : Stops rest) :
    scalar? (Text.ofInt n ++ rest) = some (.int n, rest) := by
  have hnumeral : ∀ m : Nat, ∃ c more, Text.ofNat m = c :: more ∧ c.isDigit = true := by
    intro m
    cases h : Text.ofNat m with
    | nil => simp [Text.ofNat] at h
    | cons c more => exact ⟨c, more, rfl, isDigit_of_mem_ofNat (n := m) (by simp [h])⟩
  cases n with
  | ofNat m =>
    obtain ⟨c, more, heq, hc⟩ := hnumeral m
    have hread := unsigned?_ofNat false m hrest
    have hsign : c ≠ '-' := by
      rintro rfl
      cases hc
    rw [Text.ofInt, heq, List.cons_append] at *
    rw [scalar?, findSome?_words fun entry hentry => (after?_words hc _ entry hentry).1]
    simpa [hsign] using hread
  | negSucc m =>
    obtain ⟨c, more, heq, hc⟩ := hnumeral (m + 1)
    have hread := unsigned?_ofNat true (m + 1) hrest
    rw [Text.ofInt, heq, List.cons_append, List.cons_append] at *
    rw [scalar?, findSome?_words fun entry hentry => (after?_words hc _ entry hentry).2]
    exact hread

end Parser

/-! ### Values on lines of their own -/

lemma Dialect.Starts.length_pos {t : Text} (h : Starts t) : 0 < t.length := by
  obtain ⟨c, hc, -⟩ := h
  obtain ⟨rest, rfl⟩ := List.head?_eq_some_iff.1 (Option.mem_def.1 hc)
  simp

lemma itemLines_eq (items : List Json) (depth : Nat) :
    itemLines items depth = items.map fun v => v.renderLinesAt depth := by
  induction items with
  | nil => rfl
  | cons v items ih => rw [itemLines, ih, List.map_cons]

lemma renderLinesAt_arr (items : List Json) (depth : Nat) :
    (Json.arr items).renderLinesAt depth =
      bracketLines [CodePoint.ofChar '['] [CodePoint.ofChar ']'] depth
        (items.map fun v => v.renderLinesAt (depth + 1)) := by
  rw [renderLinesAt, itemLines_eq]
  rfl

/-- A field as it stands on a line. -/
def fieldLine (depth : Nat) (field : Text × Json) : Text :=
  renderString field.1 ++ ": " ++ field.2.renderLinesAt depth

lemma fieldLines_eq (fields : List (Text × Json)) (depth : Nat) :
    fieldLines fields depth = fields.map (fieldLine depth) := by
  induction fields with
  | nil => rfl
  | cons field fields ih =>
    rw [fieldLines, ih, List.map_cons]
    rfl

lemma renderLinesAt_obj (fields : List (Text × Json)) (depth : Nat) :
    (Json.obj fields).renderLinesAt depth =
      bracketLines [openBrace] [closeBrace] depth (fields.map (fieldLine (depth + 1))) := by
  rw [renderLinesAt, fieldLines_eq]
  rfl

lemma isSpace_lineBreak (depth : Nat) : ∀ c ∈ lineBreak depth, isSpace c = true := by
  intro c hc
  rcases List.mem_cons.1 hc with rfl | hc
  · decide
  · rw [List.eq_of_mem_replicate hc]
    decide

/-- Brackets have blanks inside if there is something between them. -/
lemma bracketLines_append (opening closing : CodePoint) (depth : Nat) (parts : List Text) :
    ∃ before tail : Text, (∀ c ∈ before, isSpace c = true) ∧ (∀ c ∈ tail, isSpace c = true) ∧
      ∀ rest, bracketLines [opening] [closing] depth parts ++ rest =
        opening :: (before ++ (Text.join (CodePoint.ofChar ',' :: lineBreak (depth + 1)) parts ++
          (tail ++ closing :: rest))) := by
  cases parts with
  | nil => exact ⟨[], [], nofun, nofun, fun rest => rfl⟩
  | cons part parts =>
    refine ⟨lineBreak (depth + 1), lineBreak depth, isSpace_lineBreak _, isSpace_lineBreak _,
      fun rest => ?_⟩
    have hcomma : "," ++ lineBreak (depth + 1) =
      CodePoint.ofChar ',' :: lineBreak (depth + 1) := rfl
    simp [bracketLines, hcomma]

/-- What stands on lines between brackets is read back. -/
lemma bracketed?_bracketLines {α : Type} {part? : Text → Option (α × Text)} {write : α → Text}
    {opening closing : CodePoint} (hclosing : closing = ']' ∨ closing = closeBrace) {depth : Nat}
    {parts : List α} {limit : Nat}
    (hlimit : (bracketLines [opening] [closing] depth (parts.map write)).length ≤ limit + 1)
    (hread : ∀ a ∈ parts, (write a).length ≤ limit → ∀ rest, Stops rest →
      part? (write a ++ rest) = some (a, rest))
    (hstarts : ∀ a ∈ parts, Starts (write a)) (rest : Text) :
    ∃ behind, bracketLines [opening] [closing] depth (parts.map write) ++ rest =
        opening :: behind ∧ bracketed? part? closing limit behind = some (parts, rest) := by
  obtain ⟨before, tail, hbefore, htail, htext⟩ :=
    bracketLines_append opening closing depth (parts.map write)
  have hlength := congrArg List.length (htext [])
  simp only [List.append_nil, List.length_cons, List.length_append] at hlength
  refine ⟨_, htext rest, bracketed?_join hclosing (isSpace_lineBreak _) htail hbefore ?_ hstarts
    rest ?_⟩
  · intro a ha
    have hpart := Text.length_le_join_of_mem (CodePoint.ofChar ',' :: lineBreak (depth + 1))
      (List.mem_map_of_mem (f := write) ha)
    exact hread a ha (by omega)
  · have hparts := Text.length_parts_le_join
      (List.cons_ne_nil (CodePoint.ofChar ',') (lineBreak (depth + 1))) (parts.map write)
    rw [List.length_map] at hparts
    omega

lemma length_lt_renderString (t : Text) : t.length + 1 < (renderString t).length := by
  have hflat : t.length ≤ (t.flatMap stringChar).length := by
    induction t with
    | nil => simp
    | cons c t ih =>
      have hchar : stringChar c ≠ [] := by
        rcases Parser.stringChar_cases c with ⟨_, -, -, h⟩ | ⟨-, h⟩ | ⟨-, -, -, h⟩ <;>
          simp [h, Text.charEscape, Text.hexEscape]
      have hpos := List.length_pos_iff.2 hchar
      simp only [List.flatMap_cons, List.length_append, List.length_cons]
      omega
  simp only [renderString, List.length_append, List.length_cons, List.length_nil]
  omega

lemma quoted?_renderString {t : Text} {fuel : Nat} (h : (renderString t).length ≤ fuel)
    (rest : Text) : quoted? fuel (renderString t ++ rest) = some (t, rest) := by
  have hlength := length_lt_renderString t
  have hread : string? fuel [] (t.flatMap stringChar ++ doubleQuote :: rest) =
      some ([] ++ t, rest) := string?_flatMap (by omega)
  simpa [renderString, quoted?] using hread

lemma value?_of_isWord {word : Text} (hword : IsWord word) (rest : Text) {fuel : Nat}
    (h : word.length ≤ fuel) : Parser.value? fuel (word ++ rest) = scalar? (word ++ rest) := by
  have hmarks : isWordPart doubleQuote = false ∧ isWordPart '[' = false ∧
      isWordPart openBrace = false := by decide
  obtain ⟨c, word, rfl⟩ := List.exists_cons_of_ne_nil hword.1
  obtain ⟨fuel, rfl⟩ := Nat.exists_eq_add_one.2 (Nat.zero_lt_of_lt h)
  have hc : isWordPart c = true := hword.2 c (by simp)
  rw [List.cons_append, Parser.value?, if_neg (ne_of_isWordPart hc hmarks.1),
    if_neg (ne_of_isWordPart hc hmarks.2.1), if_neg (ne_of_isWordPart hc hmarks.2.2)]

lemma starts_renderString (t : Text) : Starts (renderString t) :=
  ⟨doubleQuote, rfl, by decide, by decide, by decide⟩

lemma starts_bracketLines {opening : CodePoint} (h : opening = '[' ∨ opening = openBrace)
    (closing : CodePoint) (depth : Nat) (parts : List Text) :
    Starts (bracketLines [opening] [closing] depth parts) := by
  have hopening : isSpace opening = false ∧ opening ≠ ']' ∧ opening ≠ closeBrace := by
    rcases h with rfl | rfl <;> decide
  obtain ⟨before, tail, -, -, htext⟩ := bracketLines_append opening closing depth parts
  have hhead := congrArg List.head? (htext [])
  rw [List.append_nil] at hhead
  exact ⟨opening, hhead, hopening⟩

lemma starts_renderLinesAt {v : Json} (hfree : v.FloatFree) (depth : Nat) :
    Starts (v.renderLinesAt depth) := by
  cases hfree with
  | null => exact (isWord_null .json).starts
  | bool b => exact (isWord_truth .json b).starts
  | int n => exact (isWord_ofInt n).starts
  | str t => exact starts_renderString t
  | arr _ =>
    rw [renderLinesAt_arr]
    exact starts_bracketLines (.inl rfl) _ _ _
  | obj _ =>
    rw [renderLinesAt_obj]
    exact starts_bracketLines (.inr rfl) _ _ _

-- As for the readers of a dialect, the text behind a value is arbitrary, and the length of the text
-- of a value bounds how deep it is nested, how many parts it has and how long its texts are.
lemma value?_renderLinesAt {v : Json} (hfree : v.FloatFree) (hkeyed : v.Keyed) {depth fuel : Nat}
    (hfuel : (v.renderLinesAt depth).length ≤ fuel) {rest : Text} (hrest : Stops rest) :
    Parser.value? fuel (v.renderLinesAt depth ++ rest) = some (v, rest) := by
  induction hfree generalizing depth fuel rest with
  | null => exact value?_of_isWord (isWord_null .json) rest hfuel
  | bool b =>
    refine (value?_of_isWord (isWord_truth .json b) rest hfuel).trans ?_
    cases b <;> rfl
  | int n => exact (value?_of_isWord (isWord_ofInt n) rest hfuel).trans (scalar?_ofInt n hrest)
  | str t =>
    have hlength := length_lt_renderString t
    have hfuel : (renderString t).length ≤ fuel := hfuel
    obtain ⟨fuel, rfl⟩ := Nat.exists_eq_add_one.2 (by omega : 0 < fuel)
    have htext : (Json.str t).renderLinesAt depth ++ rest =
        doubleQuote :: (t.flatMap stringChar ++ doubleQuote :: rest) := by
      simp [renderLinesAt, renderScalar, renderString]
    rw [htext, Parser.value?, if_pos rfl, string?_flatMap (by omega)]
    rfl
  | @arr items hitems ih =>
    cases hkeyed with
    | arr hkeyed =>
      have hpos := (starts_renderLinesAt (.arr hitems) depth).length_pos
      obtain ⟨fuel, rfl⟩ := Nat.exists_eq_add_one.2 (hpos.trans_le hfuel)
      rw [renderLinesAt_arr] at hfuel ⊢
      obtain ⟨behind, htext, hread⟩ := bracketed?_bracketLines (.inl rfl) hfuel
        (fun v hv hlength rest hrest => ih v hv (hkeyed v hv) hlength hrest)
        (fun v hv => starts_renderLinesAt (hitems v hv) _) rest
      have hmark : CodePoint.ofChar '[' ≠ doubleQuote := by decide
      rw [htext, Parser.value?, if_neg hmark, if_pos rfl, hread, Option.map_some]
  | @obj fields hfields ih =>
    cases hkeyed with
    | obj distinct hkeyed =>
      have hpos := (starts_renderLinesAt (.obj hfields) depth).length_pos
      obtain ⟨fuel, rfl⟩ := Nat.exists_eq_add_one.2 (hpos.trans_le hfuel)
      rw [renderLinesAt_obj] at hfuel ⊢
      have hfield : ∀ field ∈ fields, (fieldLine (depth + 1) field).length ≤ fuel →
          ∀ rest, Stops rest → field? (quoted? fuel) (Parser.value? fuel)
            (fieldLine (depth + 1) field ++ rest) = some (field, rest) := by
        intro field hmem hlength rest hrest
        simp only [fieldLine, List.length_append] at hlength
        exact field?_append (quoted?_renderString (by omega))
          (starts_renderLinesAt (hfields field hmem) _)
          (ih field hmem (hkeyed field hmem) (by omega) hrest)
      obtain ⟨behind, htext, hread⟩ := bracketed?_bracketLines (.inr rfl) hfuel hfield
        (fun field _ => ((starts_renderString field.1).append _).append _) rest
      have hmark : openBrace ≠ doubleQuote ∧ openBrace ≠ CodePoint.ofChar '[' := by decide
      rw [htext, Parser.value?, if_neg hmark.1, if_neg hmark.2, if_pos rfl, hread, Option.map_some]
      simp only [collectPairs_of_nodup distinct]

/-- A value without doubles is read back from the lines it is written on just if its objects hold
each key once. -/
theorem parse?_renderLines {v : Json} (hfree : v.FloatFree) :
    parse? v.renderLines = some v ↔ v.Keyed := by
  refine ⟨keyed_of_parse?, fun hkeyed => ?_⟩
  have hlength : (v.renderLinesAt 0).length ≤ 2 * (v.renderLinesAt 0).length + 2 := by omega
  have hread := value?_renderLinesAt hfree hkeyed hlength stops_nil
  rw [List.append_nil] at hread
  simp only [renderLines, parse?, (starts_renderLinesAt hfree 0).skipSpace, hread,
    Option.bind_eq_bind, Option.bind_some]
  rfl

end Json

end EventScript
