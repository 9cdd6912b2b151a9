import EventScript.Proofs.Script.Lines
import EventScript.Proofs.Text.Numeral
import EventScript.Proofs.Text.Quotation
import EventScript.Script.Literal

/-! Nested values are read back. Scripts and JSON spell values alike, apart from the words for null
and the truth values and from the quotes around texts. A reader that knows these recovers a value
without doubles from its text, and stops where the text ends. -/
namespace EventScript

namespace Text

lemma length_le_join_of_mem (separator : Text) {part : Text} {parts : List Text}
    (h : part ∈ parts) : part.length ≤ (join separator parts).length := by
  fun_induction join separator parts with
  | case1 => cases h
  | case2 t => rw [List.mem_singleton.1 h]
  | case3 t rest _ ih =>
    rcases List.mem_cons.1 h with rfl | hrest
    · simp only [List.length_append]
      omega
    · have hlength := ih hrest
      simp only [List.length_append]
      omega

lemma length_parts_le_join {separator : Text} (h : separator ≠ []) (parts : List Text) :
    parts.length ≤ (join separator parts).length + 1 := by
  have hseparator := List.length_pos_iff.2 h
  fun_induction join separator parts with
  | case1 => simp
  | case2 t => simp
  | case3 t rest _ ih =>
    simp only [List.length_cons, List.length_append]
    omega

/-- The first part of a joined text. -/
lemma join_eq_append (separator part : Text) (parts : List Text) :
    ∃ rest, join separator (part :: parts) = part ++ rest := by
  cases parts with
  | nil => exact ⟨[], by simp [join]⟩
  | cons next parts => exact ⟨separator ++ join separator (next :: parts), by simp [join]⟩

end Text

namespace Json

open CodePoint EventScript.Json.Parser

/-- The values that hold no double. -/
inductive FloatFree : Json → Prop
  | null : FloatFree .null
  | bool (b : Bool) : FloatFree (.bool b)
  | int (n : Int) : FloatFree (.int n)
  | str (t : Text) : FloatFree (.str t)
  | arr {items : List Json} (h : ∀ v ∈ items, FloatFree v) : FloatFree (.arr items)
  | obj {fields : List (Text × Json)} (h : ∀ field ∈ fields, FloatFree field.2) :
      FloatFree (.obj fields)

/-- How values are spelled: as literals of a script, or as JSON. -/
inductive Dialect where
  | script
  | json

namespace Dialect

def null : Dialect → Text
  | .script => "None"
  | .json => "null"

def truth : Dialect → Bool → Text
  | .script, b => if b then "True" else "False"
  | .json, b => if b then "true" else "false"

/-- The quote around texts. -/
def mark : Dialect → CodePoint
  | .script => singleQuote
  | .json => doubleQuote

/-- The characters of words and numerals. -/
def isWordPart (c : CodePoint) : Bool :=
  c.isAlphanumeric || c = '_' || c = '.' || c = '+' || c = '-'

/-- The value that a word or a numeral stands for. -/
def word? (d : Dialect) (word : Text) : Option Json :=
  if word = d.null then some .null
  else if word = d.truth true then some (.bool true)
  else if word = d.truth false then some (.bool false)
  else word.toInt?.map .int

/-- A value at the start of a text, nested no deeper than `depth`, and the text behind it. -/
def value? (d : Dialect) : Nat → Text → Option (Json × Text)
  | 0, _ => none
  | _ + 1, [] => none
  | depth + 1, c :: rest =>
    if c = d.mark then
      (Text.unquote? d.mark (c :: rest)).map fun (t, rest) => (.str t, rest)
    else if c = '[' then
      (bracketed? (d.value? depth) ']' rest.length rest).map fun (items, rest) => (.arr items, rest)
    else if c = openBrace then
      (bracketed? (field? (Text.unquote? d.mark) (d.value? depth)) closeBrace rest.length rest).map
        fun (fields, rest) => (.obj fields, rest)
    else
      (d.word? ((c :: rest).takeWhile isWordPart)).map fun v =>
        (v, (c :: rest).dropWhile isWordPart)

/-- A value at the start of a text, and the text behind it. -/
def read? (d : Dialect) (t : Text) : Option (Json × Text) := d.value? t.length t

/-! ### What writers of a dialect have in common -/

/-- A text that does not continue a word or a numeral before it. -/
def Stops (t : Text) : Prop := ∀ c ∈ t.head?, isWordPart c = false

lemma stops_nil : Stops [] := nofun

/-- A text that starts neither with a space nor with a closing bracket. -/
def Starts (t : Text) : Prop := ∃ c ∈ t.head?, isSpace c = false ∧ c ≠ ']' ∧ c ≠ closeBrace

lemma Starts.append {t : Text} (h : Starts t) (rest : Text) : Starts (t ++ rest) := by
  obtain ⟨c, hc, hstart⟩ := h
  exact ⟨c, by simp [List.head?_append, Option.mem_def.1 hc], hstart⟩

lemma Starts.skipSpace {t : Text} (h : Starts t) : skipSpace t = t := by
  obtain ⟨c, hc, hspace, -⟩ := h
  obtain ⟨rest, rfl⟩ := List.head?_eq_some_iff.1 (Option.mem_def.1 hc)
  simp [Parser.skipSpace, hspace]

lemma skipSpace_append {blanks : Text} (h : ∀ c ∈ blanks, isSpace c = true) (t : Text) :
    Parser.skipSpace (blanks ++ t) = Parser.skipSpace t :=
  List.dropWhile_append_of_pos h

lemma starts_join {separator part : Text} (h : Starts part) (parts : List Text) :
    Starts (Text.join separator (part :: parts)) := by
  obtain ⟨rest, hrest⟩ := Text.join_eq_append separator part parts
  rw [hrest]
  exact h.append rest

lemma ne_of_isWordPart {c e : CodePoint} (hc : isWordPart c = true) (he : isWordPart e = false) :
    c ≠ e := by
  rintro rfl
  rw [hc] at he
  cases he

lemma isSpace_of_isWordPart {c : CodePoint} (h : isWordPart c = true) : isSpace c = false := by
  have hspaces : ∀ n < 0x21, (hn : n < 0x110000) → isSpace ⟨n, hn⟩ = true →
      isWordPart ⟨n, hn⟩ = false := by
    decide
  by_contra hspace
  rw [Bool.not_eq_false] at hspace
  have hsmall : c.val < 0x21 := by
    simp only [isSpace, Bool.or_eq_true, decide_eq_true_eq] at hspace
    omega
  rw [hspaces c.val hsmall c.isLt hspace] at h
  cases h

section Brackets

variable {α : Type} {part? : Text → Option (α × Text)} {write : α → Text} {closing : CodePoint}
  {blanks tail : Text}

lemma skipSpace_closing (hclosing : closing = ']' ∨ closing = closeBrace)
    (htail : ∀ c ∈ tail, isSpace c = true) (rest : Text) :
    skipSpace (tail ++ closing :: rest) = closing :: rest := by
  have hspace : isSpace closing = false := by
    rcases hclosing with rfl | rfl <;> decide
  rw [skipSpace_append htail, skipSpace, List.dropWhile_cons_of_neg (by simp [hspace])]

lemma stops_closing (hclosing : closing = ']' ∨ closing = closeBrace)
    (htail : ∀ c ∈ tail, isSpace c = true) (rest : Text) : Stops (tail ++ closing :: rest) := by
  cases tail with
  | nil => rcases hclosing with rfl | rfl <;> simp [Stops] <;> decide
  | cons c tail =>
    intro d hd
    obtain rfl : c = d := by simpa using hd
    by_contra hpart
    rw [Bool.not_eq_false] at hpart
    have hspace := htail c (by simp)
    rw [isSpace_of_isWordPart hpart] at hspace
    cases hspace

/-- Parts are read one after the other: no part takes the comma, the blanks or the bracket behind
it. -/
lemma parts?_join (hclosing : closing = ']' ∨ closing = closeBrace)
    (hblanks : ∀ c ∈ blanks, isSpace c = true) (htail : ∀ c ∈ tail, isSpace c = true)
    {parts : List α} (hne : parts ≠ [])
    (hread : ∀ a ∈ parts, ∀ rest, Stops rest → part? (write a ++ rest) = some (a, rest))
    (hstarts : ∀ a ∈ parts, Starts (write a)) (rest : Text) (limit : Nat)
    (hlimit : parts.length ≤ limit) :
    parts? part? closing limit (Text.join (CodePoint.ofChar ',' :: blanks) (parts.map write) ++
      (tail ++ closing :: rest)) = some (parts, rest) := by
  have hcomma : CodePoint.ofChar ',' ≠ closing := by
    rcases hclosing with rfl | rfl <;> decide
  induction parts generalizing limit with
  | nil => exact absurd rfl hne
  | cons a parts ih =>
    obtain ⟨limit, rfl⟩ := Nat.exists_eq_add_one.2 (Nat.zero_lt_of_lt hlimit)
    cases parts with
    | nil =>
      have hfirst := hread a (by simp) _ (stops_closing hclosing htail rest)
      simp [parts?, Text.join, hfirst, skipSpace_closing hclosing htail]
    | cons b parts =>
      have hmore := ih (by simp) (fun a ha => hread a (by simp [ha]))
        (fun a ha => hstarts a (by simp [ha])) limit (by simpa using hlimit)
      have hstart : Starts (Text.join (CodePoint.ofChar ',' :: blanks) ((b :: parts).map write) ++
          (tail ++ closing :: rest)) :=
        (starts_join (hstarts b (by simp)) (parts.map write)).append _
      have htext : Text.join (CodePoint.ofChar ',' :: blanks) ((a :: b :: parts).map write) ++
          (tail ++ closing :: rest) = write a ++ (CodePoint.ofChar ',' :: (blanks ++
            (Text.join (CodePoint.ofChar ',' :: blanks) ((b :: parts).map write) ++
              (tail ++ closing :: rest)))) := by
        rw [List.map_cons, Text.join_cons _ _ (by simp)]
        simp only [List.append_assoc, List.cons_append]
      have hbehind : ∀ behind, Stops (CodePoint.ofChar ',' :: behind) := by
        intro behind c hc
        obtain rfl := Option.some.inj hc
        decide
      have hspace : ∀ behind, skipSpace (CodePoint.ofChar ',' :: behind) =
          CodePoint.ofChar ',' :: behind := fun behind => rfl
      rw [htext, parts?, hread a (by simp) _ (hbehind _)]
      simp only [Option.bind_eq_bind, Option.bind_some, hspace, hcomma, if_false, if_true,
        skipSpace_append hblanks, hstart.skipSpace, hmore]
      rfl

/-- What was written between brackets is read back. -/
lemma bracketed?_join (hclosing : closing = ']' ∨ closing = closeBrace)
    (hblanks : ∀ c ∈ blanks, isSpace c = true) (htail : ∀ c ∈ tail, isSpace c = true)
    {before : Text} (hbefore : ∀ c ∈ before, isSpace c = true) {parts : List α}
    (hread : ∀ a ∈ parts, ∀ rest, Stops rest → part? (write a ++ rest) = some (a, rest))
    (hstarts : ∀ a ∈ parts, Starts (write a)) (rest : Text) {limit : Nat}
    (hlimit : parts.length ≤ limit) :
    bracketed? part? closing limit (before ++ (Text.join (CodePoint.ofChar ',' :: blanks)
      (parts.map write) ++ (tail ++ closing :: rest))) = some (parts, rest) := by
  rw [bracketed?, skipSpace_append hbefore]
  cases parts with
  | nil => simp [Text.join, skipSpace_closing hclosing htail]
  | cons a parts =>
    have hstart : Starts (Text.join (CodePoint.ofChar ',' :: blanks) ((a :: parts).map write) ++
        (tail ++ closing :: rest)) :=
      (starts_join (hstarts a (by simp)) (parts.map write)).append _
    have hparts := parts?_join hclosing hblanks htail (by simp) hread hstarts rest _ hlimit
    rw [hstart.skipSpace]
    obtain ⟨c, hc, -, hbracket, hbrace⟩ := hstart
    obtain ⟨behind, hbehind⟩ := List.head?_eq_some_iff.1 (Option.mem_def.1 hc)
    have hne : c ≠ closing := by
      rcases hclosing with rfl | rfl
      · exact hbracket
      · exact hbrace
    rw [hbehind] at hparts ⊢
    simpa only [hne, if_false] using hparts

/-- The same with a comma and a space between parts, and nothing else. -/
lemma bracketed?_commas (hclosing : closing = ']' ∨ closing = closeBrace) {parts : List α}
    (hread : ∀ a ∈ parts, ∀ rest, Stops rest → part? (write a ++ rest) = some (a, rest))
    (hstarts : ∀ a ∈ parts, Starts (write a)) (rest : Text) :
    let t := Text.join ", " (parts.map write) ++ closing :: rest
    bracketed? part? closing t.length t = some (parts, rest) := by
  intro t
  have hspace : ∀ c ∈ [CodePoint.ofChar ' '], isSpace c = true := by decide
  have hnone : ∀ c ∈ ([] : Text), isSpace c = true := nofun
  have hlimit : parts.length ≤ t.length := by
    have hjoin := Text.length_parts_le_join (by decide : Text.ofString ", " ≠ []) (parts.map write)
    rw [List.length_map] at hjoin
    simp only [t, List.length_append, List.length_cons]
    omega
  exact bracketed?_join hclosing hspace hnone hnone hread hstarts rest hlimit

/-- A field is read back if its key and its value are. -/
lemma field?_append {key? : Text → Option (Text × Text)} {value? : Text → Option (Json × Text)}
    {name key written rest : Text} {v : Json}
    (hkey : ∀ rest, key? (name ++ rest) = some (key, rest)) (hstarts : Starts written)
    (hread : value? (written ++ rest) = some (v, rest)) :
    field? key? value? (name ++ ": " ++ written ++ rest) = some ((key, v), rest) := by
  have htext : name ++ ": " ++ written ++ rest =
      name ++ (CodePoint.ofChar ':' :: ([CodePoint.ofChar ' '] ++ (written ++ rest))) := by
    rw [List.append_assoc, List.append_assoc]
    rfl
  have hcolon : ∀ behind, skipSpace (CodePoint.ofChar ':' :: behind) =
      CodePoint.ofChar ':' :: behind := fun behind => rfl
  have hspace : ∀ c ∈ [CodePoint.ofChar ' '], isSpace c = true := by decide
  rw [htext, Parser.field?, hkey]
  simp only [Option.bind_eq_bind, Option.bind_some, hcolon, if_true, skipSpace_append hspace,
    (hstarts.append rest).skipSpace, hread]
  rfl

end Brackets

/-- Parts between brackets, with commas between them. -/
def bracketed (opening closing : CodePoint) (parts : List Text) : Text :=
  opening :: (Text.join ", " parts ++ [closing])

lemma bracketed_append (opening closing : CodePoint) (parts : List Text) (rest : Text) :
    bracketed opening closing parts ++ rest =
      opening :: (Text.join ", " parts ++ closing :: rest) := by
  simp [bracketed]

lemma length_lt_bracketed (opening closing : CodePoint) {part : Text} {parts : List Text}
    (h : part ∈ parts) : part.length < (bracketed opening closing parts).length := by
  have hjoin := Text.length_le_join_of_mem ", " h
  simp only [bracketed, List.length_cons, List.length_append]
  omega

/-- A function that writes values in a dialect. -/
structure Writes (d : Dialect) (write : Json → Text) : Prop where
  null : write .null = d.null
  bool : ∀ b, write (.bool b) = d.truth b
  int : ∀ n, write (.int n) = Text.ofInt n
  str : ∀ t rest, Text.unquote? d.mark (write (.str t) ++ rest) = some (t, rest)
  arr : ∀ items, write (.arr items) = bracketed '[' ']' (items.map write)
  obj : ∀ fields : List (Text × Json), write (.obj fields) =
    bracketed openBrace closeBrace
      (fields.map fun field => write (.str field.1) ++ ": " ++ write field.2)

variable {d : Dialect} {write : Json → Text}

/-- A word or a numeral. -/
def IsWord (t : Text) : Prop := t ≠ [] ∧ ∀ c ∈ t, isWordPart c = true

lemma isWord_null (d : Dialect) : IsWord d.null := by
  cases d <;> exact ⟨by decide, by decide⟩

lemma isWord_truth (d : Dialect) (b : Bool) : IsWord (d.truth b) := by
  cases d <;> cases b <;> exact ⟨by decide, by decide⟩

lemma isWord_ofInt (n : Int) : IsWord (Text.ofInt n) := by
  have hall : ∀ c ∈ Text.ofString "0123456789.e+-", isWordPart c = true := by decide
  constructor
  · cases n with
    | ofNat n => simp [Text.ofInt, Text.ofNat]
    | negSucc n => simp [Text.ofInt]
  · intro c hc
    exact hall c (Text.numeral_ofInt n c hc)

/-- A word ends where nothing continues it. -/
lemma span_word {word rest : Text} (hword : IsWord word) (hrest : Stops rest) :
    (word ++ rest).takeWhile isWordPart = word ∧ (word ++ rest).dropWhile isWordPart = rest := by
  rw [List.takeWhile_append_of_pos hword.2, List.dropWhile_append_of_pos hword.2]
  cases rest with
  | nil => simp
  | cons c rest => simp [hrest c rfl]

/-- A word is read as what it stands for. -/
lemma value?_word {word : Text} (hword : IsWord word) {rest : Text} (hrest : Stops rest)
    {depth : Nat} (hdepth : word.length ≤ depth) :
    d.value? depth (word ++ rest) = (d.word? word).map fun v => (v, rest) := by
  have hmarks : isWordPart d.mark = false ∧ isWordPart '[' = false ∧
      isWordPart openBrace = false := by
    cases d <;> decide
  obtain ⟨htake, hdrop⟩ := span_word hword hrest
  obtain ⟨c, word, rfl⟩ := List.exists_cons_of_ne_nil hword.1
  obtain ⟨depth, rfl⟩ := Nat.exists_eq_add_one.2 (Nat.zero_lt_of_lt hdepth)
  have hc : isWordPart c = true := hword.2 c (by simp)
  rw [List.cons_append, value?, if_neg (ne_of_isWordPart hc hmarks.1),
    if_neg (ne_of_isWordPart hc hmarks.2.1), if_neg (ne_of_isWordPart hc hmarks.2.2),
    ← List.cons_append, htake, hdrop]

/-- A numeral is none of the words. -/
lemma word?_ofInt (d : Dialect) (n : Int) : d.word? (Text.ofInt n) = some (.int n) := by
  have hwords : ∀ d : Dialect, ∀ word ∈ [d.null, d.truth true, d.truth false],
      ∃ c ∈ word, c ∉ Text.ofString "0123456789.e+-" := by
    intro d
    cases d <;> decide
  have hne : ∀ word ∈ [d.null, d.truth true, d.truth false], Text.ofInt n ≠ word := by
    intro word hword heq
    obtain ⟨c, hc, hnot⟩ := hwords d word hword
    exact hnot (Text.numeral_ofInt n c (heq ▸ hc))
  rw [word?, if_neg (hne _ (by simp)), if_neg (hne _ (by simp)), if_neg (hne _ (by simp)),
    Text.toInt?_ofInt]
  rfl

lemma IsWord.starts {word : Text} (h : IsWord word) : Starts word := by
  obtain ⟨c, word, rfl⟩ := List.exists_cons_of_ne_nil h.1
  have hc : isWordPart c = true := h.2 c (by simp)
  exact ⟨c, rfl, isSpace_of_isWordPart hc, ne_of_isWordPart hc (by decide),
    ne_of_isWordPart hc (by decide)⟩

lemma head?_of_unquote? {mark : CodePoint} {t : Text} {result : Text × Text}
    (h : Text.unquote? mark t = some result) : t.head? = some mark := by
  cases t with
  | nil => cases h
  | cons c t =>
    rw [Text.unquote?] at h
    split_ifs at h with hc
    rw [hc, List.head?_cons]

lemma Writes.head?_str (h : Writes d write) (t : Text) :
    (write (.str t)).head? = some d.mark := by
  have hread := h.str t []
  rw [List.append_nil] at hread
  exact head?_of_unquote? hread

lemma Writes.starts_str (h : Writes d write) (t : Text) : Starts (write (.str t)) := by
  have hmark : isSpace d.mark = false ∧ d.mark ≠ ']' ∧ d.mark ≠ closeBrace := by
    cases d <;> decide
  exact ⟨d.mark, h.head?_str t, hmark⟩

lemma Writes.starts (h : Writes d write) {v : Json} (hv : v.FloatFree) : Starts (write v) := by
  have hopen : isSpace '[' = false ∧ isSpace openBrace = false := by decide
  cases hv with
  | null =>
    rw [h.null]
    exact (isWord_null d).starts
  | bool b =>
    rw [h.bool]
    exact (isWord_truth d b).starts
  | int n =>
    rw [h.int]
    exact (isWord_ofInt n).starts
  | str t => exact h.starts_str t
  | arr _ =>
    rw [h.arr]
    exact ⟨'[', rfl, hopen.1, by decide, by decide⟩
  | obj _ =>
    rw [h.obj]
    exact ⟨openBrace, rfl, hopen.2, by decide, by decide⟩

-- The text behind a value is arbitrary, so that the induction hypothesis applies to a part with
-- whatever is written behind it. The length of a value's text bounds its nesting.
lemma Writes.value? (h : Writes d write) {v : Json} (hv : v.FloatFree) {depth : Nat}
    (hdepth : (write v).length ≤ depth) {rest : Text} (hrest : Stops rest) :
    d.value? depth (write v ++ rest) = some (v, rest) := by
  induction hv generalizing depth rest with
  | null =>
    have hword : d.word? d.null = some .null := by rw [word?, if_pos rfl]
    rw [h.null] at hdepth ⊢
    rw [value?_word (isWord_null d) hrest hdepth, hword, Option.map_some]
  | bool b =>
    have hword : d.word? (d.truth b) = some (.bool b) := by
      cases d <;> cases b <;> rfl
    rw [h.bool] at hdepth ⊢
    rw [value?_word (isWord_truth d b) hrest hdepth, hword, Option.map_some]
  | int n =>
    rw [h.int] at hdepth ⊢
    rw [value?_word (isWord_ofInt n) hrest hdepth, word?_ofInt, Option.map_some]
  | str t =>
    have hread := h.str t rest
    obtain ⟨behind, hbehind⟩ := List.head?_eq_some_iff.1 (h.head?_str t)
    rw [hbehind] at hdepth hread ⊢
    obtain ⟨depth, rfl⟩ := Nat.exists_eq_add_one.2 (Nat.zero_lt_of_lt hdepth)
    rw [List.cons_append] at hread ⊢
    rw [Dialect.value?, if_pos rfl, hread, Option.map_some]
  | @arr items hitems ih =>
    rw [h.arr] at hdepth ⊢
    obtain ⟨depth, rfl⟩ := Nat.exists_eq_add_one.2 (Nat.zero_lt_of_lt hdepth)
    have hread : ∀ v ∈ items, ∀ rest, Stops rest →
        d.value? depth (write v ++ rest) = some (v, rest) := by
      intro v hv rest hrest
      have hlength := length_lt_bracketed '[' ']' (List.mem_map_of_mem (f := write) hv)
      exact ih v hv (by omega) hrest
    have hmark : CodePoint.ofChar '[' ≠ d.mark := by cases d <;> decide
    rw [bracketed_append, Dialect.value?, if_neg hmark, if_pos rfl,
      bracketed?_commas (.inl rfl) hread fun v hv => h.starts (hitems v hv), Option.map_some]
  | @obj fields hfields ih =>
    rw [h.obj] at hdepth ⊢
    obtain ⟨depth, rfl⟩ := Nat.exists_eq_add_one.2 (Nat.zero_lt_of_lt hdepth)
    have hread : ∀ field ∈ fields, ∀ rest, Stops rest →
        field? (Text.unquote? d.mark) (d.value? depth)
          (write (.str field.1) ++ ": " ++ write field.2 ++ rest) = some (field, rest) := by
      intro field hfield rest hrest
      have hlength := length_lt_bracketed openBrace closeBrace (List.mem_map_of_mem
        (f := fun field : Text × Json => write (.str field.1) ++ ": " ++ write field.2) hfield)
      simp only [List.length_append] at hlength
      exact field?_append (h.str field.1) (h.starts (hfields field hfield))
        (ih field hfield (by omega) hrest)
    have hmark : openBrace ≠ d.mark := by cases d <;> decide
    have hbracket : openBrace ≠ CodePoint.ofChar '[' := by decide
    rw [bracketed_append, Dialect.value?, if_neg hmark, if_neg hbracket, if_pos rfl,
      bracketed?_commas (.inr rfl) hread fun field _ =>
        ((h.starts_str field.1).append _).append _, Option.map_some]

/-- What is written in a dialect is read back. -/
lemma Writes.read? (h : Writes d write) {v : Json} (hv : v.FloatFree) {rest : Text}
    (hrest : Stops rest) : d.read? (write v ++ rest) = some (v, rest) := by
  apply h.value? hv _ hrest
  rw [List.length_append]
  omega

lemma Writes.injective (h : Writes d write) {v w : Json} (hv : v.FloatFree) (hw : w.FloatFree)
    (heq : write v = write w) : v = w := by
  have hread := h.read? hv stops_nil
  rw [heq, h.read? hw stops_nil] at hread
  exact (Prod.mk.inj (Option.some.inj hread)).1.symm

end Dialect

/-! ### Literals of a script -/

lemma literalItems_eq (items : List Json) : literalItems items = items.map literal := by
  induction items with
  | nil => rfl
  | cons v items ih => rw [literalItems, ih, List.map_cons]

lemma literalFields_eq (fields : List (Text × Json)) :
    literalFields fields =
      fields.map fun field => (field.1.quote ++ ": " ++ field.2.literal : Text) := by
  induction fields with
  | nil => rfl
  | cons field fields ih => rw [literalFields, ih, List.map_cons]

lemma writes_literal : Dialect.script.Writes literal where
  null := rfl
  bool b := by cases b <;> rfl
  int n := rfl
  str t rest := Text.unquote?_quoteWith CodePoint.isPrintable t rest
  arr items := by
    rw [literal, literalItems_eq]
    rfl
  obj fields := by
    rw [literal, literalFields_eq]
    rfl

/-- A value without doubles is read back from its literal, whatever follows in a list, an object or
the arguments of a call. Different values have different literals. -/
theorem literal_roundTrip {v : Json} (hv : v.FloatFree) :
    (∀ rest : Text, (∀ c ∈ rest.head?, c ∈ Text.ofString ",:]\x7d)") →
      Dialect.script.read? (v.literal ++ rest) = some (v, rest)) ∧
    ∀ w : Json, w.FloatFree → w.literal = v.literal → w = v := by
  have hends : ∀ c ∈ Text.ofString ",:]\x7d)", Dialect.isWordPart c = false := by decide
  constructor
  · intro rest hrest
    apply writes_literal.read? hv
    intro c hc
    exact hends c (hrest c hc)
  · intro w hw heq
    exact writes_literal.injective hw hv heq

/-- Brackets and quotes in texts and keys, a truth value beside a number, and empty values. -/
theorem literal_roundTrip_nested :
    let v : Json := .obj [("]\x7d, '", .arr [.bool true, .int 1, .str "1", .arr [], .obj []]),
      ("", .int (-7))]
    v.FloatFree ∧ Dialect.script.read? (v.literal ++ ", 2)") = some (v, Text.ofString ", 2)") := by
  intro v
  have hv : v.FloatFree := by
    refine .obj ?_
    simp only [List.mem_cons, List.not_mem_nil, or_false, forall_eq_or_imp, forall_eq]
    refine ⟨.arr ?_, .int _⟩
    simp only [List.mem_cons, List.not_mem_nil, or_false, forall_eq_or_imp, forall_eq]
    exact ⟨.bool _, .int _, .str _, .arr nofun, .obj nofun⟩
  exact ⟨hv, (literal_roundTrip hv).1 ", 2)" (by decide)⟩

end Json

end EventScript
