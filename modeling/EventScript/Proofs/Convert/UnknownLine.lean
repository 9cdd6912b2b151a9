import EventScript.Proofs.Convert.Event
import EventScript.Proofs.Json.Reading

/-! The line that keeps a command with an unknown code. Its parameters are escaped twice, as JSON
and as a comment; the line still tells the command. -/
namespace EventScript

namespace Text

open CodePoint

lemma escapeComment_append (t u : Text) :
    (t ++ u).escapeComment = t.escapeComment ++ u.escapeComment := List.flatMap_append

lemma escapeComment_ascii {t : Text} (h : ∀ c ∈ t, 0x20 ≤ c.val ∧ c.val ≤ 0x7e) :
    t.escapeComment = t := by
  apply escapeComment_of_stands
  intro c hc
  exact stands_of_ascii printsAscii_isPrintable (h c hc).1 (h c hc).2

lemma escapeComment_ofInt (n : Int) : (ofInt n).escapeComment = ofInt n := by
  have hall : ∀ c ∈ ofString "0123456789.e+-", 0x20 ≤ c.val ∧ c.val ≤ 0x7e := by decide
  apply escapeComment_ascii
  intro c hc
  exact hall c (numeral_ofInt n c hc)

lemma escapeComment_join (parts : List Text) :
    (join ", " parts).escapeComment = join ", " (parts.map escapeComment) := by
  have hcomma : (ofString ", ").escapeComment = ", " := escapeComment_ascii (by decide)
  induction parts with
  | nil => rfl
  | cons part parts ih =>
    cases parts with
    | nil => rfl
    | cons next parts =>
      rw [join_cons _ _ (by simp), escapeComment_append, escapeComment_append, hcomma, ih]
      rfl

/-- A spelling is left alone, unless it is the character itself, which may be spelled then. -/
lemma Spelled.escapeComment {kept : CodePoint → Prop} {c : CodePoint} {t : Text}
    (h : Spelled kept c t) :
    Spelled (fun c => c.Stands isPrintable ∧ kept c) c t.escapeComment := by
  have hspelled : ∀ {u}, Spelled (Stands isPrintable) c u → u.escapeComment = u := fun hu =>
    escapeComment_of_stands (hu.stands printsAscii_isPrintable)
  cases h with
  | self hkept =>
    have hchar : Text.escapeComment [c] = commentCharWith isPrintable c := List.append_nil _
    rw [hchar]
    exact (spelled_commentChar isPrintable c).imp fun hstands => ⟨hstands, hkept⟩
  | mark d hd =>
    rw [hspelled (.mark d hd)]
    exact .mark d hd
  | number letter width hletter hval =>
    rw [hspelled (.number letter width hletter hval)]
    exact .number letter width hletter hval

lemma after?_append (word t : Text) : after? word (word ++ t) = some t := by
  induction word with
  | nil => rfl
  | cons c word ih => rw [List.cons_append, after?, if_pos rfl, ih]

end Text

namespace Json

open CodePoint

/-- How JSON spells a character. -/
lemma spelled_stringChar (c : CodePoint) :
    Text.Spelled (fun c => c ≠ backslash ∧ c ≠ doubleQuote) c (stringChar c) := by
  by_cases hmark : c = doubleQuote ∨ c = backslash
  · rw [stringChar, if_pos hmark]
    apply Text.Spelled.mark c
    rcases hmark with rfl | rfl <;> decide
  · rw [stringChar, if_neg hmark]
    rw [not_or] at hmark
    cases hescape : Text.lineEscape? c with
    | some t =>
      obtain ⟨d, hd, rfl⟩ := Text.lineEscape?_eq_some hescape
      exact .mark d hd
    | none =>
      have hnumber : ∀ n, c.val = n → CodePoint.ofNat? n = some c := by
        rintro n rfl
        exact dif_pos c.isLt
      simp only
      split_ifs with hb hf hcontrol
      · exact .mark 'b' (hnumber _ hb)
      · exact .mark 'f' (hnumber _ hf)
      · exact .number 'u' 4 rfl (by omega)
      · exact .self ⟨hmark.2, hmark.1⟩

lemma renderItems_eq (items : List Json) : renderItems items = items.map render := by
  induction items with
  | nil => rfl
  | cons v items ih => rw [renderItems, ih, List.map_cons]

lemma renderFields_eq (fields : List (Text × Json)) :
    renderFields fields =
      fields.map fun field => (renderString field.1 ++ ": " ++ field.2.render : Text) := by
  induction fields with
  | nil => rfl
  | cons field fields ih => rw [renderFields, ih, List.map_cons]

lemma escapeComment_renderString (t : Text) :
    (renderString t).escapeComment =
      doubleQuote :: t.flatMap (fun c => (stringChar c).escapeComment) ++ [doubleQuote] := by
  have hquote : Text.escapeComment [doubleQuote] = [doubleQuote] :=
    Text.escapeComment_ascii (by decide)
  rw [renderString, ← List.singleton_append, Text.escapeComment_append, Text.escapeComment_append,
    hquote]
  simp [Text.escapeComment, Text.escapeCommentWith, List.flatMap_assoc]

/-- What is written between brackets is escaped part by part. -/
lemma escapeComment_bracketed {opening closing : CodePoint}
    (hopening : 0x20 ≤ opening.val ∧ opening.val ≤ 0x7e)
    (hclosing : 0x20 ≤ closing.val ∧ closing.val ≤ 0x7e) (parts : List Text) :
    (Dialect.bracketed opening closing parts).escapeComment =
      Dialect.bracketed opening closing (parts.map Text.escapeComment) := by
  have hfirst : Text.escapeComment [opening] = [opening] :=
    Text.escapeComment_ascii (by simpa using hopening)
  have hlast : Text.escapeComment [closing] = [closing] :=
    Text.escapeComment_ascii (by simpa using hclosing)
  rw [Dialect.bracketed, ← List.singleton_append, Text.escapeComment_append,
    Text.escapeComment_append, hfirst, hlast, Text.escapeComment_join]
  rfl

/-- A comment with JSON in it is JSON again, with more characters escaped in its texts. -/
lemma writes_comment : Dialect.json.Writes fun v => v.render.escapeComment where
  null := Text.escapeComment_ascii (by decide)
  bool b := Text.escapeComment_ascii (by cases b <;> decide)
  int n := Text.escapeComment_ofInt n
  str t rest := by
    have hrender : render (.str t) = renderString t := rfl
    rw [hrender, escapeComment_renderString]
    apply Text.unquote?_of_spelled (by decide)
    intro c
    exact (spelled_stringChar c).escapeComment
  arr items := by
    have hrender : render (.arr items) = Dialect.bracketed '[' ']' (items.map render) := by
      rw [render, renderItems_eq]
      rfl
    rw [hrender, escapeComment_bracketed (by decide) (by decide), List.map_map]
    rfl
  obj fields := by
    have hrender : render (.obj fields) = Dialect.bracketed openBrace closeBrace
        (fields.map fun field => renderString field.1 ++ ": " ++ field.2.render) := by
      rw [render, renderFields_eq]
      rfl
    have hcolon : (Text.ofString ": ").escapeComment = ": " := Text.escapeComment_ascii (by decide)
    rw [hrender, escapeComment_bracketed (by decide) (by decide), List.map_map]
    congr 1
    apply List.map_congr_left
    intro field _
    rw [Function.comp_apply, Text.escapeComment_append, Text.escapeComment_append, hcolon]
    rfl

end Json

namespace Decompile

open CodePoint

/-- The line of a command with an unknown code. -/
def unknownLine (row : Row) : Text :=
  "# Unknown Command Code " ++ Text.ofInt row.code ++ ", parameters: " ++
    (Json.arr row.parameters).render.escapeComment

/-- The code and the parameters that such a line tells. -/
def readUnknown? (line : Text) : Option (Int × List Json) := do
  let behind ← Text.after? "# Unknown Command Code " line
  let code ← Text.toInt? (behind.takeWhile Json.Dialect.isWordPart)
  let behind ← Text.after? ", parameters: " (behind.dropWhile Json.Dialect.isWordPart)
  match Json.Dialect.json.read? behind with
  | some (.arr parameters, []) => some (code, parameters)
  | _ => none

lemma escapeComment_unknownText (row : Row) :
    "# " ++ (unknownText row).escapeComment = unknownLine row := by
  have hstart : (Text.ofString "Unknown Command Code ").escapeComment = "Unknown Command Code " :=
    Text.escapeComment_ascii (by decide)
  have hmiddle : (Text.ofString ", parameters: ").escapeComment = ", parameters: " :=
    Text.escapeComment_ascii (by decide)
  rw [unknownText, Text.escapeComment_append, Text.escapeComment_append, Text.escapeComment_append,
    hstart, hmiddle, Text.escapeComment_ofInt]
  rfl

lemma comment_unknownText (w : Writer) (row : Row) :
    w.comment (unknownText row) = w.line (unknownLine row) := by
  have hne : (unknownText row).escapeComment ≠ [] := by
    intro hnil
    have hline := escapeComment_unknownText row
    rw [hnil] at hline
    cases hline
  rw [← escapeComment_unknownText, Writer.comment, if_neg hne]

lemma readUnknown?_unknownLine {row : Row} (h : ∀ v ∈ row.parameters, v.FloatFree) :
    readUnknown? (unknownLine row) = some (row.code, row.parameters) := by
  have hcomma : ∀ behind, Json.Dialect.Stops (Text.ofString ", parameters: " ++ behind) := by
    intro behind c hc
    obtain rfl := Option.some.inj hc
    decide
  have hcode := fun behind =>
    Json.Dialect.span_word (Json.Dialect.isWord_ofInt row.code) (hcomma behind)
  have hparameters :
      Json.Dialect.json.read? ((Json.arr row.parameters).render.escapeComment ++ []) =
        some (.arr row.parameters, []) :=
    Json.writes_comment.read? (.arr h) Json.Dialect.stops_nil
  rw [List.append_nil] at hparameters
  rw [unknownLine, List.append_assoc, List.append_assoc, readUnknown?, Text.after?_append]
  simp only [Option.bind_eq_bind, Option.bind_some, (hcode _).1, (hcode _).2, Text.toInt?_ofInt,
    Text.after?_append, hparameters]

/-- A row with an unknown code that stands alone. -/
lemma blocks_unknown (context : Context) (hpolicy : context.onUnknown = .placeholder) {row : Row}
    (hunknown : Catalog.lookup context.variant row.code = none) :
    ∃ forest, Block.reconstruct context.variant [row] = .ok forest ∧
      blocks context forest =
        .ok ⟨[.comment (unknownText row)], [⟨0, row.code, context.variant⟩]⟩ := by
  have hfold : Entry.fold context.variant [row] = .ok [⟨0, row, none, []⟩] := by
    rw [Entry.fold, Entry.foldFrom, Entry.absorb, hunknown]
    rfl
  refine ⟨[.leaf ⟨0, row, none, []⟩], ?_, ?_⟩
  · rw [Block.reconstruct, hfold]
    rfl
  · rw [blocks, block, leaf, unknown, hpolicy]
    rfl

lemma unknownLine_ends (row : Row) :
    ∃ before, unknownLine row = before ++ [CodePoint.ofChar ']'] := by
  have harray : (Json.arr row.parameters).render.escapeComment = Json.Dialect.bracketed '[' ']' _ :=
    Json.writes_comment.arr row.parameters
  rw [unknownLine, harray, Json.Dialect.bracketed, ← List.cons_append, ← List.append_assoc]
  exact ⟨_, rfl⟩

/-- The bracket at the end of the line keeps it from being trimmed. -/
lemma render_unknown (style : Style) (row : Row) :
    Stmt.render style [.comment (unknownText row)] = unknownLine row ++ [newline] := by
  have hwritten : Stmt.render style [.comment (unknownText row)] =
      (({ style } : Writer).comment (unknownText row)).render := rfl
  have hbracket : isBlank ']' = false := by decide +kernel
  obtain ⟨before, hline⟩ := unknownLine_ends row
  rw [hwritten, comment_unknownText, hline]
  simp [Writer.line, Writer.render, Writer.lines, Writer.textOfLines, Writer.margin, Text.join,
    Text.trimEnd, Text.dropEndWhile, hbracket]

end Decompile

namespace Converter

open CodePoint

/-- A command with an unknown code is kept as one line, at any depth. The line tells its code and
its parameters, so that different commands have different lines, although comments alone do not
tell what they were written from. -/
theorem unknownLine_lossless {converter : Converter}
    (hpolicy : converter.options.onUnknown = .placeholder) {row : Row}
    (hunknown : Catalog.lookup converter.variant row.code = none)
    (hfree : ∀ v ∈ row.parameters, v.FloatFree) :
    (∀ id, ∃ result records, converter.convertEvent id [.ready row] = .ok (result, records) ∧
      result.text = some (Decompile.unknownLine row ++ [newline])) ∧
    (∀ w : Writer, w.comment (Decompile.unknownText row) = w.line (Decompile.unknownLine row)) ∧
    Decompile.readUnknown? (Decompile.unknownLine row) = some (row.code, row.parameters) ∧
    (∀ other : Row, (∀ v ∈ other.parameters, v.FloatFree) →
      Decompile.unknownLine other = Decompile.unknownLine row →
      other.code = row.code ∧ other.parameters = row.parameters) ∧
    ¬Function.Injective Text.escapeComment := by
  have hread := Decompile.readUnknown?_unknownLine hfree
  refine ⟨?_, fun w => Decompile.comment_unknownText w row, hread, ?_, ?_⟩
  · intro id
    obtain ⟨forest, hforest, hblocks⟩ :=
      Decompile.blocks_unknown converter.context hpolicy hunknown
    obtain ⟨result, records, hresult, htext, -⟩ := convertEvent_of_decompile
      (decompile_eq_ok.2 ⟨[row], forest, rfl, hforest, hblocks⟩ :
        converter.decompile id [.ready row] = _)
    rw [Decompile.render_unknown] at htext
    exact ⟨result, records, hresult, htext⟩
  · intro other hother heq
    rw [← heq, Decompile.readUnknown?_unknownLine hother] at hread
    exact Prod.mk.inj (Option.some.inj hread)
  · intro hinjective
    -- a line end, and a backslash with a letter behind it
    have hsame : Text.escapeComment "\n" = Text.escapeComment "\\n" := by decide +kernel
    exact absurd (hinjective hsame) (by decide)

/-- A text with a line end and a surrogate, beside one that looks like its escapes. -/
theorem unknownLine_lossless_escapes :
    let row : Row := ⟨999, 3, [.str (Text.ofString "\n\"" ++ [⟨0xd83d, by decide⟩]),
      .str "\\n\\\"\\ud83d", .obj [("]", .null)]]⟩
    Catalog.lookup .mz row.code = none ∧ (∀ v ∈ row.parameters, v.FloatFree) ∧
      Decompile.unknownLine row = "# Unknown Command Code 999, parameters: " ++
        "[\"\\n\\\"\\ud83d\", \"\\\\n\\\\\\\"\\\\ud83d\", \x7b\"]\": null\x7d]" ∧
      Decompile.readUnknown? (Decompile.unknownLine row) = some (row.code, row.parameters) := by
  intro row
  have hfree : ∀ v ∈ row.parameters, v.FloatFree := by
    simp only [row, List.mem_cons, List.not_mem_nil, or_false, forall_eq_or_imp, forall_eq]
    exact ⟨.str _, .str _, .obj (by simpa using Json.FloatFree.null)⟩
  have hunknown : Catalog.lookup .mz row.code = none := by decide +kernel
  have hlossless := @unknownLine_lossless { variant := .mz } rfl row hunknown hfree
  exact ⟨hunknown, hfree, by decide +kernel, hlossless.2.2.1⟩

end Converter

end EventScript
