import EventScript.Proofs.Script.Writer
import EventScript.Proofs.Text.Printable

/-! The lines that a writer is asked for, and the text that it makes of them. -/
namespace EventScript

/-- A line of a script: how deep it stands, and what it holds behind its margin. -/
structure Line where
  depth : Nat
  content : Text

namespace Line

/-- A line in a style. -/
def text (style : Style) (line : Line) : Text :=
  (List.replicate line.depth style.indent).flatten ++ line.content

/-- A line without the blanks at its end. -/
def trim (line : Line) : Line := { line with content := line.content.trimEnd }

/-- A line with printable content that does not start with a blank. -/
structure Fit (line : Line) : Prop where
  printable : line.content.Printable
  starts : ∃ c ∈ line.content.head?, c.isBlank = false

/-- A line with something on it. -/
def Visible (line : Line) : Prop := ∃ c ∈ line.content, c.isBlank = false

lemma Visible.ne_nil {line : Line} (h : line.Visible) : line.content ≠ [] := by
  obtain ⟨c, hc, -⟩ := h
  exact List.ne_nil_of_mem hc

/-- Lines of which only the last one is trimmed. -/
def trimLast : List Line → List Line
  | [] => []
  | [line] => [line.trim]
  | line :: next :: rest => line :: trimLast (next :: rest)

lemma trimLast_append (before : List Line) {after : List Line} (h : after ≠ []) :
    trimLast (before ++ after) = before ++ trimLast after := by
  induction before with
  | nil => rfl
  | cons line before ih =>
    cases hrest : before ++ after with
    | nil => exact absurd (List.append_eq_nil_iff.1 hrest).2 h
    | cons next rest => rw [List.cons_append, hrest, trimLast, ← hrest, ih, List.cons_append]

lemma trimLast_cons (line : Line) {rest : List Line} (h : rest ≠ []) :
    trimLast (line :: rest) = line :: trimLast rest :=
  trimLast_append [line] h

@[simp] lemma trimLast_eq_nil {lines : List Line} : trimLast lines = [] ↔ lines = [] := by
  fun_cases trimLast lines <;> simp

lemma Fit.visible {line : Line} (h : line.Fit) : line.Visible := by
  obtain ⟨c, hc, hblank⟩ := h.starts
  exact ⟨c, List.mem_of_mem_head? hc, hblank⟩

end Line

namespace Text

lemma dropEndWhile_append {p : CodePoint → Bool} (before : Text) {after : Text}
    (h : ∃ c ∈ after, p c = false) :
    dropEndWhile p (before ++ after) = before ++ dropEndWhile p after := by
  obtain ⟨c, hc, hp⟩ := h
  have hne : (after.reverse.dropWhile p).isEmpty = false := by
    rw [List.isEmpty_eq_false_iff, Ne, List.dropWhile_eq_nil_iff]
    intro hall
    rw [hall c (List.mem_reverse.2 hc)] at hp
    cases hp
  rw [dropEndWhile, List.reverse_append, List.dropWhile_append, hne]
  simp [dropEndWhile]

/-- Trimming leaves a text that does not start with a blank its first character. -/
lemma head?_trimEnd {t : Text} (h : ∃ c ∈ t.head?, c.isBlank = false) :
    t.trimEnd.head? = t.head? := by
  cases t with
  | nil => rfl
  | cons c t =>
    have hc : c.isBlank = false := by simpa using h
    by_cases hrest : ∃ d ∈ t, d.isBlank = false
    · have hsplit := dropEndWhile_append [c] hrest
      rw [trimEnd, ← List.singleton_append, hsplit]
      rfl
    · have hblank : dropEndWhile CodePoint.isBlank (c :: t) = [c] := by
        have hall : ∀ d ∈ t.reverse, d.isBlank = true := by simpa using hrest
        rw [dropEndWhile, List.reverse_cons, List.dropWhile_append_of_pos hall]
        simp [hc]
      rw [trimEnd, hblank]
      rfl

lemma trimEnd_sublist (t : Text) : t.trimEnd.Sublist t := by
  simpa [trimEnd, dropEndWhile] using
    (List.dropWhile_sublist CodePoint.isBlank (l := t.reverse)).reverse

lemma join_cons (separator part : Text) {parts : List Text} (h : parts ≠ []) :
    join separator (part :: parts) = part ++ separator ++ join separator parts := by
  cases parts with
  | nil => exact absurd rfl h
  | cons next parts => rfl

lemma join_newline {parts : List Text} (h : parts ≠ []) :
    join [CodePoint.newline] parts ++ [CodePoint.newline] =
      parts.flatMap fun part => part ++ [CodePoint.newline] := by
  fun_induction join [CodePoint.newline] parts with
  | case1 => exact absurd rfl h
  | case2 t => simp
  | case3 t rest hrest ih => simp [← ih (by rintro rfl; exact hrest rfl)]

lemma splitAt_line {part : Text} (h : CodePoint.newline ∉ part) (rest : Text) :
    splitAt CodePoint.newline (part ++ CodePoint.newline :: rest) =
      part :: splitAt CodePoint.newline rest := by
  induction part with
  | nil => simp [splitAt]
  | cons c part ih =>
    have hc : c ≠ CodePoint.newline := fun heq => h (by simp [heq])
    simp [splitAt, hc, ih fun hmem => h (by simp [hmem])]

lemma splitAt_lines {parts : List Text} (h : ∀ part ∈ parts, CodePoint.newline ∉ part) :
    splitAt CodePoint.newline (parts.flatMap fun part => part ++ [CodePoint.newline]) =
      parts ++ [[]] := by
  induction parts with
  | nil => rfl
  | cons part parts ih =>
    rw [List.flatMap_cons, List.append_assoc, List.singleton_append, splitAt_line (h part (by simp)),
      ih fun part hpart => h part (by simp [hpart]), List.cons_append]

end Text

namespace Writer

namespace Step

/-- The lines that a step asks for at a depth. -/
def lines (style : Style) (depth : Nat) : Step → List Line
  | .line text => [⟨depth, text⟩]
  | .comment text =>
    [⟨depth, if text.escapeComment = [] then Text.ofString "#" else "# " ++ text.escapeComment⟩]
  | .call head arguments =>
    if arguments.length < 2 ∨ ¬style.multilineCalls then [⟨depth, callText head arguments⟩]
    else ⟨depth, head ++ "("⟩ ::
      (arguments.map fun argument => ⟨depth + 1, argument ++ ","⟩) ++ [⟨depth, ")"⟩]
  | .indent => []
  | .dedent => []

/-- A step that asks for fit lines only. -/
def Fit (step : Step) : Prop := ∀ style depth, ∀ line ∈ step.lines style depth, line.Fit

/-- The depth behind a step; there is none below the outermost one. -/
def depthAfter (depth : Nat) : Step → Nat
  | .indent => depth + 1
  | .dedent => depth - 1
  | _ => depth

end Step

/-- The depth behind some steps. -/
def depthAfter (depth : Nat) (steps : List Step) : Nat := steps.foldl Step.depthAfter depth

/-- The lines that steps ask for, the first one at a depth. -/
def asked (style : Style) : Nat → List Step → List Line
  | _, [] => []
  | depth, step :: rest => step.lines style depth ++ asked style (step.depthAfter depth) rest

lemma asked_append (style : Style) (depth : Nat) (before after : List Step) :
    asked style depth (before ++ after) =
      asked style depth before ++ asked style (depthAfter depth before) after := by
  induction before generalizing depth with
  | nil => rfl
  | cons step before ih => simp [asked, ih, depthAfter]

/-- The writer at another depth, with more lines and no empty line due. -/
def push (w : Writer) (depth : Nat) (lines : List Line) : Writer where
  style := w.style
  depth := depth
  reversedLines := (lines.map (Line.text w.style)).reverse ++ w.reversedLines

lemma push_nil {w : Writer} (h : w.pendingBlank = false) : w.push w.depth [] = w := by
  obtain ⟨style, depth, reversed, pending⟩ := w
  obtain rfl : pending = false := h
  rfl

lemma push_push (w : Writer) (depth next : Nat) (before after : List Line) :
    (w.push depth before).push next after = w.push next (before ++ after) := by
  simp [push]

lemma line_eq_push {w : Writer} (h : w.pendingBlank = false) {text : Text} (htext : text ≠ []) :
    w.line text = w.push w.depth [⟨w.depth, text⟩] := by
  obtain ⟨style, depth, reversed, pending⟩ := w
  obtain rfl : pending = false := h
  simp [line, push, htext, Line.text, margin]

lemma comment_eq_push {w : Writer} (h : w.pendingBlank = false) (text : Text) :
    w.comment text = w.push w.depth (Step.lines w.style w.depth (.comment text)) := by
  simp only [comment, Step.lines]
  split_ifs
  · exact line_eq_push h (by decide)
  · exact line_eq_push h (by simp [Text.ofString])

lemma arguments_eq_push {w : Writer} (h : w.pendingBlank = false) (arguments : List Text) :
    arguments.foldl (fun w argument => w.line (argument ++ ",")) w =
      w.push w.depth (arguments.map fun argument => ⟨w.depth, argument ++ ","⟩) := by
  induction arguments generalizing w with
  | nil => exact (push_nil h).symm
  | cons argument arguments ih =>
    have hline : w.line (argument ++ ",") = w.push w.depth [⟨w.depth, argument ++ ","⟩] :=
      line_eq_push h (by simp [Text.ofString])
    rw [List.foldl_cons, hline, ih rfl, push_push]
    rfl

lemma call_eq_push {w : Writer} (h : w.pendingBlank = false) (head : Text)
    (arguments : List Text) :
    w.call head arguments = w.push w.depth (Step.lines w.style w.depth (.call head arguments)) := by
  simp only [call, Step.lines]
  split_ifs with hshort
  · exact line_eq_push h (by simp [callText, Text.ofString])
  · have hopen : (w.line (head ++ "(")).indent =
        w.push (w.depth + 1) [⟨w.depth, head ++ "("⟩] := by
      rw [line_eq_push h (by simp [Text.ofString])]
      rfl
    have hclose : ∀ u : Writer, u.pendingBlank = false →
        u.line ")" = u.push u.depth [⟨u.depth, ")"⟩] := fun u hu => line_eq_push hu (by decide)
    rw [hopen, arguments_eq_push rfl, hclose _ rfl]
    simp [push]

lemma run_cons {w : Writer} (h : w.pendingBlank = false) {step : Step} (hstep : step ≠ .line [])
    (steps : List Step) :
    w.run (step :: steps) =
      (w.push (step.depthAfter w.depth) (step.lines w.style w.depth)).run steps := by
  rw [run, List.foldl_cons]
  cases step with
  | line text =>
    simp only [Writer.step, line_eq_push h fun htext => hstep (htext ▸ rfl)]
    rfl
  | comment text =>
    simp only [Writer.step, comment_eq_push h]
    rfl
  | call head arguments =>
    simp only [Writer.step, call_eq_push h]
    rfl
  | indent =>
    have hdeeper : w.indent = w.push (w.depth + 1) [] := by simp [push, indent, h]
    simp only [Writer.step, hdeeper]
    rfl
  | dedent =>
    -- A refused step changes nothing, and nothing lies below the outermost depth.
    by_cases hdepth : w.depth = 0
    · have hstay : w.push (Step.depthAfter w.depth .dedent) [] = w := by
        simpa [Step.depthAfter, hdepth] using push_nil h
      simp only [Writer.step, dedent, if_pos hdepth, Step.lines, hstay]
      rfl
    · have hback : { w with depth := w.depth - 1 } = w.push (w.depth - 1) [] := by
        simp [push, h]
      simp only [Writer.step, dedent, if_neg hdepth, hback]
      rfl

/-- What a writer has written behind some steps, if none of them asks for an empty line. -/
lemma run_eq_push {steps : List Step} {w : Writer} (h : w.pendingBlank = false)
    (hsteps : Step.line [] ∉ steps) :
    w.run steps = w.push (depthAfter w.depth steps) (asked w.style w.depth steps) := by
  induction steps generalizing w with
  | nil => exact (push_nil h).symm
  | cons step steps ih =>
    obtain ⟨hstep, hrest⟩ : Step.line [] ≠ step ∧ Step.line [] ∉ steps := by simpa using hsteps
    rw [run_cons h hstep.symm, ih rfl hrest, push_push]
    rfl

end Writer

namespace Line

variable {style : Style} {lines : List Line}

lemma Fit.trim {line : Line} (h : line.Fit) : line.trim.Fit where
  printable := h.printable.sublist (Text.trimEnd_sublist line.content)
  starts := by
    rw [Line.trim, Text.head?_trimEnd h.starts]
    exact h.starts

lemma fit_trimLast (h : ∀ line ∈ lines, line.Fit) : ∀ line ∈ trimLast lines, line.Fit := by
  fun_induction trimLast lines with
  | case1 => exact h
  | case2 line =>
    rw [List.forall_mem_singleton]
    exact (h line (by simp)).trim
  | case3 line next rest ih =>
    rw [List.forall_mem_cons]
    exact ⟨h line (by simp), ih fun line hline => h line (by simp [hline])⟩

/-- The blanks at the end of a text are those at the end of its last line. -/
lemma trimEnd_join (h : ∀ line ∈ lines, line.Visible) :
    (Text.join [CodePoint.newline] (lines.map (text style))).trimEnd =
      Text.join [CodePoint.newline] ((trimLast lines).map (text style)) := by
  fun_induction trimLast lines with
  | case1 => rfl
  | case2 line =>
    exact Text.dropEndWhile_append _ (h line (by simp))
  | case3 line next rest ih =>
    have hrest := ih fun line hline => h line (by simp [hline])
    obtain ⟨c, hc, hblank⟩ := h next (by simp)
    have hmem : c ∈ Text.join [CodePoint.newline] ((next :: rest).map (text style)) := by
      cases rest with
      | nil => exact List.mem_append_right _ hc
      | cons last rest =>
        rw [List.map_cons, Text.join_cons _ _ (by simp)]
        simp [text, hc]
    have hcons : ∀ more : List Line, more ≠ [] →
        Text.join [CodePoint.newline] ((line :: more).map (text style)) =
          text style line ++ [CodePoint.newline] ++
            Text.join [CodePoint.newline] (more.map (text style)) :=
      fun more hmore => Text.join_cons _ _ (by simpa using hmore)
    rw [hcons _ (by simp), hcons _ (by simp), ← hrest]
    exact Text.dropEndWhile_append _ ⟨c, hmem, hblank⟩

/-- The text of lines: each of them, the last one trimmed, with a newline behind it. -/
lemma textOfLines_eq (h : ∀ line ∈ lines, line.Visible) :
    Writer.textOfLines (lines.map (text style)) =
      ((trimLast lines).map (text style)).flatMap fun part => part ++ [CodePoint.newline] := by
  cases lines with
  | nil => rfl
  | cons line rest =>
    have hne : (trimLast (line :: rest)).map (text style) ≠ [] := by simp
    rw [Writer.textOfLines, List.map_cons, if_neg (by simp), ← List.map_cons, trimEnd_join h,
      Text.join_newline hne]

lemma Fit.newline_not_mem {line : Line} (h : line.Fit) : CodePoint.newline ∉ line.content := by
  have hprintable : CodePoint.newline.isPrintable = false := by decide +kernel
  intro hmem
  rw [h.printable _ hmem] at hprintable
  cases hprintable

lemma newline_not_mem_text (hindent : CodePoint.newline ∉ style.indent) {line : Line}
    (h : line.Fit) : CodePoint.newline ∉ line.text style := by
  intro hmem
  rcases List.mem_append.1 hmem with hmargin | hcontent
  · obtain ⟨margin, hmargin, hmem⟩ := List.mem_flatten.1 hmargin
    rw [List.eq_of_mem_replicate hmargin] at hmem
    exact hindent hmem
  · exact h.newline_not_mem hcontent

end Line

namespace Writer

variable {style : Style} {steps : List Step}

lemma fit_asked (h : ∀ step ∈ steps, step.Fit) (depth : Nat) :
    ∀ line ∈ asked style depth steps, line.Fit := by
  induction steps generalizing depth with
  | nil => simp [asked]
  | cons step steps ih =>
    rw [asked, List.forall_mem_append]
    exact ⟨h step (by simp) style depth, ih (fun step hstep => h step (by simp [hstep])) _⟩

/-- The lines of the text that steps make: those asked for, the last one trimmed. -/
def written (style : Style) (steps : List Step) : List Line := Line.trimLast (asked style 0 steps)

lemma fit_written (h : ∀ step ∈ steps, step.Fit) : ∀ line ∈ written style steps, line.Fit :=
  Line.fit_trimLast (fit_asked h 0)

/-- The text of fit steps is their lines, with a newline behind each. -/
lemma render_run (h : ∀ step ∈ steps, step.Fit) :
    (Writer.run { style } steps).render =
      ((written style steps).map (Line.text style)).flatMap fun part =>
        part ++ [CodePoint.newline] := by
  have hsteps : Step.line [] ∉ steps := by
    intro hmem
    exact (h _ hmem style 0 ⟨0, []⟩ (by simp [Step.lines])).visible.ne_nil rfl
  have hvisible : ∀ line ∈ asked style 0 steps, line.Visible :=
    fun line hline => (fit_asked h 0 line hline).visible
  rw [run_eq_push rfl hsteps, written, ← Line.textOfLines_eq hvisible]
  simp [render, lines, push]

/-- No text leaves its line: the newlines of the text are those between the lines asked for and one
behind the last. -/
lemma splitAt_render (hindent : CodePoint.newline ∉ style.indent) (h : ∀ step ∈ steps, step.Fit) :
    (Writer.run { style } steps).render.splitAt CodePoint.newline =
      (written style steps).map (Line.text style) ++ [[]] := by
  rw [render_run h, Text.splitAt_lines]
  intro part hpart
  obtain ⟨line, hline, rfl⟩ := List.mem_map.1 hpart
  exact Line.newline_not_mem_text hindent (fit_written h line hline)

/-- The text is empty or ends in one newline. -/
lemma render_ends (h : ∀ step ∈ steps, step.Fit) :
    (Writer.run { style } steps).render = [] ∨
      ∃ before c, (Writer.run { style } steps).render = before ++ [c, CodePoint.newline] ∧
        c ≠ CodePoint.newline := by
  rw [render_run h]
  rcases List.eq_nil_or_concat (written style steps) with hnil | ⟨before, last, hlines⟩
  · exact .inl (by rw [hnil]; rfl)
  · have hmem : last ∈ written style steps := by simp [hlines]
    have hfit := fit_written h last hmem
    obtain ⟨front, c, hcontent⟩ : ∃ front c, last.content = front ++ [c] :=
      ⟨_, _, (List.dropLast_append_getLast hfit.visible.ne_nil).symm⟩
    refine .inr ⟨(before.map (Line.text style)).flatMap (fun part => part ++ [.newline]) ++
      (List.replicate last.depth style.indent).flatten ++ front, c, ?_, ?_⟩
    · simp [hlines, Line.text, hcontent]
    · rintro rfl
      exact hfit.newline_not_mem (by simp [hcontent])

end Writer

/-! Reading lines back. -/

/-- A style whose margins consist of blanks other than newlines. -/
structure Style.Spaced (style : Style) : Prop where
  ne_nil : style.indent ≠ []
  blank : ∀ c ∈ style.indent, c.isBlank = true
  newline : CodePoint.newline ∉ style.indent

lemma Style.spaced_of_ofSpec {spec : Text} {multilineCalls : Bool} {style : Style}
    (h : ofSpec spec multilineCalls = .ok style) : style.Spaced := by
  have hspaced : ∀ width : Nat, 0 < width → ∀ c : CodePoint, c.isBlank = true →
      CodePoint.newline ≠ c → Spaced ⟨List.replicate width c, multilineCalls⟩ := by
    intro width hwidth c hblank hnewline
    refine ⟨by simp [hwidth.ne'], fun d hd => List.eq_of_mem_replicate hd ▸ hblank, fun hmem => ?_⟩
    exact hnewline (List.eq_of_mem_replicate hmem)
  unfold ofSpec at h
  split at h
  · obtain rfl := Except.ok.inj h
    exact hspaced 1 Nat.one_pos _ (by decide) (by decide)
  · split at h
    · cases h
    · split_ifs at h with hwidth _
      obtain rfl := Except.ok.inj h
      exact hspaced _ (by omega) _ (by decide) (by decide)

namespace Line

/-- A line read from its text: the blanks at its start are its margin. -/
def read (style : Style) (t : Text) : Line where
  depth := (t.takeWhile CodePoint.isBlank).length / style.indent.length
  content := t.dropWhile CodePoint.isBlank

/-- The lines of a text that has a newline behind each. -/
def readAll (style : Style) (t : Text) : List Line :=
  (t.splitAt CodePoint.newline).dropLast.map (read style)

lemma read_text {style : Style} (spaced : style.Spaced) {line : Line} (h : line.Fit) :
    read style (line.text style) = line := by
  obtain ⟨depth, content⟩ := line
  obtain ⟨c, hc, hblank⟩ := h.starts
  obtain ⟨rest, rfl⟩ : ∃ rest, content = c :: rest := List.head?_eq_some_iff.1 hc
  have hmargin : ∀ d ∈ (List.replicate depth style.indent).flatten, d.isBlank = true := by
    intro d hd
    obtain ⟨part, hpart, hd⟩ := List.mem_flatten.1 hd
    exact spaced.blank d (List.eq_of_mem_replicate hpart ▸ hd)
  have hwidth : 0 < style.indent.length := List.length_pos_iff.2 spaced.ne_nil
  simp [read, text, List.takeWhile_append_of_pos hmargin, List.dropWhile_append_of_pos hmargin,
    hblank, Nat.mul_div_cancel _ hwidth]

end Line

/-- The lines that a writer was asked for can be read from its text. -/
lemma Writer.readAll_render {style : Style} (spaced : style.Spaced) {steps : List Step}
    (h : ∀ step ∈ steps, step.Fit) :
    Line.readAll style (Writer.run { style } steps).render = written style steps := by
  rw [Line.readAll, splitAt_render spaced.newline h, List.dropLast_concat, List.map_map]
  exact List.map_congr_left (fun line hline => Line.read_text spaced (fit_written h line hline))
    |>.trans (List.map_id _)

end EventScript
