import EventScript.Convert.Run
import EventScript.Proofs.Text.Printable

/-! The scripts of several events in one text. Comments and empty lines are all that joining adds,
except for what the name of an event holds behind its first line. -/
namespace EventScript

namespace Text

/-- A line with something on it that is no comment. -/
def isCode (line : Text) : Bool :=
  match line.dropWhile CodePoint.isBlank with
  | [] => false
  | c :: _ => c ≠ CodePoint.ofChar '#'

/-- The lines of a text that are neither blank nor comments; `ends` tells what ends a line. -/
def codeLines (ends : CodePoint → Bool) (t : Text) : List Text := (t.splitOnP ends).filter isCode

/-- What may count as the end of a line: newlines at least, and nothing that is printable. -/
structure LineEnds (ends : CodePoint → Bool) : Prop where
  newline : ends CodePoint.newline = true
  unprintable : ∀ c, ends c = true → c.isPrintable = false

variable {ends : CodePoint → Bool}

@[simp] lemma codeLines_nil : codeLines ends [] = [] := by
  simp [codeLines, List.splitOnP_nil, isCode]

lemma codeLines_append {c : CodePoint} (hc : ends c = true) (before after : Text) :
    codeLines ends (before ++ c :: after) = codeLines ends before ++ codeLines ends after := by
  rw [codeLines, List.splitOnP_append_cons before after hc, List.filter_append]
  rfl

/-- Newlines at the end of a text are empty lines. -/
lemma codeLines_dropEndWhile (lineEnds : LineEnds ends) (t : Text) :
    codeLines ends (t.dropEndWhile fun c => c = CodePoint.newline) = codeLines ends t := by
  induction t using List.reverseRecOn with
  | nil => rfl
  | append_singleton t c ih =>
    by_cases hc : c = CodePoint.newline
    · have hdrop : dropEndWhile (fun c => c = CodePoint.newline) (t ++ [c]) =
          dropEndWhile (fun c => c = CodePoint.newline) t := by
        simp [dropEndWhile, hc]
      rw [hdrop, ih, hc, codeLines_append lineEnds.newline, codeLines_nil, List.append_nil]
    · have hkeep : dropEndWhile (fun c => c = CodePoint.newline) (t ++ [c]) = t ++ [c] := by
        simp [dropEndWhile, hc]
      rw [hkeep]

/-- Between the parts that are joined there is an empty line. -/
lemma codeLines_join (lineEnds : LineEnds ends) (parts : List Text) :
    codeLines ends (join [CodePoint.newline, CodePoint.newline] parts) =
      parts.flatMap (codeLines ends) := by
  fun_induction join [CodePoint.newline, CodePoint.newline] parts with
  | case1 => simp
  | case2 t => simp
  | case3 t rest _ ih =>
    have hempty := codeLines_append lineEnds.newline []
      (join [CodePoint.newline, CodePoint.newline] rest)
    rw [List.append_assoc, List.cons_append, codeLines_append lineEnds.newline,
      List.singleton_append, ← List.nil_append (CodePoint.newline :: _), hempty, ih]
    simp

/-- A word without a line end comes to the first line of the text behind it. -/
lemma splitOnP_append_word {word : Text} (h : ∀ c ∈ word, ends c = false) (t : Text) :
    (word ++ t).splitOnP ends = (t.splitOnP ends).modifyHead (word ++ ·) := by
  induction word with
  | nil =>
    rw [List.nil_append]
    cases t.splitOnP ends <;> rfl
  | cons c word ih =>
    rw [List.forall_mem_cons] at h
    rw [List.cons_append, List.splitOnP_cons_eq_if_modifyHead, h.1, ih h.2]
    cases t.splitOnP ends <;> rfl

end Text

/-- The lines of an event's name that are code where the name stands in a comment: all but the first
line leave the comment. -/
def EventId.strayLines (ends : CodePoint → Bool) (id : EventId) : List Text :=
  (id.text.splitOnP ends).tail.filter Text.isCode

namespace EventResult

/-- The code lines of an event's script, if it has one. -/
def codeLines (ends : CodePoint → Bool) (event : EventResult) : List Text :=
  event.text.elim [] (Text.codeLines ends)

/-- The code lines that come with an event's script from the name above it. -/
def strayLines (ends : CodePoint → Bool) (event : EventResult) : List Text :=
  if event.text.isSome then event.eventId.strayLines ends else []

end EventResult

namespace RunResult

open Text

variable {ends : CodePoint → Bool}

lemma codeLines_title (lineEnds : LineEnds ends) (id : EventId) :
    codeLines ends ("# event " ++ id.text) = id.strayLines ends := by
  have hword : ∀ c ∈ ofString "# event ", ends c = false := by
    intro c hc
    have hprintable := printable_ofString (s := "# event ") (by decide) c hc
    rw [Bool.eq_false_iff]
    intro hends
    rw [lineEnds.unprintable c hends] at hprintable
    cases hprintable
  have hcomment : ∀ first : Text, isCode ("# event " ++ first) = false := fun first => rfl
  rw [codeLines, splitOnP_append_word hword, EventId.strayLines]
  cases id.text.splitOnP ends with
  | nil => rfl
  | cons first rest => simp [hcomment]

lemma codeLines_titled (lineEnds : LineEnds ends) (event : EventResult) (text : Text) :
    codeLines ends (titled event text) =
      event.eventId.strayLines ends ++ codeLines ends text := by
  rw [titled, codeLines_dropEndWhile lineEnds, List.append_assoc, List.singleton_append,
    codeLines_append lineEnds.newline, codeLines_title lineEnds]

lemma codeLines_parts (lineEnds : LineEnds ends) (events : List EventResult) :
    (events.filterMap fun event => event.text.map (titled event)).flatMap (codeLines ends) =
      events.flatMap fun event => event.strayLines ends ++ event.codeLines ends := by
  induction events with
  | nil => rfl
  | cons event events ih =>
    rw [List.flatMap_cons, ← ih]
    cases htext : event.text with
    | none => simp [htext, EventResult.strayLines, EventResult.codeLines]
    | some text =>
      simp [htext, codeLines_titled lineEnds, EventResult.strayLines, EventResult.codeLines]

lemma codeLines_renderAll (lineEnds : LineEnds ends) (events : List EventResult) :
    codeLines ends (renderAll events) =
      events.flatMap fun event => event.strayLines ends ++ event.codeLines ends := by
  rw [← codeLines_parts lineEnds]
  unfold renderAll
  split
  · rename_i hnone
    rw [hnone, codeLines_nil, List.flatMap_nil]
  · rw [codeLines_append lineEnds.newline, codeLines_join lineEnds, codeLines_nil, List.append_nil]

lemma render_of_two {run : RunResult} (h : 2 ≤ run.events.length) :
    run.render = renderAll run.events := by
  unfold render
  split
  · rename_i hsingle
    simp [hsingle] at h
  · rfl

/-- Lists that are put in front of others can be left out only if they are empty. -/
lemma flatMap_append_eq_iff {α β : Type} {f g : α → List β} {list : List α} :
    list.flatMap (fun a => f a ++ g a) = list.flatMap g ↔ ∀ a ∈ list, f a = [] := by
  constructor
  · intro heq
    have hlength := congrArg List.length heq
    simp only [List.length_flatMap, List.length_append, List.sum_map_add] at hlength
    have hzero : (list.map fun a => (f a).length).sum = 0 := by omega
    intro a ha
    rw [← List.length_eq_zero_iff]
    exact List.sum_eq_zero_iff.1 hzero _ (List.mem_map_of_mem ha)
  · intro hempty
    exact List.flatMap_congr fun a ha => by rw [hempty a ha, List.nil_append]

/-- The code lines of the joined scripts are those of the events in order, each with what leaves the
comment above it. They are those of the events alone exactly if no name of an event that has a
script goes on with code behind its first line. -/
theorem render_codeLines (lineEnds : LineEnds ends) {run : RunResult}
    (h : 2 ≤ run.events.length) :
    codeLines ends run.render =
        run.events.flatMap (fun event => event.strayLines ends ++ event.codeLines ends) ∧
      (codeLines ends run.render = run.events.flatMap (EventResult.codeLines ends) ↔
        ∀ event ∈ run.events, event.strayLines ends = []) := by
  rw [render_of_two h, codeLines_renderAll lineEnds]
  exact ⟨rfl, flatMap_append_eq_iff⟩

/-- Lines that end in newlines only. -/
lemma lineEnds_newline : LineEnds fun c => c = CodePoint.newline where
  newline := by decide
  unprintable := by
    intro c hc
    rw [of_decide_eq_true hc]
    decide

/-- An event whose name has two lines, one that was skipped, and one with a name of one line. -/
def brokenTitle : RunResult :=
  ⟨[{ eventId := .value (.str "a\nb"), text := some "wait(1)\n" },
    { eventId := .value (.str "c\nd"), text := none },
    { eventId := .ref ⟨"Map001", 2, some 0⟩, text := some "if ready:\n    # go\n    go()\n" }]⟩

theorem render_codeLines_brokenTitle :
    LineEnds (fun c => c = CodePoint.newline) ∧ 2 ≤ brokenTitle.events.length ∧
      codeLines (fun c => c = CodePoint.newline) brokenTitle.render =
        ["b", "wait(1)", "if ready:", "    go()"] :=
  ⟨lineEnds_newline, by decide,
    (render_codeLines lineEnds_newline (by decide)).1.trans (by decide +kernel)⟩

/-- The name of an event can be code: two events without commands, whose scripts are empty. -/
theorem convertEvents_code_of_title :
    ∃ run, (({ variant := .mv } : Converter).convertEvents
        [(.value (.str "a\nb"), []), (.value (.int 2), [])]).2 = .ok run ∧
      run.events.flatMap (EventResult.codeLines fun c => c = CodePoint.newline) = [] ∧
      codeLines (fun c => c = CodePoint.newline) run.render = ["b"] :=
  ⟨_, rfl, by decide +kernel, by decide +kernel⟩

end RunResult

end EventScript
