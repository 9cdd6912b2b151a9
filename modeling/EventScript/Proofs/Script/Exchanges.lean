import EventScript.Proofs.Script.Layout

/-!
A writer under requests of every kind, in any order. What it holds is decided by the lines asked
for: the contents stand in their order behind the margins of their depths, and one empty line
stands between two of them where one was asked for, at whatever depth. Requests that are refused and
requests for the text leave no trace.
-/
namespace EventScript

namespace Writer

/-- What can be asked of a writer: a step, or the text written so far. -/
inductive Request where
  | step (step : Step)
  | render

/-- The step of a request, unless it asks for the text. -/
def Request.step? : Request → Option Step
  | .step s => some s
  | .render => none

inductive Reply where
  | done
  | refused (fault : Fault)
  | text (text : Text)

/-- The writer behind a request, and its reply. -/
def answer (w : Writer) : Request → Writer × Reply
  | .step step => match w.step step with
    | .ok next => (next, .done)
    | .error fault => (w, .refused fault)
  | .render => (w, .text w.render)

/-- The writer behind requests one after another. -/
def serve (w : Writer) : List Request → Writer
  | [] => w
  | request :: rest => (w.answer request).1.serve rest

/-- A request, with the depth that it found and the reply that it got. -/
structure Exchange where
  depth : Nat
  request : Request
  reply : Reply

/-- What is exchanged over requests one after another. -/
def exchanges (w : Writer) : List Request → List Exchange
  | [] => []
  | request :: rest =>
    ⟨w.depth, request, (w.answer request).2⟩ :: (w.answer request).1.exchanges rest

namespace Exchange

/-- The lines that a request asks for at its depth; `none` is an empty line. -/
def asked (style : Style) : Exchange → List (Option Line)
  | ⟨_, .step (.line []), _⟩ => [none]
  | ⟨depth, .step step, _⟩ => (step.lines style depth).map some
  | ⟨_, .render, _⟩ => []

/-- One level deeper. -/
def deepens : Exchange → Bool
  | ⟨_, .step .indent, _⟩ => true
  | _ => false

/-- One level back, and not refused. -/
def returns : Exchange → Bool
  | ⟨_, .step .dedent, .done⟩ => true
  | _ => false

end Exchange

/-- The lines asked for in exchanges. -/
def requested (style : Style) (log : List Exchange) : List (Option Line) :=
  log.flatMap (Exchange.asked style)

/-! Lines asked for, as they come to stand below one another. -/

/-- The lines that texts add to a script, where `none` asks for an empty line. An empty line becomes
due only if there is a line before it, and is written before the next text. -/
def spread : (begun due : Bool) → List (Option Text) → List Text
  | _, _, [] => []
  | begun, due, none :: rest => spread begun (due || begun) rest
  | _, due, some text :: rest => (if due then [[]] else []) ++ text :: spread true false rest

section Spread

variable {asked : List (Option Text)}

lemma ne_nil_of_not_mem_cons {text : Text} {rest : List (Option Text)}
    (h : some [] ∉ some text :: rest) : text ≠ [] ∧ some [] ∉ rest := by
  simpa [eq_comm] using h

lemma filter_spread (h : some [] ∉ asked) (begun due : Bool) :
    (spread begun due asked).filter (!·.isEmpty) = asked.reduceOption := by
  fun_induction spread begun due asked with
  | case1 => rfl
  | case2 begun due rest ih => simpa using ih (by simpa using h)
  | case3 _ due text rest ih =>
    obtain ⟨htext, hrest⟩ := ne_nil_of_not_mem_cons h
    cases due <;> simp [ih hrest, htext]

lemma head?_spread (h : some [] ∉ asked) : (spread false false asked).head? ≠ some [] := by
  induction asked with
  | nil => simp [spread]
  | cons line rest ih =>
    cases line with
    | none => exact ih (by simpa using h)
    | some text =>
      obtain ⟨htext, -⟩ := ne_nil_of_not_mem_cons h
      simpa [spread] using htext

lemma getLast?_spread (h : some [] ∉ asked) (begun due : Bool) :
    (spread begun due asked).getLast? ≠ some [] := by
  fun_induction spread begun due asked with
  | case1 => simp
  | case2 begun due rest ih => exact ih (by simpa using h)
  | case3 _ due text rest ih =>
    obtain ⟨htext, hrest⟩ := ne_nil_of_not_mem_cons h
    have hlast := ih hrest
    cases hspread : spread true false rest with
    | nil => simpa using htext
    | cons next more => simpa [hspread] using hlast

/-- Of two neighbours at least one has content. -/
lemma isChain_spread (h : some [] ∉ asked) (begun due : Bool) :
    (spread begun due asked).IsChain fun upper lower => upper ≠ [] ∨ lower ≠ [] := by
  fun_induction spread begun due asked with
  | case1 => exact .nil
  | case2 begun due rest ih => exact ih (by simpa using h)
  | case3 _ due text rest ih =>
    obtain ⟨htext, hrest⟩ := ne_nil_of_not_mem_cons h
    have hbelow : (text :: spread true false rest).IsChain fun upper lower =>
        upper ≠ [] ∨ lower ≠ [] :=
      List.isChain_cons.2 ⟨fun _ _ => .inl htext, ih hrest⟩
    cases due with
    | false => exact hbelow
    | true => exact List.isChain_cons_cons.2 ⟨.inr htext, hbelow⟩

lemma spread_append (begun due : Bool) (before : List (Option Text)) :
    ∃ begun' due', ∀ after,
      spread begun due (before ++ after) = spread begun due before ++ spread begun' due' after := by
  fun_induction spread begun due before with
  | case1 begun due => exact ⟨begun, due, fun _ => rfl⟩
  | case2 begun due rest ih => exact ih
  | case3 _ due text rest ih =>
    obtain ⟨begun', due', hrest⟩ := ih
    exact ⟨begun', due', fun after => by simp [spread, hrest]⟩

/-- Empty lines asked for below a line are one. -/
lemma spread_replicate (due : Bool) (n : Nat) (rest : List (Option Text)) :
    spread true due (List.replicate n none ++ rest) = spread true (due || n != 0) rest := by
  induction n generalizing due with
  | zero => simp
  | succ n ih => simp [List.replicate_succ, spread, ih]

/-- Texts one after another stay together. -/
lemma spread_texts (begun due : Bool) {texts : List Text} (h : texts ≠ [])
    (rest : List (Option Text)) :
    spread begun due (texts.map some ++ rest) =
      (if due then [[]] else []) ++ texts ++ spread true false rest := by
  induction texts generalizing begun due with
  | nil => exact absurd rfl h
  | cons text texts ih =>
    cases texts with
    | nil => simp [spread]
    | cons next texts =>
      rw [List.map_cons, List.cons_append, spread, ih true false (by simp)]
      simp

/-- Between two texts stands an empty line exactly if one was asked for there. -/
lemma spread_gap {before after : List (Option Text)} {upper lower : Text} {n : Nat}
    (h : some [] ∉ before ++ some upper :: (List.replicate n none ++ some lower :: after))
    (begun due : Bool) :
    ∃ above below,
      spread begun due (before ++ some upper :: (List.replicate n none ++ some lower :: after)) =
        above ++ upper :: ((if n = 0 then [] else [[]]) ++ lower :: below) ∧
      above.filter (!·.isEmpty) = before.reduceOption ∧
      below.filter (!·.isEmpty) = after.reduceOption := by
  obtain ⟨begun', due', hbefore⟩ := spread_append begun due before
  -- An empty line that was due before the upper text belongs to what stands above it.
  refine ⟨spread begun due before ++ if due' then [[]] else [], spread true false after, ?_, ?_, ?_⟩
  · simp [hbefore, spread, spread_replicate]
  · rw [List.filter_append, filter_spread fun hmem => h (by simp [hmem])]
    cases due' <;> simp
  · exact filter_spread (fun hmem => h (by simp [hmem])) true false

end Spread

/-! What one request does. A step that writes something first writes the empty line that is due, and
then goes on as if none had been. -/

/-- The writer with the empty line written that is due. -/
def flush (w : Writer) : Writer where
  style := w.style
  depth := w.depth
  reversedLines := if w.pendingBlank then [] :: w.reversedLines else w.reversedLines

lemma line_flush (w : Writer) {text : Text} (h : text ≠ []) : w.flush.line text = w.line text := by
  simp [line, flush, margin, h]

lemma comment_flush (w : Writer) (text : Text) : w.flush.comment text = w.comment text := by
  simp only [comment]
  split_ifs
  · exact line_flush w (by decide)
  · exact line_flush w (by simp [Text.ofString])

lemma call_flush (w : Writer) (head : Text) (arguments : List Text) :
    w.flush.call head arguments = w.call head arguments := by
  have hopen : w.flush.line (head ++ "(") = w.line (head ++ "(") :=
    line_flush w (by simp [Text.ofString])
  have hwhole : w.flush.line (callText head arguments) = w.line (callText head arguments) :=
    line_flush w (by simp [callText, Text.ofString])
  rw [call, call, hopen, hwhole]
  rfl

lemma answer_dedent_of_eq_zero {w : Writer} (h : w.depth = 0) :
    w.answer (.step .dedent) = (w, .refused .underflow) := by
  simp [answer, step, dedent, h]

lemma answer_dedent_of_ne_zero {w : Writer} (h : w.depth ≠ 0) :
    w.answer (.step .dedent) = ({ w with depth := w.depth - 1 }, .done) := by
  simp [answer, step, dedent, h]

/-- What a request can do: change nothing but the depth, make an empty line due, or write lines. -/
lemma answer_cases (w : Writer) (request : Request) (reply : Reply) :
    (Exchange.asked w.style ⟨w.depth, request, reply⟩ = [] ∧
      ∃ depth, (w.answer request).1 = { w with depth }) ∨
    (Exchange.asked w.style ⟨w.depth, request, reply⟩ = [none] ∧
      (w.answer request).1 = w.line []) ∨
    ∃ lines ≠ [], Exchange.asked w.style ⟨w.depth, request, reply⟩ = lines.map some ∧
      (w.answer request).1 = w.flush.push w.depth lines := by
  cases request with
  | render => exact .inl ⟨rfl, w.depth, rfl⟩
  | step s =>
    cases s with
    | line text =>
      cases text with
      | nil => exact .inr (.inl ⟨rfl, rfl⟩)
      | cons c text =>
        have htext : c :: text ≠ [] := List.cons_ne_nil c text
        refine .inr (.inr ⟨[⟨w.depth, c :: text⟩], by simp, rfl, ?_⟩)
        exact (line_flush w htext).symm.trans (line_eq_push rfl htext)
    | comment text =>
      refine .inr (.inr ⟨_, by simp [Step.lines], rfl, ?_⟩)
      exact (comment_flush w text).symm.trans (comment_eq_push rfl text)
    | call head arguments =>
      refine .inr (.inr ⟨Step.lines w.style w.depth (.call head arguments), ?_, rfl, ?_⟩)
      · rw [Step.lines]
        split_ifs <;> simp
      · exact (call_flush w head arguments).symm.trans (call_eq_push rfl head arguments)
    | indent => exact .inl ⟨rfl, w.depth + 1, rfl⟩
    | dedent =>
      by_cases hdepth : w.depth = 0
      · exact .inl ⟨rfl, w.depth, by rw [answer_dedent_of_eq_zero hdepth]⟩
      · exact .inl ⟨rfl, w.depth - 1, by rw [answer_dedent_of_ne_zero hdepth]⟩

lemma style_answer (w : Writer) (request : Request) : (w.answer request).1.style = w.style := by
  rcases answer_cases w request .done with ⟨-, depth, h⟩ | ⟨-, h⟩ | ⟨lines, -, -, h⟩ <;>
    rw [h] <;> rfl

/-- The lines of a writer once those are written that are still asked for. -/
def completed (w : Writer) (asked : List (Option Text)) : List Text :=
  w.lines ++ spread (!w.reversedLines.isEmpty) w.pendingBlank asked

lemma completed_nil (w : Writer) : w.completed [] = w.lines := List.append_nil _

lemma completed_push (w : Writer) {lines : List Line} (h : lines ≠ [])
    (rest : List (Option Text)) :
    (w.flush.push w.depth lines).completed rest =
      w.completed ((lines.map (Line.text w.style)).map some ++ rest) := by
  have hlines : (w.flush.push w.depth lines).lines =
      w.lines ++ ((if w.pendingBlank then [[]] else []) ++ lines.map (Line.text w.style)) := by
    cases hdue : w.pendingBlank <;> simp [Writer.lines, push, flush, hdue]
  have hbegun : (w.flush.push w.depth lines).reversedLines.isEmpty = false := by simp [push, h]
  rw [completed, completed, hlines, hbegun, spread_texts _ _ (by simpa using h), List.append_assoc]
  rfl

/-- A request takes its lines from those still to come and leaves the whole as it is. -/
lemma completed_answer (w : Writer) (request : Request) (reply : Reply)
    (rest : List (Option Text)) :
    (w.answer request).1.completed rest =
      w.completed ((Exchange.asked w.style ⟨w.depth, request, reply⟩).map
        (Option.map (Line.text w.style)) ++ rest) := by
  rcases answer_cases w request reply with ⟨hasked, depth, h⟩ | ⟨hasked, h⟩ | ⟨lines, hne, hasked, h⟩
  · rw [h, hasked]
    rfl
  · rw [h, hasked]
    simp [completed, spread, line, Writer.lines]
  · rw [h, hasked, completed_push w hne]
    simp

/-- Nothing is refused but a step back from the outermost depth. -/
lemma answer_refused_iff (w : Writer) (request : Request) (fault : Fault) :
    (w.answer request).2 = .refused fault ↔ request = .step .dedent ∧ w.depth = 0 := by
  cases request with
  | render => simp [answer]
  | step s =>
    cases s with
    | dedent =>
      by_cases hdepth : w.depth = 0
      · simp [answer_dedent_of_eq_zero hdepth, hdepth]
      · simp [answer_dedent_of_ne_zero hdepth, hdepth]
    | _ => simp [answer, step]

lemma depth_answer (w : Writer) (request : Request) {e : Exchange}
    (he : e = ⟨w.depth, request, (w.answer request).2⟩) :
    (w.answer request).1.depth + (if e.returns then 1 else 0) =
      w.depth + if e.deepens then 1 else 0 := by
  subst he
  cases request with
  | render => rfl
  | step s =>
    cases s with
    | indent => rfl
    | dedent =>
      by_cases hdepth : w.depth = 0
      · rw [answer_dedent_of_eq_zero hdepth]
        rfl
      · rw [answer_dedent_of_ne_zero hdepth]
        exact Nat.sub_add_cancel (Nat.pos_of_ne_zero hdepth)
    | _ => simp [answer, step, Exchange.returns, Exchange.deepens]

/-! What requests one after another do. -/

lemma depth_serve (w : Writer) (requests : List Request) :
    (w.serve requests).depth + (w.exchanges requests).countP Exchange.returns =
      w.depth + (w.exchanges requests).countP Exchange.deepens := by
  induction requests generalizing w with
  | nil => rfl
  | cons request rest ih =>
    have hstep := depth_answer w request rfl
    have hrest := ih (w.answer request).1
    simp only [serve, exchanges, List.countP_cons]
    omega

lemma lines_serve (w : Writer) (requests : List Request) :
    (w.serve requests).lines =
      w.completed ((requested w.style (w.exchanges requests)).map
        (Option.map (Line.text w.style))) := by
  induction requests generalizing w with
  | nil => exact (completed_nil w).symm
  | cons request rest ih =>
    rw [serve, ih, style_answer, completed_answer w request (w.answer request).2,
      ← List.map_append]
    rfl

/-- Only the steps among the requests count. -/
lemma serve_eq_run (w : Writer) (requests : List Request) :
    w.serve requests = w.run ((w.exchanges requests).filterMap fun e => e.request.step?) := by
  induction requests generalizing w with
  | nil => rfl
  | cons request rest ih =>
    rw [serve, ih]
    cases request with
    | render => rfl
    | step s =>
      simp only [exchanges, Request.step?, List.filterMap_cons, run, List.foldl_cons, answer]
      cases w.step s <;> rfl

/-- A line asked for has content, unless it is asked for as an empty one. -/
lemma Exchange.content_ne_nil {style : Style} {e : Exchange} {line : Line}
    (h : some line ∈ e.asked style) : line.content ≠ [] := by
  obtain ⟨depth, request, reply⟩ := e
  cases request with
  | render => cases h
  | step s =>
    cases s with
    | line text =>
      cases text with
      | nil => simp [asked] at h
      | cons c text =>
        obtain rfl : line = ⟨depth, c :: text⟩ := by simpa [asked, Step.lines] using h
        exact List.cons_ne_nil c text
    | comment text =>
      have hline : line ∈ Step.lines style depth (.comment text) := by simpa [asked] using h
      exact (Step.visible_comment text style depth line hline).ne_nil
    | call head arguments =>
      have hline : line ∈ Step.lines style depth (.call head arguments) := by
        simpa [asked] using h
      exact (Step.visible_call head arguments style depth line hline).ne_nil
    | indent => cases h
    | dedent => cases h

lemma nil_not_mem_requested (style : Style) (log : List Exchange) :
    some [] ∉ (requested style log).map (Option.map (Line.text style)) := by
  intro hmem
  obtain ⟨asked, hasked, htext⟩ := List.mem_map.1 hmem
  obtain ⟨line, rfl, hempty⟩ := Option.map_eq_some_iff.1 htext
  obtain ⟨e, -, hline⟩ := List.mem_flatMap.1 hasked
  exact e.content_ne_nil hline (List.append_eq_nil_iff.1 hempty).2

/-- What holds of a writer behind exchanges that a fresh one began. -/
structure Lawful (style : Style) (log : List Exchange) (w : Writer) : Prop where
  /-- The depth counts the steps to a deeper level and those back that were not refused. -/
  depth : (w.depth : ℤ) = log.countP Exchange.deepens - log.countP Exchange.returns
  refuses : ∀ request, (w.answer request).2 = .refused .underflow ↔
    request = .step .dedent ∧ w.depth = 0
  /-- A refused request changes nothing. -/
  unchanged : ∀ request, (w.answer request).2 = .refused .underflow → (w.answer request).1 = w
  starts : w.lines.head? ≠ some []
  ends : w.lines.getLast? ≠ some []
  /-- No two empty lines are neighbours. -/
  apart : w.lines.IsChain fun upper lower => upper ≠ [] ∨ lower ≠ []
  /-- The contents are written in their order, each at the depth at which it was asked for. -/
  contents : w.lines.filter (!·.isEmpty) = (requested style log).reduceOption.map (Line.text style)
  /-- Between two contents asked for one after the other stands one empty line if some were asked
  for between them, else none. -/
  gaps : ∀ (before : List (Option Line)) (upper : Line) (n : Nat) (lower : Line)
    (after : List (Option Line)),
    requested style log = before ++ some upper :: (List.replicate n none ++ some lower :: after) →
    ∃ above below,
      w.lines = above ++ upper.text style ::
        ((if n = 0 then [] else [[]]) ++ lower.text style :: below) ∧
      above.filter (!·.isEmpty) = before.reduceOption.map (Line.text style) ∧
      below.filter (!·.isEmpty) = after.reduceOption.map (Line.text style)
  renders : w.answer .render = (w, .text (textOfLines w.lines))
  /-- The writer is what the steps alone would have made of it, without any request for the text. -/
  untraced : w = Writer.run { style } (log.filterMap fun e => e.request.step?)

/-- A fresh writer of any style stays lawful under any requests. -/
theorem serve_lawful (style : Style) (requests : List Request) :
    Lawful style (exchanges { style } requests) (serve { style } requests) := by
  have hlines : (serve { style } requests).lines =
      spread false false ((requested style (exchanges { style } requests)).map
        (Option.map (Line.text style))) := lines_serve { style } requests
  have hnil := nil_not_mem_requested style (exchanges { style } requests)
  constructor
  case depth =>
    have hdepth := depth_serve { style } requests
    dsimp only at hdepth
    omega
  case refuses => exact fun request => answer_refused_iff _ request .underflow
  case unchanged =>
    intro request hrefused
    obtain ⟨rfl, hdepth⟩ := (answer_refused_iff _ request .underflow).1 hrefused
    rw [answer_dedent_of_eq_zero hdepth]
  case starts => exact hlines ▸ head?_spread hnil
  case ends => exact hlines ▸ getLast?_spread hnil false false
  case apart => exact hlines ▸ isChain_spread hnil false false
  case contents => rw [hlines, filter_spread hnil, List.reduceOption_map]
  case gaps =>
    intro before upper n lower after hasked
    simp only [hasked, List.map_append, List.map_cons, List.map_replicate, Option.map_some,
      Option.map_none] at hnil hlines
    obtain ⟨above, below, hspread, habove, hbelow⟩ := spread_gap hnil false false
    refine ⟨above, below, hlines.trans hspread, ?_, ?_⟩
    · rw [habove, List.reduceOption_map]
    · rw [hbelow, List.reduceOption_map]
  case renders => rfl
  case untraced => exact serve_eq_run _ requests

-- The empty line is asked for one level deeper than the call that it comes to stand before.
example :
    (serve {} [.step (.line []), .step (.line "a"), .step .indent, .step (.line []), .render,
      .step .dedent, .step .dedent, .step (.call "f" ["x", "y"])]).lines =
        [Text.ofString "a", [], "f(", "\tx,", "\ty,", ")"] := by decide

end Writer

end EventScript
