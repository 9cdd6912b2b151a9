import EventScript.Proofs.Script.Lines
import EventScript.Proofs.Text.Word

/-! The grammar of script lines. A suite is a sequence of comments, simple statements, chains and
loops at one depth; the lines under a header are a suite one level deeper in which something is
executed. -/
namespace EventScript

lemma Text.Closed.trimEnd_eq {t : Text} (h : t.Closed) : t.trimEnd = t := by
  obtain ⟨c, hc, hblank, -⟩ := h
  obtain ⟨before, rfl⟩ := List.getLast?_eq_some_iff.1 hc
  simp [trimEnd, dropEndWhile, hblank]

/-- A line that opens a clause: a word, a condition and a colon, and perhaps a note behind it. -/
def OpensClause (word content : Text) : Prop :=
  ∃ condition note : Text, condition ≠ [] ∧ content = word ++ " " ++ condition ++ ":" ++ note ∧
    (note = [] ∨ ∃ text, note = "  # " ++ text)

/-- Lines that form a suite. The flags say whether a loop is around the suite, whether its lines may
go on with a chain that stands right before them, and whether something in it is executed at its own
depth. -/
inductive Suite : (inLoop chained : Bool) → (depth : Nat) → (executes : Bool) → List Line → Prop
  | nil {inLoop chained : Bool} {depth : Nat} : Suite inLoop chained depth false []
  | comment {inLoop chained executes : Bool} {depth : Nat} {content : Text} {rest : List Line}
      (hcontent : content.head? = some (CodePoint.ofChar '#'))
      (hrest : Suite inLoop false depth executes rest) :
      Suite inLoop chained depth executes (⟨depth, content⟩ :: rest)
  | simple {inLoop chained executes : Bool} {depth : Nat} {content : Text} {rest : List Line}
      (hcontent : content.Headed) (hclosed : content.Closed)
      (hrest : Suite inLoop false depth executes rest) :
      Suite inLoop chained depth true (⟨depth, content⟩ :: rest)
  | call {inLoop chained executes : Bool} {depth : Nat} {head : Text} {arguments : List Text}
      {rest : List Line} (hhead : head.Headed) (hlength : 2 ≤ arguments.length)
      (harguments : ∀ argument ∈ arguments, argument.leadingWord ∉ Text.controlWords)
      (hrest : Suite inLoop false depth executes rest) :
      Suite inLoop chained depth true
        (⟨depth, head ++ "("⟩ :: (arguments.map fun argument => ⟨depth + 1, argument ++ ","⟩) ++
          ⟨depth, ")"⟩ :: rest)
  | pass {inLoop chained executes : Bool} {depth : Nat} {rest : List Line}
      (hrest : Suite inLoop false depth executes rest) :
      Suite inLoop chained depth true (⟨depth, "pass"⟩ :: rest)
  | breakLoop {chained executes : Bool} {depth : Nat} {rest : List Line}
      (hrest : Suite true false depth executes rest) :
      Suite true chained depth true (⟨depth, "break"⟩ :: rest)
  | whileLoop {inLoop chained executes : Bool} {depth : Nat} {body rest : List Line}
      (hbody : Suite true false (depth + 1) true body)
      (hrest : Suite inLoop false depth executes rest) :
      Suite inLoop chained depth true (⟨depth, "while True:"⟩ :: body ++ rest)
  | ifClause {inLoop chained executes : Bool} {depth : Nat} {content : Text} {body rest : List Line}
      (hcontent : OpensClause "if" content) (hbody : Suite inLoop false (depth + 1) true body)
      (hrest : Suite inLoop true depth executes rest) :
      Suite inLoop chained depth true (⟨depth, content⟩ :: body ++ rest)
  | elifClause {inLoop executes : Bool} {depth : Nat} {content : Text} {body rest : List Line}
      (hcontent : OpensClause "elif" content) (hbody : Suite inLoop false (depth + 1) true body)
      (hrest : Suite inLoop true depth executes rest) :
      Suite inLoop true depth true (⟨depth, content⟩ :: body ++ rest)
  | elseClause {inLoop executes : Bool} {depth : Nat} {body rest : List Line}
      (hbody : Suite inLoop false (depth + 1) true body)
      (hrest : Suite inLoop false depth executes rest) :
      Suite inLoop true depth true (⟨depth, "else:"⟩ :: body ++ rest)

namespace Suite

variable {inLoop chained executes : Bool} {depth : Nat} {lines : List Line}

/-- Lines that go on with no chain may stand behind one. -/
lemma chain (h : Suite inLoop false depth executes lines) :
    Suite inLoop chained depth executes lines := by
  cases h with
  | nil => exact .nil
  | comment hcontent hrest => exact .comment hcontent hrest
  | simple hcontent hclosed hrest => exact .simple hcontent hclosed hrest
  | call hhead hlength harguments hrest => exact .call hhead hlength harguments hrest
  | pass hrest => exact .pass hrest
  | breakLoop hrest => exact .breakLoop hrest
  | whileLoop hbody hrest => exact .whileLoop hbody hrest
  | ifClause hcontent hbody hrest => exact .ifClause hcontent hbody hrest

lemma ne_nil (h : Suite inLoop chained depth true lines) : lines ≠ [] := by
  cases h <;> simp

lemma depth_le_clause {content : Text} {body rest : List Line}
    (hbody : ∀ line ∈ body, depth + 1 ≤ line.depth) (hrest : ∀ line ∈ rest, depth ≤ line.depth) :
    ∀ line ∈ ⟨depth, content⟩ :: body ++ rest, depth ≤ line.depth := by
  simp only [List.cons_append, List.forall_mem_cons, List.forall_mem_append]
  exact ⟨le_rfl, fun line hline => Nat.le_of_succ_le (hbody line hline), hrest⟩

lemma depth_le (h : Suite inLoop chained depth executes lines) :
    ∀ line ∈ lines, depth ≤ line.depth := by
  induction h with
  | nil => simp
  | comment _ _ ih => simpa using ih
  | simple _ _ _ ih => simpa using ih
  | call _ _ _ _ ih => simpa [or_imp, forall_and] using ih
  | pass _ ih => simpa using ih
  | breakLoop _ ih => simpa using ih
  | whileLoop _ _ ihbody ih => exact depth_le_clause ihbody ih
  | ifClause _ _ _ ihbody ih => exact depth_le_clause ihbody ih
  | elifClause _ _ _ ihbody ih => exact depth_le_clause ihbody ih
  | elseClause _ _ ihbody ih => exact depth_le_clause ihbody ih

/-! Trimming the last line. -/

/-- A header with a suite under it, and more lines behind, of which the last one is trimmed. -/
lemma trimLast_clause {line : Line} {body rest : List Line} (hbody : body ≠ []) :
    Line.trimLast (line :: body ++ rest) =
      line :: (if rest = [] then Line.trimLast body else body) ++ Line.trimLast rest := by
  split_ifs with hrest
  · subst hrest
    rw [List.append_nil, Line.trimLast_cons line hbody, Line.trimLast, List.append_nil]
  · exact Line.trimLast_append _ hrest

lemma trimLast_line {line : Line} {rest : List Line} :
    Line.trimLast (line :: rest) =
      (if rest = [] then line.trim else line) :: Line.trimLast rest := by
  split_ifs with hrest
  · subst hrest
    rfl
  · exact Line.trimLast_cons line hrest

/-- A suite stays one if the blanks at its end are dropped. -/
lemma trimLast (h : Suite inLoop chained depth executes lines) :
    Suite inLoop chained depth executes (Line.trimLast lines) := by
  induction h with
  | nil => exact .nil
  | @comment _ _ _ depth content rest hcontent _ ih =>
    have htrim : content.trimEnd.head? = some (CodePoint.ofChar '#') := by
      rw [Text.head?_trimEnd ⟨_, hcontent, by decide +kernel⟩]
      exact hcontent
    rw [trimLast_line]
    split_ifs
    · exact .comment htrim ih
    · exact .comment hcontent ih
  | @simple _ _ _ depth content rest hcontent hclosed _ ih =>
    have htrim : Line.trim ⟨depth, content⟩ = ⟨depth, content⟩ := by
      rw [Line.trim, hclosed.trimEnd_eq]
    rw [trimLast_line, htrim, ite_self]
    exact .simple hcontent hclosed ih
  | @call _ _ _ depth head arguments rest hhead hlength harguments _ ih =>
    have hclose : Line.trimLast (⟨depth, ")"⟩ :: rest) = ⟨depth, ")"⟩ :: Line.trimLast rest := by
      rw [trimLast_line]
      split_ifs <;> rfl
    rw [Line.trimLast_append _ (by simp), hclose]
    exact .call hhead hlength harguments ih
  | @pass _ _ _ depth rest _ ih =>
    rw [trimLast_line]
    split_ifs <;> exact .pass ih
  | @breakLoop _ _ depth rest _ ih =>
    rw [trimLast_line]
    split_ifs <;> exact .breakLoop ih
  | whileLoop hbody _ ihbody ih =>
    rw [trimLast_clause hbody.ne_nil]
    split_ifs
    · exact .whileLoop ihbody ih
    · exact .whileLoop hbody ih
  | ifClause hcontent hbody _ ihbody ih =>
    rw [trimLast_clause hbody.ne_nil]
    split_ifs
    · exact .ifClause hcontent ihbody ih
    · exact .ifClause hcontent hbody ih
  | elifClause hcontent hbody _ ihbody ih =>
    rw [trimLast_clause hbody.ne_nil]
    split_ifs
    · exact .elifClause hcontent ihbody ih
    · exact .elifClause hcontent hbody ih
  | elseClause hbody _ ihbody ih =>
    rw [trimLast_clause hbody.ne_nil]
    split_ifs
    · exact .elseClause ihbody ih
    · exact .elseClause hbody ih

end Suite

/-! Where some lines may stand. -/

/-- Lines that end inside a loop: the lines behind its header are all deeper. -/
def InsideLoop (before : List Line) (depth : Nat) : Prop :=
  ∃ outer header inner, before = outer ++ header :: inner ∧
    header.content = ("while True:" : Text) ∧ header.depth < depth ∧
    ∀ line ∈ inner, header.depth < line.depth

/-- Lines that end with an unfinished chain: behind its first header there are only its suites and
its further headers. -/
def BehindIf (before : List Line) (depth : Nat) : Prop :=
  ∃ outer header inner, before = outer ++ header :: inner ∧
    header.content.leadingWord = ("if" : Text) ∧ header.depth = depth ∧
    ∀ line ∈ inner, depth < line.depth ∨
      line.depth = depth ∧ line.content.leadingWord = ("elif" : Text)

/-- A line that stands where its first word allows it to. -/
structure Placed (before : List Line) (line : Line) : Prop where
  inside : line.content.leadingWord = ("break" : Text) → InsideLoop before line.depth
  behind : line.content.leadingWord = ("elif" : Text) ∨ line.content.leadingWord = ("else" : Text) →
    BehindIf before line.depth

/-- All lines are placed, each one behind those before it. -/
def AllPlaced : List Line → List Line → Prop
  | _, [] => True
  | before, line :: rest => Placed before line ∧ AllPlaced (before ++ [line]) rest

lemma allPlaced_append {before lines rest : List Line} :
    AllPlaced before (lines ++ rest) ↔
      AllPlaced before lines ∧ AllPlaced (before ++ lines) rest := by
  induction lines generalizing before with
  | nil => simp [AllPlaced]
  | cons line lines ih => simp [AllPlaced, ih, and_assoc]

lemma AllPlaced.placed {lines before after : List Line} {line : Line} (h : AllPlaced [] lines)
    (heq : lines = before ++ line :: after) : Placed before line := by
  rw [heq, allPlaced_append] at h
  exact h.2.1

lemma InsideLoop.append {before more : List Line} {depth next : Nat} (h : InsideLoop before depth)
    (hmore : ∀ line ∈ more, depth ≤ line.depth) (hnext : depth ≤ next) :
    InsideLoop (before ++ more) next := by
  obtain ⟨outer, header, inner, rfl, hheader, hdepth, hinner⟩ := h
  refine ⟨outer, header, inner ++ more, by simp, hheader, hdepth.trans_le hnext, ?_⟩
  rw [List.forall_mem_append]
  exact ⟨hinner, fun line hline => hdepth.trans_le (hmore line hline)⟩

lemma InsideLoop.line {before : List Line} {depth next : Nat} (h : InsideLoop before depth)
    (content : Text) (hnext : depth ≤ next) :
    InsideLoop (before ++ [⟨depth, content⟩]) next :=
  h.append (by simp) hnext

lemma BehindIf.append {before more : List Line} {depth : Nat} (h : BehindIf before depth)
    (hmore : ∀ line ∈ more, depth < line.depth ∨
      line.depth = depth ∧ line.content.leadingWord = ("elif" : Text)) :
    BehindIf (before ++ more) depth := by
  obtain ⟨outer, header, inner, rfl, hheader, hdepth, hinner⟩ := h
  refine ⟨outer, header, inner ++ more, by simp, hheader, hdepth, ?_⟩
  rw [List.forall_mem_append]
  exact ⟨hinner, hmore⟩

lemma placed_of_word {before : List Line} {depth : Nat} {content : Text}
    (h : content.leadingWord ∉ [("break" : Text), "elif", "else"]) :
    Placed before ⟨depth, content⟩ := by
  simp only [List.mem_cons, List.not_mem_nil, or_false, not_or] at h
  exact ⟨fun hword => absurd hword h.1, fun hword => absurd hword (not_or.2 h.2)⟩

/-- A line that starts with no word of control may stand anywhere. -/
lemma placed_of_not_control {before : List Line} {depth : Nat} {content : Text}
    (h : content.leadingWord ∉ Text.controlWords) : Placed before ⟨depth, content⟩ := by
  have hwords : ∀ word ∈ [("break" : Text), "elif", "else"], word ∈ Text.controlWords := by decide
  exact placed_of_word fun hmem => h (hwords _ hmem)

lemma allPlaced_of_not_control {before lines : List Line}
    (h : ∀ line ∈ lines, line.content.leadingWord ∉ Text.controlWords) :
    AllPlaced before lines := by
  induction lines generalizing before with
  | nil => trivial
  | cons line lines ih =>
    exact ⟨placed_of_not_control (h line (by simp)), ih fun line hline => h line (by simp [hline])⟩

lemma allPlaced_clause {before body rest : List Line} {header : Line}
    (hheader : Placed before header) (hbody : AllPlaced (before ++ [header]) body)
    (hrest : AllPlaced (before ++ header :: body) rest) :
    AllPlaced before (header :: body ++ rest) :=
  allPlaced_append.2 ⟨⟨hheader, hbody⟩, hrest⟩

lemma leadingWord_of_opensClause {word : String} {content : Text}
    (hword : Text.leadingWord word = word) (h : OpensClause word content) :
    content.leadingWord = word := by
  obtain ⟨condition, note, -, rfl, -⟩ := h
  have hspace : Text.Breaks (" " ++ (condition ++ (":" ++ note))) := by
    intro c hc
    obtain rfl : CodePoint.ofChar ' ' = c := by simpa [Text.ofString] using hc
    decide +kernel
  rw [List.append_assoc, List.append_assoc, List.append_assoc, Text.leadingWord_append hspace, hword]

lemma leadingWord_of_comment {content : Text} (h : content.head? = some (CodePoint.ofChar '#')) :
    content.leadingWord = [] := by
  obtain ⟨rest, rfl⟩ : ∃ rest, content = CodePoint.ofChar '#' :: rest :=
    List.head?_eq_some_iff.1 h
  have hmark : (CodePoint.ofChar '#').isIdentifierContinue = false := by decide +kernel
  rw [Text.leadingWord, List.takeWhile_cons_of_neg (by simp [hmark])]

lemma not_control_of_comment {content : Text}
    (h : content.head? = some (CodePoint.ofChar '#')) :
    content.leadingWord ∉ Text.controlWords := by
  rw [leadingWord_of_comment h]
  decide

lemma headed_open {head : Text} (h : head.Headed) : (head ++ Text.ofString "(").Headed :=
  h.append (by decide +kernel)

lemma not_control_close : Text.leadingWord ")" ∉ Text.controlWords := by decide +kernel

/-- The lines of a call start with no word of control. -/
lemma not_control_call {depth : Nat} {head : Text} {arguments : List Text} (hhead : head.Headed)
    (harguments : ∀ argument ∈ arguments, argument.leadingWord ∉ Text.controlWords) :
    ∀ line ∈ (⟨depth, head ++ "("⟩ : Line) ::
        arguments.map fun argument => ⟨depth + 1, argument ++ ","⟩,
      line.content.leadingWord ∉ Text.controlWords := by
  have hcomma : Text.Breaks (Text.ofString ",") := by decide +kernel
  simp only [List.forall_mem_cons, List.forall_mem_map, Text.leadingWord_append hcomma]
  exact ⟨(headed_open hhead).not_control, harguments⟩

namespace Suite

variable {inLoop chained executes : Bool} {depth : Nat} {lines : List Line}

lemma insideLoop_clause {content : Text} {before body : List Line}
    (hbody : Suite inLoop chained (depth + 1) executes body) (h : InsideLoop before depth) :
    InsideLoop (before ++ ⟨depth, content⟩ :: body) depth := by
  refine h.append ?_ le_rfl
  rw [List.forall_mem_cons]
  exact ⟨le_rfl, fun line hline => Nat.le_of_succ_le (hbody.depth_le line hline)⟩

/-- In a suite, whatever leaves a loop is inside one, and whatever goes on with a chain is behind its
first clause. -/
lemma allPlaced (h : Suite inLoop chained depth executes lines) {before : List Line}
    (hloop : inLoop = true → InsideLoop before depth)
    (hchain : chained = true → BehindIf before depth) : AllPlaced before lines := by
  induction h generalizing before with
  | nil => trivial
  | comment hcontent _ ih =>
    exact ⟨placed_of_not_control (not_control_of_comment hcontent),
      ih (fun h => (hloop h).line _ le_rfl) nofun⟩
  | simple hcontent _ _ ih =>
    exact ⟨placed_of_not_control hcontent.not_control,
      ih (fun h => (hloop h).line _ le_rfl) nofun⟩
  | call hhead _ harguments _ ih =>
    rw [allPlaced_append]
    refine ⟨allPlaced_of_not_control (not_control_call hhead harguments),
      placed_of_not_control not_control_close, ih (fun h => ?_) nofun⟩
    refine InsideLoop.line ((hloop h).append ?_ le_rfl) _ le_rfl
    simp
  | pass _ ih =>
    exact ⟨placed_of_word (by decide +kernel), ih (fun h => (hloop h).line _ le_rfl) nofun⟩
  | breakLoop _ ih =>
    have hword : ¬(Text.leadingWord "break" = "elif" ∨ Text.leadingWord "break" = "else") := by
      decide +kernel
    exact ⟨⟨fun _ => hloop rfl, fun h => absurd h hword⟩,
      ih (fun h => (hloop h).line _ le_rfl) nofun⟩
  | whileLoop hbody _ ihbody ih =>
    refine allPlaced_clause (placed_of_word (by decide +kernel)) (ihbody (fun _ => ?_) nofun)
      (ih (fun h => insideLoop_clause hbody (hloop h)) nofun)
    exact ⟨before, _, [], rfl, rfl, Nat.lt_succ_self _, nofun⟩
  | @ifClause inLoop _ _ depth content body rest hcontent hbody _ ihbody ih =>
    have hword : content.leadingWord = ("if" : Text) :=
      leadingWord_of_opensClause (by decide +kernel) hcontent
    refine allPlaced_clause (placed_of_word ?_)
      (ihbody (fun h => (hloop h).line _ (Nat.le_succ _)) nofun)
      (ih (fun h => insideLoop_clause hbody (hloop h)) fun _ => ?_)
    · rw [hword]
      decide +kernel
    · exact ⟨before, _, body, rfl, hword, rfl, fun line hline => .inl (hbody.depth_le line hline)⟩
  | @elifClause inLoop _ depth content body rest hcontent hbody _ ihbody ih =>
    have hword : content.leadingWord = ("elif" : Text) :=
      leadingWord_of_opensClause (by decide +kernel) hcontent
    refine allPlaced_clause ⟨?_, fun _ => hchain rfl⟩
      (ihbody (fun h => (hloop h).line _ (Nat.le_succ _)) nofun)
      (ih (fun h => insideLoop_clause hbody (hloop h)) fun _ => (hchain rfl).append ?_)
    · rw [hword]
      exact fun h => absurd h (by decide +kernel)
    · rw [List.forall_mem_cons]
      exact ⟨.inr ⟨rfl, hword⟩, fun line hline => .inl (hbody.depth_le line hline)⟩
  | elseClause hbody _ ihbody ih =>
    have hword : Text.leadingWord "else:" ≠ "break" := by decide +kernel
    exact allPlaced_clause ⟨fun h => absurd h hword, fun _ => hchain rfl⟩
      (ihbody (fun h => (hloop h).line _ (Nat.le_succ _)) nofun)
      (ih (fun h => insideLoop_clause hbody (hloop h)) nofun)

end Suite

/-! What stands under a header. -/

/-- Lines that start with a suite at a depth in which something is executed at that depth. -/
def Executes (depth : Nat) (lines : List Line) : Prop :=
  ∃ inner line rest, lines = inner ++ line :: rest ∧ line.depth = depth ∧
    line.content.head? ≠ some (CodePoint.ofChar '#') ∧ ∀ line ∈ inner, depth ≤ line.depth

/-- The words that headers start with. -/
def headerWords : List Text := ["if", "elif", "else", "while"]

/-- A line that has something executed under it if it is a header. -/
def Filled (line : Line) (after : List Line) : Prop :=
  line.content.leadingWord ∈ headerWords → Executes (line.depth + 1) after

/-- All lines are filled by those behind them. -/
def AllFilled : List Line → Prop
  | [] => True
  | line :: rest => Filled line rest ∧ AllFilled rest

lemma Executes.append {depth : Nat} {lines : List Line} (h : Executes depth lines)
    (more : List Line) : Executes depth (lines ++ more) := by
  obtain ⟨inner, line, rest, rfl, hline⟩ := h
  exact ⟨inner, line, rest ++ more, by simp, hline⟩

lemma executes_cons {depth : Nat} {content : Text} (h : content.leadingWord ≠ [])
    (rest : List Line) : Executes depth (⟨depth, content⟩ :: rest) := by
  refine ⟨[], ⟨depth, content⟩, rest, rfl, rfl, fun hmark => h ?_, nofun⟩
  exact leadingWord_of_comment hmark

lemma allFilled_append {lines rest : List Line} (h : AllFilled lines) (hrest : AllFilled rest) :
    AllFilled (lines ++ rest) := by
  induction lines with
  | nil => exact hrest
  | cons line lines ih => exact ⟨fun hword => (h.1 hword).append rest, ih h.2⟩

lemma AllFilled.filled {lines before after : List Line} {line : Line} (h : AllFilled lines)
    (heq : lines = before ++ line :: after) : Filled line after := by
  subst heq
  induction before with
  | nil => exact h.1
  | cons first before ih => exact ih h.2

lemma filled_of_word {depth : Nat} {content : Text} {after : List Line}
    (h : content.leadingWord ∉ headerWords) : Filled ⟨depth, content⟩ after :=
  fun hword => absurd hword h

lemma filled_of_not_control {line : Line} {after : List Line}
    (h : line.content.leadingWord ∉ Text.controlWords) : Filled line after := by
  have hwords : ∀ word ∈ headerWords, word ∈ Text.controlWords := by decide
  exact fun hword => absurd (hwords _ hword) h

lemma allFilled_of_not_control {lines : List Line}
    (h : ∀ line ∈ lines, line.content.leadingWord ∉ Text.controlWords) : AllFilled lines := by
  induction lines with
  | nil => trivial
  | cons line lines ih =>
    rw [List.forall_mem_cons] at h
    exact ⟨filled_of_not_control h.1, ih h.2⟩

namespace Suite

variable {inLoop chained executes : Bool} {depth : Nat} {lines : List Line}

/-- A suite that executes something does so at its own depth. -/
lemma executes_of_eq_true (h : Suite inLoop chained depth executes lines)
    (hexecutes : executes = true) : Executes depth lines := by
  induction h with
  | nil => cases hexecutes
  | @comment _ _ _ depth content rest _ _ ih =>
    obtain ⟨inner, line, rest, rfl, hdepth, hmark, hinner⟩ := ih hexecutes
    refine ⟨⟨depth, content⟩ :: inner, line, rest, rfl, hdepth, hmark, ?_⟩
    exact List.forall_mem_cons.2 ⟨le_rfl, hinner⟩
  | simple hcontent _ _ _ => exact executes_cons (Text.ne_nil_of_isName hcontent) _
  | call hhead _ _ _ _ => exact executes_cons (Text.ne_nil_of_isName (headed_open hhead)) _
  | pass _ _ => exact executes_cons (by decide +kernel) _
  | breakLoop _ _ => exact executes_cons (by decide +kernel) _
  | whileLoop _ _ _ _ => exact executes_cons (by decide +kernel) _
  | ifClause hcontent _ _ _ _ =>
    refine executes_cons ?_ _
    rw [leadingWord_of_opensClause (by decide +kernel) hcontent]
    decide
  | elifClause hcontent _ _ _ _ =>
    refine executes_cons ?_ _
    rw [leadingWord_of_opensClause (by decide +kernel) hcontent]
    decide
  | elseClause _ _ _ _ => exact executes_cons (by decide +kernel) _

lemma allFilled_clause {content : Text} {body rest : List Line}
    (hsuite : Suite inLoop chained (depth + 1) true body) (hbody : AllFilled body)
    (hrest : AllFilled rest) : AllFilled (⟨depth, content⟩ :: body ++ rest) :=
  ⟨fun _ => (hsuite.executes_of_eq_true rfl).append rest, allFilled_append hbody hrest⟩

/-- In a suite, something is executed under each header. -/
lemma allFilled (h : Suite inLoop chained depth executes lines) : AllFilled lines := by
  induction h with
  | nil => trivial
  | comment hcontent _ ih =>
    exact ⟨filled_of_not_control (not_control_of_comment hcontent), ih⟩
  | simple hcontent _ _ ih => exact ⟨filled_of_not_control hcontent.not_control, ih⟩
  | call hhead _ harguments _ ih =>
    refine allFilled_append (allFilled_of_not_control ?_)
      ⟨filled_of_not_control not_control_close, ih⟩
    exact not_control_call hhead harguments
  | pass _ ih => exact ⟨filled_of_word (by decide +kernel), ih⟩
  | breakLoop _ ih => exact ⟨filled_of_word (by decide +kernel), ih⟩
  | whileLoop hsuite _ hbody hrest => exact allFilled_clause hsuite hbody hrest
  | ifClause _ hsuite _ hbody hrest => exact allFilled_clause hsuite hbody hrest
  | elifClause _ hsuite _ hbody hrest => exact allFilled_clause hsuite hbody hrest
  | elseClause hsuite _ hbody hrest => exact allFilled_clause hsuite hbody hrest

end Suite

end EventScript
