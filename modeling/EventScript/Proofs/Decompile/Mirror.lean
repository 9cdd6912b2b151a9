import EventScript.Proofs.Block.Soundness
import EventScript.Proofs.Decompile.Event

/-! The statements of an event mirror its blocks: each command is written once, in the order of the
rows, and each block becomes one statement with a clause for each of its sections. -/
namespace EventScript

mutual

/-- The statements of a tree that are neither chains nor loops, in reading order. -/
def Stmt.plain : Stmt → List Stmt
  | .ifChain clauses => Clause.plainOf clauses
  | .whileLoop _ body => Stmt.plainOf body
  | stmt => [stmt]
  termination_by structural stmt => stmt

def Stmt.plainOf : List Stmt → List Stmt
  | [] => []
  | stmt :: rest => stmt.plain ++ Stmt.plainOf rest
  termination_by structural stmts => stmts

def Clause.plainOf : List Clause → List Stmt
  | [] => []
  | .mk _ body _ :: rest => Stmt.plainOf body ++ Clause.plainOf rest
  termination_by structural clauses => clauses

end

def Clause.body : Clause → List Stmt
  | .mk _ body _ => body

@[simp] lemma Stmt.plainOf_append (stmts more : List Stmt) :
    plainOf (stmts ++ more) = plainOf stmts ++ plainOf more := by
  induction stmts with
  | nil => simp [plainOf]
  | cons stmt stmts ih => simp [plainOf, ih]

lemma Stmt.plainOf_of_isSimple {stmts : List Stmt} (h : ∀ stmt ∈ stmts, stmt.isSimple = true) :
    plainOf stmts = stmts := by
  induction stmts with
  | nil => rfl
  | cons stmt stmts ih =>
    have hstmt : stmt.plain = [stmt] := by
      have := h stmt (by simp)
      cases stmt <;> simp_all [plain]
    simp [plainOf, hstmt, ih fun stmt hmem => h stmt (by simp [hmem])]

@[simp] lemma Fragment.stmts_append (a b : Fragment) : (a ++ b).stmts = a.stmts ++ b.stmts := rfl

/-- The sections of a block in order: the one behind its header, if its family has one there, and
those behind its markers. -/
def Block.parts (family : Family) (body : List Block) (branches : List Branch) :
    List (List Block) :=
  (if family.emptyHeader then [] else [body]) ++ branches.map Branch.children

namespace Decompile

open Block

/-- What a command is written as on its own. Of those that open blocks only a choice says
something itself; markers and closers say nothing. -/
def own (context : Context) (entry : Entry) : Except Fault (List Stmt) :=
  match entry.role? with
  | none => .ok [.comment (unknownText entry.row)]
  | some .leaf => do return (← leaf context entry).stmts
  | some (.opens .choice) => do showChoices (← operandsOf entry)
  | some _ => .ok []

/-- Statements that are those of some entries, in the order of the entries. -/
def InOrder (context : Context) (entries : List Entry) (stmts : List Stmt) : Prop :=
  ∃ pieces, entries.mapM (own context) = .ok pieces ∧ stmts = pieces.flatten

/-- Statements that some blocks are decompiled to. -/
def Translates (context : Context) (list : List Block) (stmts : List Stmt) : Prop :=
  ∃ placeholders, blocks context list = .ok ⟨stmts, placeholders⟩

/-- Statements with the shape of blocks. A loop becomes one loop and any other block one chain, with
a clause for each section; a choice without arms has no chain. -/
inductive Mirrors (context : Context) : List Block → List Stmt → Prop
  | nil : Mirrors context [] []
  | leaf {entry : Entry} {stmts more : List Stmt} {rest : List Block}
      (hown : own context entry = .ok stmts) (hrest : Mirrors context rest more) :
      Mirrors context (.leaf entry :: rest) (stmts ++ more)
  | loop {header closer : Entry} {body rest : List Block} {condition : Expr}
      {inner more : List Stmt} (hopens : header.role? = some (.opens .loop))
      (htranslates : Translates context body inner) (hbody : Mirrors context body inner)
      (hrest : Mirrors context rest more) :
      Mirrors context (.compound header body [] closer :: rest)
        (.whileLoop condition inner :: more)
  | chain {family : Family} {header closer : Entry} {body rest : List Block}
      {branches : List Branch} {shown more : List Stmt} {clauses : List Clause}
      (hopens : header.role? = some (.opens family)) (hfamily : family ≠ .loop)
      (hown : own context header = .ok shown) (hclauses : clauses ≠ [])
      (hlength : (parts family body branches).length = clauses.length)
      (htranslates : ∀ part clause, (part, clause) ∈ (parts family body branches).zip clauses →
        Translates context part clause.body)
      (hparts : ∀ part clause, (part, clause) ∈ (parts family body branches).zip clauses →
        Mirrors context part clause.body)
      (hrest : Mirrors context rest more) :
      Mirrors context (.compound header body branches closer :: rest)
        (shown ++ .ifChain clauses :: more)
  | armless {header closer : Entry} {rest : List Block} {shown more : List Stmt}
      (hopens : header.role? = some (.opens .choice)) (hown : own context header = .ok shown)
      (hrest : Mirrors context rest more) :
      Mirrors context (.compound header [] [] closer :: rest) (shown ++ more)

variable {context : Context}

lemma Mirrors.append {list more : List Block} {stmts others : List Stmt}
    (h : Mirrors context list stmts) (hmore : Mirrors context more others) :
    Mirrors context (list ++ more) (stmts ++ others) := by
  induction h with
  | nil => exact hmore
  | leaf hown _ ih =>
    rw [List.append_assoc]
    exact .leaf hown ih
  | loop hopens htranslates hbody _ _ ih => exact .loop hopens htranslates hbody ih
  | chain hopens hfamily hown hclauses hlength htranslates hparts _ _ ih =>
    rw [List.append_assoc]
    exact .chain hopens hfamily hown hclauses hlength htranslates hparts ih
  | armless hopens hown _ ih =>
    rw [List.append_assoc]
    exact .armless hopens hown ih

lemma inOrder_nil : InOrder context [] [] := ⟨[], rfl, rfl⟩

lemma InOrder.append {entries more : List Entry} {stmts others : List Stmt}
    (h : InOrder context entries stmts) (hmore : InOrder context more others) :
    InOrder context (entries ++ more) (stmts ++ others) := by
  obtain ⟨pieces, hpieces, rfl⟩ := h
  obtain ⟨rest, hrest, rfl⟩ := hmore
  exact ⟨pieces ++ rest, by simp [List.mapM_append, hpieces, hrest], by simp⟩

lemma inOrder_singleton {entry : Entry} {stmts : List Stmt} (h : own context entry = .ok stmts) :
    InOrder context [entry] stmts := ⟨[stmts], by simp [h], by simp⟩

/-- Openers other than those of choices, markers and closers say nothing. -/
lemma own_of_role {entry : Entry} {role : Role} (h : entry.role? = some role)
    (hleaf : role ≠ .leaf) (hchoice : role ≠ .opens .choice) : own context entry = .ok [] := by
  unfold own
  rw [h]
  cases role with
  | leaf => exact absurd rfl hleaf
  | opens family => cases family <;> simp_all
  | _ => rfl

lemma own_of_leaf {entry : Entry} {fragment : Fragment} (lead : entry.Lead context.variant)
    (plain : entry.IsPlain) (h : leaf context entry = .ok fragment) :
    own context entry = .ok fragment.stmts ∧
      ∀ stmt ∈ fragment.stmts, stmt.isSimple = true := by
  cases hkind : entry.kind with
  | none =>
    have hrole : entry.role? = none := by simp [Entry.role?, hkind]
    simp only [leaf, hkind, unknown] at h
    cases hpolicy : context.onUnknown with
    | fail => simp [hpolicy] at h
    | placeholder =>
      obtain rfl := Except.ok.inj (by simpa only [hpolicy] using h)
      simp [own, hrole]
  | some kind =>
    have hrole : kind.role = .leaf := by simpa [Entry.IsPlain, Entry.role?, hkind] using plain
    have hrole? : entry.role? = some .leaf := by simp [Entry.role?, hkind, hrole]
    exact ⟨by simp [own, hrole?, h], ((leaf_yields lead hkind hrole).of_ok h).2⟩

lemma own_of_choice {header : Entry} {operands : Operands} {shown : List Stmt}
    (lead : header.Lead context.variant) (hopens : header.role? = some (.opens .choice))
    (hoperands : operandsOf header = .ok operands) (hshown : showChoices operands = .ok shown) :
    own context header = .ok shown ∧ ∀ stmt ∈ shown, stmt.isSimple = true := by
  obtain ⟨kind, hmem, hkind, hrole⟩ := lead.kind_of_role hopens
  have decoded := (operandsOf_yields hmem hkind).of_ok hoperands
  obtain rfl := Catalog.eq_opener hmem hrole
  obtain ⟨keywords, hkeywords⟩ := showChoices_ok decoded
  obtain rfl := Except.ok.inj (hshown.symm.trans hkeywords)
  exact ⟨by simp [own, hopens, hoperands, hkeywords], by simp⟩

@[simp] lemma locate_eq_ok {α : Type} {entry : Entry} {x : Except Fault α} {a : α} :
    locate entry x = .ok a ↔ x = .ok a := by
  cases x with
  | ok b => simp [locate]
  | error fault => cases fault <;> simp [locate]

/-- Statements that mirror blocks, with the commands in their order. -/
structure Renders (context : Context) (list : List Block) (stmts : List Stmt) : Prop where
  mirrors : Mirrors context list stmts
  in_order : InOrder context (entriesOf list) (Stmt.plainOf stmts)

/-- A block whose statements, if there are any, mirror it. -/
def Rendered (context : Context) (b : Block) : Prop :=
  ∀ fragment, block context b = .ok fragment → Renders context [b] fragment.stmts

lemma renders_blocks {list : List Block} (h : ∀ b ∈ list, Rendered context b)
    {fragment : Fragment} (hfragment : blocks context list = .ok fragment) :
    Renders context list fragment.stmts := by
  induction list generalizing fragment with
  | nil =>
    obtain rfl := Except.ok.inj hfragment
    exact ⟨.nil, inOrder_nil⟩
  | cons b list ih =>
    rw [blocks] at hfragment
    obtain ⟨first, hfirst, hfragment⟩ := bind_eq_ok.1 hfragment
    obtain ⟨more, hmore, hfragment⟩ := bind_eq_ok.1 hfragment
    obtain rfl := Except.ok.inj hfragment
    have hhead := h b (by simp) first hfirst
    have htail := ih (fun b hb => h b (by simp [hb])) hmore
    refine ⟨hhead.mirrors.append htail.mirrors, ?_⟩
    simpa [entriesOf] using hhead.in_order.append htail.in_order

/-- A clause that holds the statements of a section. -/
def Holds (context : Context) (part : List Block) (clause : Clause) : Prop :=
  Translates context part clause.body ∧ Mirrors context part clause.body

lemma Mirrors.of_holds {family : Family} {header closer : Entry} {body : List Block}
    {branches : List Branch} {shown : List Stmt} {clauses : List Clause}
    (hopens : header.role? = some (.opens family)) (hfamily : family ≠ .loop)
    (hown : own context header = .ok shown) (hclauses : clauses ≠ [])
    (holds : List.Forall₂ (Holds context) (parts family body branches) clauses) :
    Mirrors context [.compound header body branches closer] (shown ++ [.ifChain clauses]) := by
  obtain ⟨hlength, hzip⟩ := List.forall₂_iff_zip.1 holds
  exact .chain hopens hfamily hown hclauses hlength (fun _ _ h => (hzip h).1)
    (fun _ _ h => (hzip h).2) .nil

lemma sections_holds {header : Entry} {heading : Entry → Except Fault Heading}
    {branches : List Branch} {clauses : List Clause} {placeholders : List Placeholder}
    (hmarkers : ∀ marker ∈ branches.map Branch.marker, own context marker = .ok [])
    (h : ∀ b ∈ branches.flatMap Branch.children, Rendered context b)
    (hsections : sections context header heading branches = .ok (clauses, placeholders)) :
    List.Forall₂ (Holds context) (branches.map Branch.children) clauses ∧
      InOrder context (branchEntriesOf branches) (Clause.plainOf clauses) := by
  induction branches generalizing clauses placeholders with
  | nil =>
    obtain ⟨rfl, -⟩ : [] = clauses ∧ [] = placeholders := by simpa [sections] using hsections
    exact ⟨.nil, inOrder_nil⟩
  | cons branch branches ih =>
    obtain ⟨marker, children⟩ := branch
    rw [sections] at hsections
    obtain ⟨top, -, hsections⟩ := bind_eq_ok.1 hsections
    obtain ⟨inner, hinner, hsections⟩ := bind_eq_ok.1 hsections
    obtain ⟨⟨rest, more⟩, hrest, hsections⟩ := bind_eq_ok.1 hsections
    obtain ⟨rfl, -⟩ := Prod.mk.inj (Except.ok.inj hsections)
    have hchildren := renders_blocks (fun b hb => h b (by simp [Branch.children, hb])) hinner
    obtain ⟨holds, order⟩ := ih (fun marker hmarker => hmarkers marker (by simp [hmarker]))
      (fun b hb => h b (by simp [hb])) hrest
    refine ⟨.cons ⟨⟨_, hinner⟩, hchildren.mirrors⟩ holds, ?_⟩
    simpa [branchEntriesOf, Clause.plainOf] using
      (inOrder_singleton (hmarkers marker (by simp [Branch.marker]))).append
        (hchildren.in_order.append order)

lemma inOrder_compound {header closer : Entry} {body : List Block} {branches : List Branch}
    {shown inner rest : List Stmt} (hown : own context header = .ok shown)
    (hbody : InOrder context (entriesOf body) inner)
    (hbranches : InOrder context (branchEntriesOf branches) rest)
    (hcloser : own context closer = .ok []) :
    InOrder context (entriesOf [.compound header body branches closer])
      (shown ++ (inner ++ rest)) := by
  simpa [entriesOf, entries] using
    (inOrder_singleton hown).append ((hbody.append hbranches).append (inOrder_singleton hcloser))

/-- A chain whose first clause holds the section behind the header. -/
lemma renders_chain {family : Family} {header closer : Entry} {body : List Block}
    {branches : List Branch} {inner : Fragment} {condition : Option Expr} {note : Option Text}
    {clauses : List Clause} (hopens : header.role? = some (.opens family))
    (hfamily : family ≠ .loop) (hheader : family.emptyHeader = false)
    (hown : own context header = .ok []) (hcloser : own context closer = .ok [])
    (hinner : blocks context body = .ok inner) (hbody : Renders context body inner.stmts)
    (holds : List.Forall₂ (Holds context) (branches.map Branch.children) clauses)
    (order : InOrder context (branchEntriesOf branches) (Clause.plainOf clauses)) :
    Renders context [.compound header body branches closer]
      [.ifChain (.mk condition inner.stmts note :: clauses)] := by
  refine ⟨.of_holds hopens hfamily hown (by simp) ?_, ?_⟩
  · have hparts : parts family body branches = body :: branches.map Branch.children := by
      simp [parts, hheader]
    rw [hparts]
    exact .cons ⟨⟨_, hinner⟩, hbody.mirrors⟩ holds
  · simpa [Stmt.plainOf, Stmt.plain, Clause.plainOf] using
      inOrder_compound hown hbody.in_order order hcloser

/-- A choice and the chain of its arms, if it has any. -/
lemma renders_choice {header closer : Entry} {branches : List Branch} {shown : List Stmt}
    {clauses : List Clause} (hopens : header.role? = some (.opens .choice))
    (hown : own context header = .ok shown) (simple : ∀ stmt ∈ shown, stmt.isSimple = true)
    (hcloser : own context closer = .ok [])
    (holds : List.Forall₂ (Holds context) (branches.map Branch.children) clauses)
    (order : InOrder context (branchEntriesOf branches) (Clause.plainOf clauses)) :
    Renders context [.compound header [] branches closer]
      (shown ++ (if clauses.isEmpty then [] else [.ifChain clauses])) := by
  have hbody : InOrder context (entriesOf []) [] := inOrder_nil
  have horder := inOrder_compound hown hbody order hcloser
  cases clauses with
  | nil =>
    obtain rfl : branches = [] := by simpa using holds
    refine ⟨.armless hopens hown .nil, ?_⟩
    simpa [Stmt.plainOf_of_isSimple simple, Clause.plainOf] using horder
  | cons clause clauses =>
    refine ⟨.of_holds hopens (by simp) hown (by simp) holds, ?_⟩
    simpa [Stmt.plainOf_of_isSimple simple, Stmt.plainOf, Stmt.plain] using horder

/-- The markers of a block have codes of its family. -/
lemma code_of_marked {variant : Variant} {family : Family} {indent : Int} {markers : List Entry}
    (marked : Marked variant family indent markers) {marker : Entry} (h : marker ∈ markers) :
    marker.row.code ∈ family.markers.map Prod.fst := by
  obtain ⟨kind, hmem, hkind, hrole⟩ := (marked.lead marker h).kind_of_startsSection
    (marked.starts marker h)
  rw [← (marked.lead marker h).code_eq hkind]
  exact Catalog.code_mem_markers hmem hrole

/-- A conditional block has one marker at most, and that one splits it. -/
lemma branches_of_conditional {variant : Variant} {header closer : Entry} {body : List Block}
    {branches : List Branch} (framed : Framed variant .conditional header body branches closer) :
    branches = [] ∨
      ∃ marker children, branches = [.mk marker children] ∧ marker.isSplit = true := by
  have hlimit := framed.marked.within_limits 411 1 rfl
  have hcount : (branches.map Branch.marker).countP (fun marker => decide (marker.row.code = 411)) =
      (branches.map Branch.marker).length := by
    refine List.countP_eq_length.2 fun marker hmarker => ?_
    simpa [Family.markers] using code_of_marked framed.marked hmarker
  rw [hcount, List.length_map] at hlimit
  rcases branches with _ | ⟨⟨marker, children⟩, _ | ⟨second, rest⟩⟩
  · exact .inl rfl
  · have hmarker : marker ∈ [Branch.mk marker children].map Branch.marker := by
      simp [Branch.marker]
    obtain ⟨kind, hmem, hkind, hrole⟩ := (framed.marked.lead marker hmarker).kind_of_startsSection
      (framed.marked.starts marker hmarker)
    have hsplit := hrole.resolve_right (Catalog.role_ne_arm_conditional hmem)
    exact .inr ⟨marker, children, rfl, by simp [Entry.isSplit, hkind, hsplit]⟩
  · simp at hlimit

lemma branches_of_loop {variant : Variant} {header closer : Entry} {body : List Block}
    {branches : List Branch} (framed : Framed variant .loop header body branches closer) :
    branches = [] := by
  have hmarkers : branches.map Branch.marker = [] := by
    refine List.eq_nil_iff_forall_not_mem.2 fun marker hmarker => ?_
    simpa [Family.markers] using code_of_marked framed.marked hmarker
  exact List.map_eq_nil_iff.1 hmarkers

lemma alternate_holds {variant : Variant} {header closer : Entry} {body : List Block}
    {branches : List Branch} (framed : Framed variant .conditional header body branches closer)
    (hmarkers : ∀ marker ∈ branches.map Branch.marker, own context marker = .ok [])
    (h : ∀ b ∈ branches.flatMap Branch.children, Rendered context b) {other : Option Fragment}
    (hother : alternate context branches = .ok other) :
    let clauses := (other.map fun fragment => Clause.mk none fragment.stmts none).toList
    List.Forall₂ (Holds context) (branches.map Branch.children) clauses ∧
      InOrder context (branchEntriesOf branches) (Clause.plainOf clauses) := by
  rcases branches_of_conditional framed with rfl | ⟨marker, children, rfl, hsplit⟩
  · obtain rfl := Except.ok.inj hother
    exact ⟨.nil, inOrder_nil⟩
  · rw [alternate, if_pos hsplit] at hother
    obtain ⟨fragment, hfragment, hother⟩ := bind_eq_ok.1 hother
    obtain rfl := Except.ok.inj hother
    have hchildren := renders_blocks
      (fun b hb => h b (by simpa [Branch.children] using hb)) hfragment
    refine ⟨.cons ⟨⟨_, hfragment⟩, hchildren.mirrors⟩ .nil, ?_⟩
    simpa [branchEntriesOf, Clause.plainOf] using
      (inOrder_singleton (hmarkers marker (by simp [Branch.marker]))).append hchildren.in_order

theorem rendered_of_wellFormed {inLoop : Bool} {b : Block}
    (formed : WellFormed context.variant inLoop b) : Rendered context b := by
  induction formed with
  | @leaf _ entry lead plain _ =>
    intro fragment hfragment
    rw [block, locate_eq_ok] at hfragment
    obtain ⟨hown, simple⟩ := own_of_leaf lead plain hfragment
    refine ⟨?_, ?_⟩
    · simpa using Mirrors.leaf hown .nil
    · simpa [entriesOf, entries, Stmt.plainOf_of_isSimple simple] using inOrder_singleton hown
  | @compound _ family header closer body branches framed formed ih =>
    intro fragment hfragment
    have hbody : ∀ b ∈ body, Rendered context b := fun b hb => ih b (by simp [enclosed, hb])
    have hchildren : ∀ b ∈ branches.flatMap Branch.children, Rendered context b :=
      fun b hb => ih b (List.mem_append_right body hb)
    have hmarkers : ∀ marker ∈ branches.map Branch.marker, own context marker = .ok [] := by
      intro marker hmarker
      rcases framed.marked.starts marker hmarker with hrole | hrole <;>
        exact own_of_role hrole (by simp) (by simp)
    have hcloser : own context closer = .ok [] :=
      own_of_role framed.closer_closes (by simp) (by simp)
    rw [block] at hfragment
    obtain ⟨operands, hoperands, hfragment⟩ := bind_eq_ok.1 hfragment
    rw [familyOf_eq framed.header_lead framed.header_opens] at hfragment
    simp only [locate, ok_bind] at hfragment
    -- The handlers of blocks look at parts of them only; each part they skip is empty.
    cases family with
    | conditional =>
      have hown : own context header = .ok [] :=
        own_of_role framed.header_opens (by simp) (by simp)
      obtain ⟨condition, -, hfragment⟩ := bind_eq_ok.1 hfragment
      obtain ⟨inner, hinner, hfragment⟩ := bind_eq_ok.1 hfragment
      obtain ⟨other, hother, hfragment⟩ := bind_eq_ok.1 hfragment
      obtain ⟨holds, order⟩ := alternate_holds framed hmarkers hchildren hother
      have hrenders : Renders context [.compound header body branches closer]
          [.ifChain (.mk (some condition) inner.stmts none :: _)] :=
        renders_chain framed.header_opens (by simp) rfl hown hcloser hinner
          (renders_blocks hbody hinner) holds order
      cases other with
      | none =>
        obtain rfl := Except.ok.inj hfragment
        exact hrenders
      | some other =>
        obtain rfl := Except.ok.inj hfragment
        exact hrenders
    | loop =>
      have hown : own context header = .ok [] :=
        own_of_role framed.header_opens (by simp) (by simp)
      obtain ⟨inner, hinner, hfragment⟩ := bind_eq_ok.1 hfragment
      obtain rfl := Except.ok.inj hfragment
      obtain rfl := branches_of_loop framed
      have hrenders := renders_blocks hbody hinner
      refine ⟨.loop framed.header_opens ⟨_, hinner⟩ hrenders.mirrors .nil, ?_⟩
      have hnone : InOrder context (branchEntriesOf []) [] := inOrder_nil
      simpa [Stmt.plainOf, Stmt.plain] using
        inOrder_compound hown hrenders.in_order hnone hcloser
    | choice =>
      obtain rfl := framed.header_empty rfl
      obtain ⟨shown, hshown, hfragment⟩ := bind_eq_ok.1 hfragment
      obtain ⟨⟨clauses, placeholders⟩, hsections, hfragment⟩ := bind_eq_ok.1 hfragment
      obtain rfl := Except.ok.inj hfragment
      obtain ⟨hown, simple⟩ := own_of_choice framed.header_lead framed.header_opens
        (locate_eq_ok.1 hoperands) (locate_eq_ok.1 hshown)
      obtain ⟨holds, order⟩ := sections_holds hmarkers hchildren hsections
      exact renders_choice framed.header_opens hown simple hcloser holds order
    | battleResult =>
      have hown : own context header = .ok [] :=
        own_of_role framed.header_opens (by simp) (by simp)
      obtain ⟨inner, hinner, hfragment⟩ := bind_eq_ok.1 hfragment
      obtain ⟨⟨clauses, placeholders⟩, hsections, hfragment⟩ := bind_eq_ok.1 hfragment
      obtain rfl := Except.ok.inj hfragment
      obtain ⟨holds, order⟩ := sections_holds hmarkers hchildren hsections
      exact renders_chain framed.header_opens (by simp) rfl hown hcloser hinner
        (renders_blocks hbody hinner) holds order

/-- Decompiling drops, repeats and reorders nothing: apart from chains and loops, the statements of
an event are those of its commands in the order of the rows, and the chains and loops mirror its
blocks. -/
theorem blocks_faithful {rows : List Row} {forest : List Block} {fragment : Fragment}
    (hforest : reconstruct context.variant rows = .ok forest)
    (hfragment : blocks context forest = .ok fragment) :
    Mirrors context forest fragment.stmts ∧
      ∃ entries pieces, Entry.fold context.variant rows = .ok entries ∧
        entries.flatMap Entry.rows = rows ∧ entries.mapM (own context) = .ok pieces ∧
        Stmt.plainOf fragment.stmts = pieces.flatten := by
  obtain ⟨formed, hfold⟩ := formed_of_reconstruct hforest
  have hrenders := renders_blocks
    (fun b hb => rendered_of_wellFormed (formed b hb)) hfragment
  obtain ⟨pieces, hpieces, hplain⟩ := hrenders.in_order
  exact ⟨hrenders.mirrors, entriesOf forest, pieces, hfold, (Entry.fold_eq_ok_iff.1 hfold).2.2,
    hpieces, hplain⟩

theorem blocks_faithful_guardedLoop :
    ∃ fragment, blocks ⟨.mv, {}, .placeholder⟩ guardedLoop = .ok fragment ∧
      Mirrors ⟨.mv, {}, .placeholder⟩ guardedLoop fragment.stmts ∧
      ∃ entries pieces, Entry.fold .mv guardedLoopRows = .ok entries ∧
        entries.flatMap Entry.rows = guardedLoopRows ∧
        entries.mapM (own ⟨.mv, {}, .placeholder⟩) = .ok pieces ∧
        Stmt.plainOf fragment.stmts = pieces.flatten :=
  ⟨_, rfl, @blocks_faithful ⟨.mv, {}, .placeholder⟩ _ _ _ rfl rfl⟩

end Decompile

end EventScript
