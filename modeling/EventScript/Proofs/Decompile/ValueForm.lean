import EventScript.Decompile.Value
import EventScript.Proofs.Command.Sequence
import EventScript.Proofs.Decompile.Essence
import EventScript.Proofs.Decompile.Form
import EventScript.Proofs.Decompile.Value
import EventScript.Proofs.Script.Assignment

/-! The forms of values: everything that a variable may be set to has one of them, and they are
readable. Only a random number is laid out as the style says. -/
namespace EventScript

open Template

namespace Form

def constant : Form where
  template := [.gap .literal]
  operand
    | [value] => .tagged "constant" 0 [("value", .value value)]
    | _ => .value .null

def otherVariable : Form where
  template := Category.variables.template
  operand
    | [id] => .tagged "variable" 1 [("variable_id", .value id)]
    | _ => .value .null

/-- The bounds of a random number, with what closes the call. -/
def bounds (style : Style) : Template :=
  if style.multilineCalls then
    plain (CodePoint.newline :: style.indent) ++ .gap .literal :: (words "," ++
      (plain (CodePoint.newline :: style.indent) ++ .gap .literal :: (words "," ++
        (plain [CodePoint.newline] ++ words ")"))))
  else .gap .literal :: (words ", " ++ .gap .literal :: words ")")

def random (style : Style) : Form where
  template := words "random.randint(" ++ bounds style
  operand
    | [least, most] => .tagged "random" 2 [("min", .value least), ("max", .value most)]
    | _ => .value .null

def valueScript : Form where
  template := words "execute_script(" ++ .gap .literal :: words ")"
  operand
    | [script] => .tagged "script" 4 [("script", .value script)]
    | _ => .value .null

/-- A number from the state of the game. -/
def gameData (kind : Text) (n : Int) (data : Operands) : Operand :=
  .tagged "game_data" 3 [("data", .tagged kind n data)]

/-- How many of an item, a weapon or an armor the party has. -/
def count (kind : String) (n : Int) (path : String) (category : Category) (slot : String) :
    Form where
  template := words path ++ (words "(" ++ (words kind ++ (words "=" ++ (category.template ++
    words ")"))))
  operand
    | [id] => gameData kind n [(Text.ofString slot, .value id)]
    | _ => .value .null

def actorStat (word : String) : Form where
  template := Category.actors.template ++ (words "." ++ words word)
  operand
    | [id] => gameData "actor" 3 [("actor_id", .value id), ("check", .member word)]
    | _ => .value .null

/-- The word for a battle parameter. -/
def parameterWord (index : Json) : Text :=
  match index with
  | .int index => Text.ofString (Catalog.parameterNames.getD index.toNat "")
  | _ => []

def actorParameter : Form where
  template := Category.actors.template ++ (words ".param(" ++ .gap .literal :: words ")")
  operand
    | [id, index] => gameData "actor" 3
        [("actor_id", .value id), ("check", .member (parameterWord index))]
    | _ => .value .null

def enemyStat (word : String) : Form where
  template := words "game_troop.members[" ++ .gap .literal :: (words "]." ++ words word)
  operand
    | [index] => gameData "enemy" 4 [("enemy_index", .value index), ("check", .member word)]
    | _ => .value .null

def enemyParameter : Form where
  template := words "game_troop.members[" ++ .gap .literal :: (words "].param(" ++
    .gap .literal :: words ")")
  operand
    | [enemy, index] => gameData "enemy" 4
        [("enemy_index", .value enemy), ("check", .member (parameterWord index))]
    | _ => .value .null

def characterStat (who : Who) (word : String) : Form where
  template := who.template ++ (words "." ++ words word)
  operand values := match who.take values with
    | (id, []) => gameData "character" 5 [("character_id", .value id), ("check", .member word)]
    | _ => .value .null

def partyMember : Form where
  template := words "game_party.members[" ++ .gap .literal :: words "].actor_id"
  operand
    | [index] => gameData "party" 6 [("member_index", .value index)]
    | _ => .value .null

def otherStat (word text : String) : Form where
  template := words text
  operand
    | [] => gameData "other" 7 [("check", .member word)]
    | _ => .value .null

def singles : List Form := [constant, otherVariable, valueScript, partyMember]

def counts : List Form :=
  [count "item" 0 "game_party.get_num_items" .items "item_id",
   count "weapon" 1 "game_party.get_num_weapons" .weapons "weapon_id",
   count "armor" 2 "game_party.get_num_armors" .armors "armor_id"]

def parameters : List Form := [actorParameter, enemyParameter]

def actorStats : List Form := ["level", "exp", "hp", "mp"].map actorStat

def enemyStats : List Form := ["hp", "mp"].map enemyStat

def characterStats : List Form :=
  Who.all.flatMap fun who =>
    ["map_x", "map_y", "direction", "screen_x", "screen_y"].map (characterStat who)

def otherStats : List Form :=
  [otherStat "map_id" "game_map.map_id()", otherStat "party_members" "game_party.size()",
   otherStat "gold" "game_party.gold", otherStat "steps" "game_party.steps",
   otherStat "play_time" "game_system.playtime()", otherStat "timer" "game_timer.seconds()",
   otherStat "save_count" "game_system.save_count",
   otherStat "battle_count" "game_system.battle_count",
   otherStat "win_count" "game_system.win_count",
   otherStat "escape_count" "game_system.escape_count"]

def shortFamilies : List (List Form) :=
  [singles, parameters, counts, actorStats, enemyStats, characterStats, otherStats]

/-- The forms of all values. -/
def values (style : Style) : List Form := random style :: shortFamilies.flatten

lemma readable_values (style : Style) : Readable (values style) template := by
  -- what opens the call with the bounds is apart from all other forms, whatever the style
  have hforms : (words "random.randint(" :: shortFamilies.flatten.map template).Pairwise
      (fun s t => s.apart t = true) ∧
      ∀ s ∈ shortFamilies.flatten.map template, s.isLegible = true := by
    simp only [shortFamilies, singles, parameters, counts, actorStats, enemyStats, characterStats,
      otherStats, Who.all, List.flatten_cons, List.flatten_nil, List.flatMap_cons,
      List.flatMap_nil, List.map_cons, List.map_nil, List.append_nil, List.cons_append,
      List.nil_append, constant, otherVariable, valueScript, actorParameter, enemyParameter,
      partyMember, count, actorStat, enemyStat, characterStat, otherStat, Who.template,
      Category.template, Category.stem]
    repeat rw [words_ofList]
    decide +kernel
  obtain ⟨happart, hlegible⟩ := hforms
  rw [List.pairwise_cons] at happart
  have hcomma (rest : Template) : follows .literal (words "," ++ rest) = true := rfl
  have hbounds : (bounds style).isLegible = true := by
    unfold bounds
    split_ifs
    · simp only [isLegible_plain_append, isLegible_words_append, isLegible, hcomma, Bool.true_and]
      rfl
    · rfl
  constructor
  · rw [values, List.map_cons, List.pairwise_cons]
    exact ⟨fun t ht => apart_append (happart.1 t ht) (bounds style), happart.2⟩
  · rw [values, List.map_cons, List.forall_mem_cons]
    exact ⟨by simp [random, hbounds], hlegible⟩

section Texts

variable {style : Style}

/-- A value in one of the forms that are not laid out. -/
lemma shows_value (form : Form) (gaps : List Json) {family : List Form}
    (hfamily : family ∈ shortFamilies) (hform : form ∈ family)
    (hgaps : form.template.Fits gaps) {e : Expr} (hshort : e.isShort = true)
    (htext : e.render = form.template.fill gaps) :
    Shows (values style) (form.operand gaps) (e.layout style) := by
  refine ⟨form, List.mem_cons_of_mem _ (List.mem_flatten.2 ⟨family, hfamily, hform⟩), gaps, hgaps,
    rfl, ?_⟩
  rw [Expr.layout_of_isShort hshort, htext]

lemma shows_random (least most : Int) : Shows (values style)
    (.tagged "random" 2 [("min", .value (.int least)), ("max", .value (.int most))])
    ((Expr.callPath "random.randint" [.literal (.int least), .literal (.int most)] []).layout
      style) := by
  refine ⟨random style, List.mem_cons_self, [.int least, .int most], ?_, rfl, ?_⟩
  · cases hlong : style.multilineCalls <;> simp [random, bounds, hlong]
  · cases hlong : style.multilineCalls <;>
      simp [random, bounds, hlong, Expr.callPath, Expr.layout, Expr.arguments, Expr.renderArgs,
        Expr.renderKeywords, Expr.render, Text.join]

end Texts

end Form

namespace Decompile

open Operands

namespace Context

lemma render_parameter (target : Expr) (index : Nat) : (parameter target index).render =
    target.render ++ ".param(" ++ (Json.int index).literal ++ ")" := by
  simp [parameter, number, Expr.render, Expr.renderArgs, Expr.renderKeywords, Text.join]

variable {context : Context} {style : Style} {n : Int} {tag : Text} {layout : Layout}
  {operand data : Operands}

/-- The words for battle parameters are told by their numbers. -/
lemma parameterWord_of_index {word : String} {index : Nat} (h : parameterIndex? word = some index) :
    Form.parameterWord (.int index) = Text.ofString word := by
  obtain ⟨hlt, hword, -⟩ := List.idxOf?_eq_some_iff.1 h
  simp [Form.parameterWord, List.getD, hlt, hword]

lemma actorData_shows (hnames : context.names = {}) (id : Int) {word : String}
    (hword : word ∈ ["level", "exp", "hp", "mp"] ++ Catalog.parameterNames) :
    let data : Operands := [("actor_id", .value (.int id)), ("check", .member word)]
    ∃ e, context.gameData "actor" data = .ok e ∧
      Form.Shows (Form.values style) (Form.gameData "actor" 3 data) (e.layout style) := by
  intro data
  have hid : data.int "actor_id" = .ok id := rfl
  have hcheck : data.member "check" = .ok word := congrArg Except.ok (Text.toString_ofString word)
  by_cases hstat : word ∈ ["level", "exp", "hp", "mp"]
  · refine ⟨.attribute (context.named .actors id) (Text.ofString word), ?_,
      Form.shows_value (Form.actorStat word) [.int id]
        (by simp [Form.shortFamilies] : Form.actorStats ∈ _) (List.mem_map_of_mem hstat)
        (by simp [Form.actorStat]) rfl ?_⟩
    · simp only [gameData, hid, hcheck, ok_bind, if_pos hstat, pure_eq_ok]
    · simp [Form.actorStat, Expr.render, render_named hnames]
  · obtain ⟨index, hindex⟩ :=
      parameterIndex?_of_mem ((List.mem_append.1 hword).resolve_left hstat)
    refine ⟨parameter (context.named .actors id) index, ?_, ?_⟩
    · simp only [gameData, hid, hcheck, ok_bind, if_neg hstat, hindex, pure_eq_ok]
    · have hoperand : Form.actorParameter.operand [.int id, .int index] =
          Form.gameData "actor" 3 data := by
        simp only [Form.actorParameter, parameterWord_of_index hindex, data]
      rw [← hoperand]
      refine Form.shows_value Form.actorParameter [.int id, .int index]
        (by simp [Form.shortFamilies] : Form.parameters ∈ _) (by simp [Form.parameters])
        (by simp [Form.actorParameter]) rfl ?_
      simp [Form.actorParameter, render_parameter, render_named hnames]

lemma enemyData_shows (enemyIndex : Int) {word : String}
    (hword : word ∈ ["hp", "mp"] ++ Catalog.parameterNames) :
    let data : Operands := [("enemy_index", .value (.int enemyIndex)), ("check", .member word)]
    ∃ e, context.gameData "enemy" data = .ok e ∧
      Form.Shows (Form.values style) (Form.gameData "enemy" 4 data) (e.layout style) := by
  intro data
  have hid : data.int "enemy_index" = .ok enemyIndex := rfl
  have hcheck : data.member "check" = .ok word := congrArg Except.ok (Text.toString_ofString word)
  cases hindex : parameterIndex? word with
  | none =>
    have hstat : word ∈ ["hp", "mp"] :=
      (List.mem_append.1 hword).resolve_right (List.idxOf?_eq_none_iff.1 hindex)
    refine ⟨.attribute (enemy enemyIndex) (Text.ofString word), ?_,
      Form.shows_value (Form.enemyStat word) [.int enemyIndex]
        (by simp [Form.shortFamilies] : Form.enemyStats ∈ _) (List.mem_map_of_mem hstat)
        (by simp [Form.enemyStat]) rfl ?_⟩
    · simp only [gameData, hid, hcheck, ok_bind, hindex, pure_eq_ok]
    · simp [Form.enemyStat, enemy, number, Expr.render]
  | some index =>
    refine ⟨parameter (enemy enemyIndex) index, ?_, ?_⟩
    · simp only [gameData, hid, hcheck, ok_bind, hindex, pure_eq_ok]
    · have hoperand : Form.enemyParameter.operand [.int enemyIndex, .int index] =
          Form.gameData "enemy" 4 data := by
        simp only [Form.enemyParameter, parameterWord_of_index hindex, data]
      rw [← hoperand]
      refine Form.shows_value Form.enemyParameter [.int enemyIndex, .int index]
        (by simp [Form.shortFamilies] : Form.parameters ∈ _) (by simp [Form.parameters])
        (by simp [Form.enemyParameter]) rfl ?_
      simp [Form.enemyParameter, render_parameter, enemy, number, Expr.render]

lemma characterData_shows (id : Int) {word : String}
    (hword : word ∈ ["map_x", "map_y", "direction", "screen_x", "screen_y"]) :
    Form.Shows (Form.values style)
      (Form.gameData "character" 5 [("character_id", .value (.int (if id < 0 then -1 else id))),
        ("check", .member word)])
      ((Expr.attribute (character id) (Text.ofString word)).layout style) := by
  obtain ⟨who, hwho, gaps, htake, hwritten⟩ := Who.exists_who id
  obtain ⟨hfits, hfill⟩ := hwritten (words "." ++ words word) []
  have hoperand : (Form.characterStat who word).operand (gaps ++ []) =
      Form.gameData "character" 5 [("character_id", .value (.int (if id < 0 then -1 else id))),
        ("check", .member word)] := by
    simp only [Form.characterStat, htake]
  rw [← hoperand]
  refine Form.shows_value (Form.characterStat who word) (gaps ++ [])
    (by simp [Form.shortFamilies] : Form.characterStats ∈ _)
    (List.mem_flatMap.2 ⟨who, hwho, List.mem_map_of_mem hword⟩) (hfits (by simp)) rfl ?_
  rw [Form.characterStat, hfill]
  simp [Expr.render]

lemma otherData_shows {word : String}
    (hword : word ∈ ["map_id", "party_members", "gold", "steps", "play_time", "timer",
      "save_count", "battle_count", "win_count", "escape_count"]) :
    ∃ e, otherData word = .ok e ∧ Form.Shows (Form.values style)
      (Form.gameData "other" 7 [("check", .member word)]) (e.layout style) := by
  have hshows (word text : String) (hform : Form.otherStat word text ∈ Form.otherStats) {e : Expr}
      (hshort : e.isShort = true) (htext : e.render = Text.ofString text) :
      Form.Shows (Form.values style) (Form.gameData "other" 7 [("check", .member word)])
        (e.layout style) :=
    Form.shows_value (Form.otherStat word text) []
      (by simp [Form.shortFamilies] : Form.otherStats ∈ _) hform (by simp [Form.otherStat]) hshort
      (by simp [Form.otherStat, htext])
  simp only [List.mem_cons, List.not_mem_nil, or_false] at hword
  rcases hword with rfl | rfl | rfl | rfl | rfl | rfl | rfl | rfl | rfl | rfl
  · exact ⟨_, rfl, hshows _ "game_map.map_id()" (by simp [Form.otherStats]) rfl
      (by simp [Text.join])⟩
  · exact ⟨_, rfl, hshows _ "game_party.size()" (by simp [Form.otherStats]) rfl
      (by simp [Text.join])⟩
  · exact ⟨_, rfl, hshows _ "game_party.gold" (by simp [Form.otherStats]) rfl (by simp)⟩
  · exact ⟨_, rfl, hshows _ "game_party.steps" (by simp [Form.otherStats]) rfl (by simp)⟩
  · exact ⟨_, rfl, hshows _ "game_system.playtime()" (by simp [Form.otherStats]) rfl
      (by simp [Text.join])⟩
  · exact ⟨_, rfl, hshows _ "game_timer.seconds()" (by simp [Form.otherStats]) rfl
      (by simp [Text.join])⟩
  · exact ⟨_, rfl, hshows _ "game_system.save_count" (by simp [Form.otherStats]) rfl (by simp)⟩
  · exact ⟨_, rfl, hshows _ "game_system.battle_count" (by simp [Form.otherStats]) rfl (by simp)⟩
  · exact ⟨_, rfl, hshows _ "game_system.win_count" (by simp [Form.otherStats]) rfl (by simp)⟩
  · exact ⟨_, rfl, hshows _ "game_system.escape_count" (by simp [Form.otherStats]) rfl (by simp)⟩

/-- Items, weapons and armors are counted in the same way. -/
lemma countData_shows (hnames : context.names = {}) (id : Int) {kind : String} {n : Int}
    {path : String} {category : Category} {slot : String}
    (hform : Form.count kind n path category slot ∈ Form.counts) :
    Form.Shows (Form.values style) (Form.gameData kind n [(Text.ofString slot, .value (.int id))])
      ((invoke path [(kind, context.named category id)]).layout style) := by
  refine Form.shows_value _ [.int id] (by simp [Form.shortFamilies] : Form.counts ∈ _) hform
    (by simp [Form.count]) rfl ?_
  simp [Form.count, Text.join, render_named hnames, Text.ofString_append_append,
    String.append_assoc]

lemma gameData_shows (hnames : context.names = {})
    (hcase : Case.mk n tag layout ∈ Catalog.gameData) (decoded : Decoded layout data) :
    ∃ e, context.gameData tag.toString data = .ok e ∧
      Form.Shows (Form.values style) (Form.gameData tag n (essence data)) (e.layout style) := by
  simp only [Catalog.gameData, Catalog.cases, List.zipIdx_cons, List.zipIdx_nil, List.map_cons,
    List.map_nil, List.mem_cons, List.not_mem_nil, or_false, Case.mk.injEq, Nat.reduceAdd,
    Nat.cast_ofNat, Nat.cast_zero, Nat.cast_one, zero_add] at hcase
  rcases hcase with ⟨rfl, rfl, rfl⟩ | ⟨rfl, rfl, rfl⟩ | ⟨rfl, rfl, rfl⟩ | ⟨rfl, rfl, rfl⟩ |
    ⟨rfl, rfl, rfl⟩ | ⟨rfl, rfl, rfl⟩ | ⟨rfl, rfl, rfl⟩ | ⟨rfl, rfl, rfl⟩
  all_goals obtain ⟨_, second, hfirst, hsecond, rfl⟩ := decoded.double
  · obtain ⟨id, rfl⟩ := Slot.gives_int hfirst
    exact ⟨_, rfl, countData_shows hnames id (by simp [Form.counts] :
      Form.count "item" 0 "game_party.get_num_items" .items "item_id" ∈ _)⟩
  · obtain ⟨id, rfl⟩ := Slot.gives_int hfirst
    exact ⟨_, rfl, countData_shows hnames id (by simp [Form.counts] :
      Form.count "weapon" 1 "game_party.get_num_weapons" .weapons "weapon_id" ∈ _)⟩
  · obtain ⟨id, rfl⟩ := Slot.gives_int hfirst
    exact ⟨_, rfl, countData_shows hnames id (by simp [Form.counts] :
      Form.count "armor" 2 "game_party.get_num_armors" .armors "armor_id" ∈ _)⟩
  · obtain ⟨id, rfl⟩ := Slot.gives_int hfirst
    obtain ⟨word, hmem, rfl⟩ := Slot.gives_member hsecond
    exact actorData_shows hnames id hmem
  · obtain ⟨index, rfl⟩ := Slot.gives_int hfirst
    obtain ⟨word, hmem, rfl⟩ := Slot.gives_member hsecond
    exact enemyData_shows index hmem
  · obtain ⟨id, rfl⟩ := Slot.gives_int hfirst
    obtain ⟨word, hmem, rfl⟩ := Slot.gives_member hsecond
    refine ⟨_, rfl, ?_⟩
    simpa [insertPair, essence, Operand.essence, Text.ofString_inj] using
      characterData_shows id hmem
  · obtain ⟨index, rfl⟩ := Slot.gives_int hfirst
    refine ⟨_, rfl, Form.shows_value Form.partyMember [.int index]
      (by simp [Form.shortFamilies] : Form.singles ∈ _) (by simp [Form.singles])
      (by simp [Form.partyMember]) rfl ?_⟩
    simp [Form.partyMember, number, Expr.render]
  · obtain ⟨word, hmem, rfl⟩ := Slot.gives_member hfirst
    obtain ⟨e, he, hshows⟩ := otherData_shows hmem
    rw [← Text.toString_ofString word] at he
    exact ⟨e, he, hshows⟩

lemma variableOperand_shows (hnames : context.names = {})
    (hcase : Case.mk n tag layout ∈ Catalog.variableOperands) (decoded : Decoded layout operand) :
    ∃ e, context.variableOperand tag.toString operand = .ok e ∧
      Form.Shows (Form.values style) (.tagged tag n (essence operand)) (e.layout style) := by
  have hfamily : Form.singles ∈ Form.shortFamilies := by simp [Form.shortFamilies]
  simp only [Catalog.variableOperands, Catalog.cases, List.zipIdx_cons, List.zipIdx_nil,
    List.map_cons, List.map_nil, List.mem_cons, List.not_mem_nil, or_false, Case.mk.injEq,
    Nat.reduceAdd, Nat.cast_ofNat, Nat.cast_zero, Nat.cast_one, zero_add] at hcase
  rcases hcase with ⟨rfl, rfl, rfl⟩ | ⟨rfl, rfl, rfl⟩ | ⟨rfl, rfl, rfl⟩ | ⟨rfl, rfl, rfl⟩ |
    ⟨rfl, rfl, rfl⟩
  · obtain ⟨_, hvalue, rfl⟩ := decoded.single
    obtain ⟨value, rfl⟩ := Slot.gives_int hvalue
    refine ⟨_, rfl, Form.shows_value Form.constant [.int value] hfamily (by simp [Form.singles])
      (by simp [Form.constant]) rfl ?_⟩
    simp [Form.constant, Expr.render]
  · obtain ⟨_, hid, rfl⟩ := decoded.single
    obtain ⟨id, rfl⟩ := Slot.gives_int hid
    refine ⟨_, rfl, Form.shows_value Form.otherVariable [.int id] hfamily (by simp [Form.singles])
      (by simp [Form.otherVariable]) rfl ?_⟩
    simp [Form.otherVariable, variableNamed, render_named hnames]
  · obtain ⟨_, _, hleast, hmost, rfl⟩ := decoded.double
    obtain ⟨least, rfl⟩ := Slot.gives_int hleast
    obtain ⟨most, rfl⟩ := Slot.gives_int hmost
    exact ⟨_, rfl, Form.shows_random least most⟩
  · obtain ⟨_, ⟨m, kind, slots, data, hkind, rfl, hdata⟩, rfl⟩ := decoded.single
    exact gameData_shows hnames hkind hdata
  · obtain ⟨_, hscript, rfl⟩ := decoded.single
    obtain ⟨script, rfl⟩ := Slot.gives_text hscript
    refine ⟨_, rfl, Form.shows_value Form.valueScript [.str script] hfamily
      (by simp [Form.singles]) (by simp [Form.valueScript]) rfl ?_⟩
    simp [Form.valueScript, Expr.callPath, Text.join, Expr.render, Expr.renderArgs,
      Expr.renderKeywords]

end Context

end Decompile

end EventScript
