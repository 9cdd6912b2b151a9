import EventScript.Decompile.Condition
import EventScript.Proofs.Command.Sequence
import EventScript.Proofs.Decompile.Essence
import EventScript.Proofs.Decompile.Form

/-! The forms of conditions: every condition that a branch may ask has one of them, and they are
readable. -/
namespace EventScript

open Template

namespace Form

/-- What stands before a condition that is the opposite of another one. -/
def negation (isOff : Bool) : Template := if isOff then words "not " else []

def switch (isOff : Bool) : Form where
  template := negation isOff ++ Category.switches.template
  operand
    | [id] => .tagged "switch" 0 [("switch_id", .value id), ("is_off", .value (.bool isOff))]
    | _ => .value .null

/-- A variable, compared with a number or with another variable. -/
def comparison (word : String) (isVariable : Bool) : Form where
  template := Category.variables.template ++ (words " " ++ (words word ++ (words " " ++
    if isVariable then Category.variables.template else [.gap .literal])))
  operand
    | [id, value] => .tagged "variable" 1
        [("variable_id", .value id), ("rhs_is_variable", .value (.bool isVariable)),
         ("rhs", .reference ⟨value, isVariable⟩), ("comparison", .member word)]
    | _ => .value .null

def selfSwitch (isOff : Bool) : Form where
  template := negation isOff ++ (words "game_self_switches.get(" ++
    (words "map_id=self.map_id, event_id=self.event_id, name=" ++ .gap .literal :: words ")"))
  operand
    | [key] => .tagged "self_switch" 2 [("key", .value key), ("is_off", .value (.bool isOff))]
    | _ => .value .null

/-- A number of the game, compared with a fixed one. -/
def ordering (tag : String) (n : Int) (subject slot word : String) : Form where
  template := words subject ++ (words " " ++ (words word ++ (words " " ++ [.gap .literal])))
  operand
    | [limit] => .tagged tag n [(Text.ofString slot, .value limit), ("comparison", .member word)]
    | _ => .value .null

def timer (word : String) : Form := ordering "timer" 3 "game_timer.seconds()" "seconds" word

def gold (word : String) : Form := ordering "gold" 7 "game_party.gold" "amount" word

def inParty : Form where
  template := words "game_party.members.contains(actor=" ++
    (Category.actors.template ++ words ")")
  operand
    | [id] => .tagged "actor" 4 [("actor_id", .value id), ("check", .tagged "in_party" 0 [])]
    | _ => .value .null

def actorName : Form where
  template := Category.actors.template ++ (words ".name == " ++ [.gap .literal])
  operand
    | [id, name] => .tagged "actor" 4
        [("actor_id", .value id), ("check", .tagged "name" 1 [("name", .value name)])]
    | _ => .value .null

/-- A property of an actor: the method with its keyword, and the slot that holds the entry. -/
def actorProperty (tag : String) (n : Int) (method key : String) (category : Category)
    (slot : String) : Form where
  template := Category.actors.template ++ (words "." ++ (words method ++ (words "(" ++ (words key ++
    (words "=" ++ (category.template ++ words ")"))))))
  operand
    | [id, entry] => .tagged "actor" 4
        [("actor_id", .value id), ("check", .tagged tag n [(Text.ofString slot, .value entry)])]
    | _ => .value .null

def enemyAppeared : Form where
  template := words "game_troop.members[" ++ .gap .literal :: words "].is_appeared()"
  operand
    | [index] => .tagged "enemy" 5
        [("enemy_index", .value index), ("check", .tagged "appeared" 0 [])]
    | _ => .value .null

def enemyState : Form where
  template := words "game_troop.members[" ++ .gap .literal :: (words "].is_state_affected(state=" ++
    (Category.states.template ++ words ")"))
  operand
    | [index, state] => .tagged "enemy" 5
        [("enemy_index", .value index), ("check", .tagged "state" 1 [("state_id", .value state)])]
    | _ => .value .null

def direction (who : Who) : Form where
  template := who.template ++ (words ".direction == " ++ [.gap .literal])
  operand values := match who.take values with
    | (id, [direction]) => .tagged "character" 6
        [("character_id", .value id), ("direction", .value direction)]
    | _ => .value .null

def hasItem : Form where
  template := words "game_party.has_item(item=" ++ (Category.items.template ++ words ")")
  operand
    | [id] => .tagged "item" 8 [("item_id", .value id)]
    | _ => .value .null

/-- A weapon or an armor of the party; equipped ones may count. -/
def hasEquipment (tag : String) (n : Int) (path : String) (category : Category) (slot : String) :
    Form where
  template := words path ++ (words "(" ++ (words tag ++ (words "=" ++ (category.template ++
    (words ", include_equipped=" ++ .gap .literal :: words ")")))))
  operand
    | [id, isIncluded] => .tagged tag n
        [(Text.ofString slot, .value id), ("include_equipped", .value isIncluded)]
    | _ => .value .null

def button : Form where
  template := words "game_input.is_pressed(key_name=" ++ .gap .literal :: words ")"
  operand
    | [key] => .tagged "button" 11 [("button", .value key)]
    | _ => .value .null

def conditionScript : Form where
  template := words "execute_script(" ++ .gap .literal :: words ")"
  operand
    | [script] => .tagged "script" 12 [("script", .value script)]
    | _ => .value .null

def switches : List Form := [false, true].map switch

def comparisons : List Form :=
  ["==", ">=", "<=", ">", "<", "!="].flatMap fun word => [false, true].map (comparison word)

def selfSwitches : List Form := [false, true].map selfSwitch

def orderings : List Form := [">=", "<="].map timer ++ [">=", "<=", "<"].map gold

def actorQuestions : List Form :=
  [inParty, actorName, actorProperty "class" 2 "is_class" "klass" .classes "class_id",
   actorProperty "skill" 3 "has_skill" "skill" .skills "skill_id",
   actorProperty "weapon" 4 "has_weapon" "weapon" .weapons "weapon_id",
   actorProperty "armor" 5 "has_armor" "armor" .armors "armor_id",
   actorProperty "state" 6 "is_state_affected" "state" .states "state_id"]

def directions : List Form := Who.all.map direction

def possessions : List Form :=
  [hasItem, hasEquipment "weapon" 9 "game_party.has_weapon" .weapons "weapon_id",
   hasEquipment "armor" 10 "game_party.has_armor" .armors "armor_id"]

def conditionFamilies : List (List Form) :=
  [switches, comparisons, selfSwitches, orderings, actorQuestions, [enemyAppeared, enemyState],
   directions, possessions, [button, conditionScript]]

/-- The forms of all conditions. -/
def conditions : List Form := conditionFamilies.flatten

lemma readable_conditions : Readable conditions template := by
  constructor
  all_goals
    simp only [conditions, conditionFamilies, switches, comparisons, selfSwitches, orderings,
      actorQuestions, directions, possessions, Who.all, List.flatten_cons, List.flatten_nil,
      List.flatMap_cons, List.flatMap_nil, List.map_cons, List.map_nil, List.append_nil,
      List.cons_append, List.nil_append, switch, comparison, selfSwitch, ordering, timer, gold,
      inParty, actorName, actorProperty, enemyAppeared, enemyState, direction, hasItem,
      hasEquipment, button, conditionScript, negation, Who.template, Category.template,
      Category.stem]
    repeat rw [words_ofList]
    decide +kernel

/-- A condition in one of the forms of a family. -/
lemma shows_condition (form : Form) (values : List Json) {family : List Form}
    (hfamily : family ∈ conditionFamilies) (hform : form ∈ family)
    (hvalues : form.template.Fits values) {text : Text}
    (htext : text = form.template.fill values) : Shows conditions (form.operand values) text :=
  ⟨form, List.mem_flatten.2 ⟨family, hfamily, hform⟩, values, hvalues, rfl, htext.symm⟩

end Form

namespace Decompile

open Operands

/-! ### The texts of the forms -/

section Texts

variable {context : Context} (hnames : context.names = {})

lemma render_negatedIf (isOff : Bool) {e : Expr} (h : e.isBinary = false) {t : Template}
    {values : List Json} (htext : e.render = t.fill values) :
    (negatedIf isOff e).render = (Form.negation isOff ++ t).fill values := by
  cases isOff with
  | false => simp [negatedIf, Form.negation, htext]
  | true => simp [negatedIf, Form.negation, Expr.render, h, htext]

lemma shows_selfSwitch (key : Text) (isOff : Bool) : Form.Shows Form.conditions
    (.tagged "self_switch" 2 [("key", .value (.str key)), ("is_off", .value (.bool isOff))])
    (negatedIf isOff (invoke "game_self_switches.get"
      [("map_id", .dotted "self.map_id"), ("event_id", .dotted "self.event_id"),
       ("name", .literal (.str key))])).render := by
  refine Form.shows_condition (Form.selfSwitch isOff) [.str key]
    (by simp [Form.conditionFamilies] : Form.selfSwitches ∈ _) (List.mem_map_of_mem (by simp)) ?_ ?_
  · cases isOff <;> simp [Form.selfSwitch, Form.negation]
  · refine render_negatedIf isOff rfl ?_
    simp [Text.join, Expr.render, Text.ofString_append_append]

/-- A number of the game and what it is compared with. -/
lemma shows_ordering (limit : Int) {e : Expr} {tag : String} {n : Int} {subject slot word : String}
    (htext : e.render = Text.ofString subject)
    (hform : Form.ordering tag n subject slot word ∈ Form.orderings) : Form.Shows Form.conditions
    (.tagged tag n [(Text.ofString slot, .value (.int limit)), ("comparison", .member word)])
    (Expr.binary e (Text.ofString word) (.literal (.int limit))).render := by
  refine Form.shows_condition _ [.int limit] (by simp [Form.conditionFamilies] : Form.orderings ∈ _)
    hform (by simp [Form.ordering]) ?_
  simp [Form.ordering, Expr.render, htext, Text.ofString_append_append, String.append_assoc]

lemma shows_button (key : Text) : Form.Shows Form.conditions
    (.tagged "button" 11 [("button", .value (.str key))])
    (invoke "game_input.is_pressed" [("key_name", .literal (.str key))]).render := by
  refine Form.shows_condition Form.button [.str key]
    (by simp [Form.conditionFamilies] : [Form.button, Form.conditionScript] ∈ _) (by simp)
    (by simp [Form.button]) ?_
  simp [Form.button, Text.join, Expr.render, Text.ofString_append_append]

lemma shows_conditionScript (script : Text) : Form.Shows Form.conditions
    (.tagged "script" 12 [("script", .value (.str script))])
    (Expr.callPath "execute_script" [.literal (.str script)] []).render := by
  refine Form.shows_condition Form.conditionScript [.str script]
    (by simp [Form.conditionFamilies] : [Form.button, Form.conditionScript] ∈ _) (by simp)
    (by simp [Form.conditionScript]) ?_
  simp [Form.conditionScript, Expr.callPath, Text.join, Expr.render, Expr.renderArgs,
    Expr.renderKeywords]

lemma shows_direction (id direction : Int) : Form.Shows Form.conditions
    (.tagged "character" 6 [("character_id", .value (.int (if id < 0 then -1 else id))),
      ("direction", .value (.int direction))])
    (Expr.binary (.attribute (character id) "direction") "=="
      (.literal (.int direction))).render := by
  obtain ⟨who, hwho, values, htake, hwritten⟩ := Who.exists_who id
  obtain ⟨hfits, hfill⟩ := hwritten (words ".direction == " ++ [.gap .literal]) [.int direction]
  have hoperand : (Form.direction who).operand (values ++ [.int direction]) =
      .tagged "character" 6 [("character_id", .value (.int (if id < 0 then -1 else id))),
        ("direction", .value (.int direction))] := by
    simp only [Form.direction, htake]
  rw [← hoperand]
  refine Form.shows_condition (Form.direction who) (values ++ [Json.int direction])
    (by simp [Form.conditionFamilies] : Form.directions ∈ _) (List.mem_map_of_mem hwho)
    (hfits (by simp)) ?_
  rw [Form.direction, hfill]
  simp [Expr.render]

include hnames

lemma shows_switch (id : Int) (isOff : Bool) : Form.Shows Form.conditions
    (.tagged "switch" 0 [("switch_id", .value (.int id)), ("is_off", .value (.bool isOff))])
    (negatedIf isOff (context.named .switches id)).render := by
  refine Form.shows_condition (Form.switch isOff) [.int id]
    (by simp [Form.conditionFamilies] : Form.switches ∈ _) (List.mem_map_of_mem (by simp)) ?_ ?_
  · cases isOff <;> simp [Form.switch, Form.negation]
  · exact render_negatedIf isOff rfl (by simp [Context.render_named hnames])

lemma shows_comparison (id value : Int) (isVariable : Bool) {word : String}
    (hword : word ∈ ["==", ">=", "<=", ">", "<", "!="]) : Form.Shows Form.conditions
    (.tagged "variable" 1
      [("variable_id", .value (.int id)), ("rhs_is_variable", .value (.bool isVariable)),
       ("rhs", .reference ⟨.int value, isVariable⟩), ("comparison", .member word)])
    (Expr.binary (context.variableNamed id) (Text.ofString word)
      (context.amount ⟨value, isVariable⟩)).render := by
  refine Form.shows_condition (Form.comparison word isVariable) [.int id, .int value]
    (by simp [Form.conditionFamilies] : Form.comparisons ∈ _)
    (List.mem_flatMap.2 ⟨word, hword, List.mem_map_of_mem (by simp)⟩) ?_ ?_
  · cases isVariable <;> simp [Form.comparison]
  · cases isVariable <;> simp [Form.comparison, Expr.render, Context.variableNamed,
      Context.render_named hnames, Context.amount, number, Text.ofString_append_append,
      String.append_assoc]

/-- The questions about properties of actors differ in words only. -/
lemma shows_actorProperty (id entry : Int) {tag : String} {n : Int} {word key : String}
    {category : Category} {slot : String}
    (hform : Form.actorProperty tag n word key category slot ∈ Form.actorQuestions) :
    Form.Shows Form.conditions (.tagged "actor" 4 [("actor_id", .value (.int id)),
      ("check", .tagged tag n [(Text.ofString slot, .value (.int entry))])])
      (method (context.named .actors id) word [(key, context.named category entry)]).render := by
  refine Form.shows_condition _ [.int id, .int entry]
    (by simp [Form.conditionFamilies] : Form.actorQuestions ∈ _) hform
    (by simp [Form.actorProperty]) ?_
  simp [Form.actorProperty, Text.join, Context.render_named hnames, Text.ofString_append_append,
    String.append_assoc]

lemma shows_item (id : Int) : Form.Shows Form.conditions
    (.tagged "item" 8 [("item_id", .value (.int id))])
    (invoke "game_party.has_item" [("item", context.named .items id)]).render := by
  refine Form.shows_condition Form.hasItem [.int id]
    (by simp [Form.conditionFamilies] : Form.possessions ∈ _) (by simp [Form.possessions])
    (by simp [Form.hasItem]) ?_
  simp [Form.hasItem, Text.join, Context.render_named hnames, Text.ofString_append_append]

lemma shows_equipment (id : Int) (isIncluded : Bool) {tag : String} {n : Int} {path : String}
    {category : Category} {slot : String}
    (hform : Form.hasEquipment tag n path category slot ∈ Form.possessions) :
    Form.Shows Form.conditions (.tagged tag n [(Text.ofString slot, .value (.int id)),
      ("include_equipped", .value (.bool isIncluded))])
      (invoke path [(tag, context.named category id),
        ("include_equipped", .literal (.bool isIncluded))]).render := by
  refine Form.shows_condition _ [.int id, .bool isIncluded]
    (by simp [Form.conditionFamilies] : Form.possessions ∈ _) hform (by simp [Form.hasEquipment]) ?_
  simp [Form.hasEquipment, Text.join, Expr.render, Context.render_named hnames,
    Text.ofString_append_append, String.append_assoc]

end Texts

/-! ### The conditions that a layout declares -/

namespace Context

variable {context : Context} {n : Int} {tag : Text} {layout : Layout} {asked : Operands}

lemma actorCondition_shows (hnames : context.names = {}) (id : Int)
    (hcase : Case.mk n tag layout ∈ Catalog.actorChecks) (decoded : Decoded layout asked) :
    ∃ e, context.actorCondition id tag.toString asked = .ok e ∧
      Form.Shows Form.conditions (.tagged "actor" 4
        [("actor_id", .value (.int id)), ("check", .tagged tag n (essence asked))]) e.render := by
  have hfamily : Form.actorQuestions ∈ Form.conditionFamilies := by simp [Form.conditionFamilies]
  simp only [Catalog.actorChecks, Catalog.cases, List.zipIdx_cons, List.zipIdx_nil, List.map_cons,
    List.map_nil, List.mem_cons, List.not_mem_nil, or_false, Case.mk.injEq, Nat.reduceAdd,
    Nat.cast_ofNat, Nat.cast_zero, Nat.cast_one, zero_add] at hcase
  rcases hcase with ⟨rfl, rfl, rfl⟩ | ⟨rfl, rfl, rfl⟩ | ⟨rfl, rfl, rfl⟩ | ⟨rfl, rfl, rfl⟩ |
    ⟨rfl, rfl, rfl⟩ | ⟨rfl, rfl, rfl⟩ | ⟨rfl, rfl, rfl⟩
  · obtain rfl := decoded.continues.nil
    refine ⟨_, rfl, Form.shows_condition Form.inParty [.int id] hfamily
      (by simp [Form.actorQuestions]) (by simp [Form.inParty]) ?_⟩
    simp [Form.inParty, Text.join, render_named hnames, Text.ofString_append_append]
  · obtain ⟨_, hname, rfl⟩ := decoded.single
    obtain ⟨name, rfl⟩ := Slot.gives_text hname
    refine ⟨_, rfl, Form.shows_condition Form.actorName [.int id, .str name] hfamily
      (by simp [Form.actorQuestions]) (by simp [Form.actorName]) ?_⟩
    simp [Form.actorName, Expr.render, render_named hnames]
  all_goals
    obtain ⟨_, hid, rfl⟩ := decoded.single
    obtain ⟨entry, rfl⟩ := Slot.gives_int hid
    exact ⟨_, rfl, shows_actorProperty hnames id entry (by simp [Form.actorQuestions])⟩

lemma enemyCondition_shows (hnames : context.names = {}) (index : Int)
    (hcase : Case.mk n tag layout ∈ Catalog.enemyChecks) (decoded : Decoded layout asked) :
    ∃ e, context.enemyCondition index tag.toString asked = .ok e ∧
      Form.Shows Form.conditions (.tagged "enemy" 5
        [("enemy_index", .value (.int index)), ("check", .tagged tag n (essence asked))])
        e.render := by
  have hfamily : [Form.enemyAppeared, Form.enemyState] ∈ Form.conditionFamilies := by
    simp [Form.conditionFamilies]
  simp only [Catalog.enemyChecks, Catalog.cases, List.zipIdx_cons, List.zipIdx_nil, List.map_cons,
    List.map_nil, List.mem_cons, List.not_mem_nil, or_false, Case.mk.injEq, Nat.cast_zero,
    Nat.cast_one, zero_add] at hcase
  rcases hcase with ⟨rfl, rfl, rfl⟩ | ⟨rfl, rfl, rfl⟩
  · obtain rfl := decoded.continues.nil
    refine ⟨_, rfl, Form.shows_condition Form.enemyAppeared [.int index] hfamily (by simp)
      (by simp [Form.enemyAppeared]) ?_⟩
    simp [Form.enemyAppeared, enemy, number, Expr.render, Text.join]
  · obtain ⟨_, hid, rfl⟩ := decoded.single
    obtain ⟨state, rfl⟩ := Slot.gives_int hid
    refine ⟨_, rfl, Form.shows_condition Form.enemyState [.int index, .int state] hfamily
      (by simp) (by simp [Form.enemyState]) ?_⟩
    simp [Form.enemyState, enemy, number, Expr.render, Text.join, render_named hnames,
      Text.ofString_append_append]

/-- Every condition that the layout of a branch declares has a form. -/
lemma condition_shows (hnames : context.names = {})
    (hcase : Case.mk n tag layout ∈ Catalog.conditions) (decoded : Decoded layout asked) :
    ∃ e, context.condition tag.toString asked = .ok e ∧
      Form.Shows Form.conditions (.tagged tag n (essence asked)) e.render := by
  simp only [Catalog.conditions, Catalog.cases, List.zipIdx_cons, List.zipIdx_nil, List.map_cons,
    List.map_nil, List.mem_cons, List.not_mem_nil, or_false, Case.mk.injEq, Nat.reduceAdd,
    Nat.cast_ofNat, Nat.cast_zero, Nat.cast_one, zero_add] at hcase
  rcases hcase with ⟨rfl, rfl, rfl⟩ | ⟨rfl, rfl, rfl⟩ | ⟨rfl, rfl, rfl⟩ | ⟨rfl, rfl, rfl⟩ |
    ⟨rfl, rfl, rfl⟩ | ⟨rfl, rfl, rfl⟩ | ⟨rfl, rfl, rfl⟩ | ⟨rfl, rfl, rfl⟩ | ⟨rfl, rfl, rfl⟩ |
    ⟨rfl, rfl, rfl⟩ | ⟨rfl, rfl, rfl⟩ | ⟨rfl, rfl, rfl⟩ | ⟨rfl, rfl, rfl⟩
  · obtain ⟨_, _, hid, hoff, rfl⟩ := decoded.double
    obtain ⟨id, rfl⟩ := Slot.gives_int hid
    obtain ⟨isOff, rfl⟩ := Slot.gives_binary hoff
    exact ⟨_, rfl, shows_switch hnames id isOff⟩
  · obtain ⟨_, hid, decoded⟩ := decoded.continues.next
    obtain ⟨id, rfl⟩ := Slot.gives_int hid
    obtain ⟨value, isVariable, decoded⟩ := decoded.pair
    obtain ⟨_, hword, decoded⟩ := decoded.next
    obtain ⟨word, hmem, rfl⟩ := Slot.gives_member hword
    obtain rfl := decoded.nil
    refine ⟨_, rfl, ?_⟩
    rw [Text.toString_ofString]
    exact shows_comparison hnames id value isVariable hmem
  · obtain ⟨_, _, hkey, hoff, rfl⟩ := decoded.double
    obtain ⟨key, rfl⟩ := Slot.gives_text hkey
    obtain ⟨isOff, rfl⟩ := Slot.gives_binary hoff
    exact ⟨_, rfl, shows_selfSwitch key isOff⟩
  · obtain ⟨_, _, hseconds, hword, rfl⟩ := decoded.double
    obtain ⟨seconds, rfl⟩ := Slot.gives_int hseconds
    obtain ⟨word, hmem, rfl⟩ := Slot.gives_member hword
    refine ⟨_, rfl, ?_⟩
    rw [Text.toString_ofString]
    exact shows_ordering seconds (by simp [Text.join])
      (List.mem_append_left _ (List.mem_map_of_mem hmem))
  · obtain ⟨_, _, hid, ⟨m, check, slots, inner, hcheck, rfl, hinner⟩, rfl⟩ := decoded.double
    obtain ⟨id, rfl⟩ := Slot.gives_int hid
    exact actorCondition_shows hnames id hcheck hinner
  · obtain ⟨_, _, hindex, ⟨m, check, slots, inner, hcheck, rfl, hinner⟩, rfl⟩ := decoded.double
    obtain ⟨index, rfl⟩ := Slot.gives_int hindex
    exact enemyCondition_shows hnames index hcheck hinner
  · obtain ⟨_, _, hid, hdirection, rfl⟩ := decoded.double
    obtain ⟨id, rfl⟩ := Slot.gives_int hid
    obtain ⟨direction, rfl⟩ := Slot.gives_int hdirection
    refine ⟨_, rfl, ?_⟩
    simpa [insertPair, essence, Operand.essence, Text.ofString_inj] using
      shows_direction id direction
  · obtain ⟨_, _, hamount, hword, rfl⟩ := decoded.double
    obtain ⟨amount, rfl⟩ := Slot.gives_int hamount
    obtain ⟨word, hmem, rfl⟩ := Slot.gives_member hword
    refine ⟨_, rfl, ?_⟩
    rw [Text.toString_ofString]
    exact shows_ordering amount (by simp) (List.mem_append_right _ (List.mem_map_of_mem hmem))
  · obtain ⟨_, hid, rfl⟩ := decoded.single
    obtain ⟨id, rfl⟩ := Slot.gives_int hid
    exact ⟨_, rfl, shows_item hnames id⟩
  · obtain ⟨_, _, hid, hincluded, rfl⟩ := decoded.double
    obtain ⟨id, rfl⟩ := Slot.gives_int hid
    obtain ⟨isIncluded, rfl⟩ := Slot.gives_flag hincluded
    exact ⟨_, rfl, shows_equipment hnames id isIncluded (by simp [Form.possessions])⟩
  · obtain ⟨_, _, hid, hincluded, rfl⟩ := decoded.double
    obtain ⟨id, rfl⟩ := Slot.gives_int hid
    obtain ⟨isIncluded, rfl⟩ := Slot.gives_flag hincluded
    exact ⟨_, rfl, shows_equipment hnames id isIncluded (by simp [Form.possessions])⟩
  · obtain ⟨_, hkey, rfl⟩ := decoded.single
    obtain ⟨key, rfl⟩ := Slot.gives_text hkey
    exact ⟨_, rfl, shows_button key⟩
  · obtain ⟨_, hscript, rfl⟩ := decoded.single
    obtain ⟨script, rfl⟩ := Slot.gives_text hscript
    exact ⟨_, rfl, shows_conditionScript script⟩

end Context

end Decompile

end EventScript
