import Roleplay.Evaluation.Instruction
import Roleplay.Proofs.Instruction.Skipping

/-! # Menus

Choice sets as they are authored: choices, and parts that are offered only under a condition, which
may be nested.

* `Menu` is such a structure, and `Menu.slots` the choice set that is written for it;
* `Menu.offer` runs a menu part by part, with no regard to slots;
* `Staging.Walks` says that walking the slots of a menu runs the menu, whatever follows them, and
  `walks_of_isWritable` that it does;
* `Staging.offerChoices_slots` is the statement for whole choice sets.
-/

namespace Roleplay

variable {Host : Type}

/-- The parts of a menu, from the first one on. -/
inductive Menu where
  | nil
  | choice (index : UInt16) (rest : Menu)
  /-- A part that is offered only if an instruction holds. -/
  | guarded (condition : UInt16) (body rest : Menu)
deriving Repr, DecidableEq

namespace Menu

/-! ## Writing -/

/-- The number of slots that a menu takes. -/
def width : Menu → Nat
  | nil => 0
  | choice _ rest => 2 + rest.width
  | guarded _ body rest => 3 + body.width + rest.width

/-- The slots of a menu that begins at slot `start`.  A guard is followed by a jump to the slot
behind its part. -/
def slots (start : Nat) : Menu → List UInt16
  | nil => []
  | choice index rest => OpCode.choice.code :: index :: rest.slots (start + 2)
  | guarded condition body rest =>
    condition :: OpCode.goto.code :: UInt16.ofNat (start + 3 + body.width) ::
      (body.slots (start + 3) ++ rest.slots (start + 3 + body.width))

/-- Whether the menu can be written at slot `start`: no guard reads as another kind of entry, and
every part ends at a slot that a jump can name. -/
def IsWritable (start : Nat) : Menu → Prop
  | nil => True
  | choice _ rest => rest.IsWritable (start + 2)
  | guarded condition body rest =>
    condition ≠ OpCode.goto.code ∧ condition ≠ OpCode.choice.code ∧
      start + 3 + body.width ≤ 65535 ∧
      body.IsWritable (start + 3) ∧ rest.IsWritable (start + 3 + body.width)

instance decidableIsWritable : (start : Nat) → (menu : Menu) → Decidable (menu.IsWritable start)
  | _, nil => isTrue trivial
  | start, choice _ rest => decidableIsWritable (start + 2) rest
  | start, guarded condition body rest =>
    have := decidableIsWritable (start + 3) body
    have := decidableIsWritable (start + 3 + body.width) rest
    inferInstanceAs (Decidable (condition ≠ OpCode.goto.code ∧ condition ≠ OpCode.choice.code ∧
      start + 3 + body.width ≤ 65535 ∧
      body.IsWritable (start + 3) ∧ rest.IsWritable (start + 3 + body.width)))

/-! ## Running -/

/-- Whether a part opens: its condition is evaluated only if the menu around it is open. -/
def opens (surroundings : Surroundings Host) (isOpen : Bool) (condition : UInt16) :
    Staging Host Bool :=
  if isOpen then Staging.conditionHolds surroundings condition.toNat else pure false

/-- Runs a menu, open or not; the choices of one that is not open are disabled. -/
def offer (surroundings : Surroundings Host) : Bool → Menu → Staging Host (List Choice)
  | _, nil => pure []
  | isOpen, choice index rest => do
    let others ← rest.offer surroundings isOpen
    match surroundings.script.choices[index.toNat]? with
    | some offered => pure ({ offered with disabled := !isOpen } :: others)
    | none => pure others
  | isOpen, guarded condition body rest => do
    let bodyIsOpen ← opens surroundings isOpen condition
    let inner ← body.offer surroundings bodyIsOpen
    let others ← rest.offer surroundings isOpen
    pure (inner ++ others)

/-- The choices of a menu as the script has them, in order; those that it lacks are left out. -/
def listed (script : Script) : Menu → List Choice
  | nil => []
  | choice index rest => (script.choices[index.toNat]?).toList ++ rest.listed script
  | guarded _ body rest => body.listed script ++ rest.listed script

/-- Whatever the conditions come to, a menu offers all its choices in order. -/
theorem map_offer {β : Type} {surroundings : Surroundings Host} {menu : Menu} {isOpen : Bool}
    {scene : Scene Host} {f : Choice → β}
    (ignores : ∀ choice disabled, f { choice with disabled := disabled } = f choice) :
    ((menu.offer surroundings isOpen).run scene).1.map f =
      (menu.listed surroundings.script).map f := by
  induction menu generalizing isOpen scene with
  | nil => rfl
  | choice index rest inductionHypothesis =>
    rw [offer, listed]
    cases surroundings.script.choices[index.toNat]? with
    | none => exact inductionHypothesis
    | some choice =>
      change f { choice with disabled := !isOpen } ::
        ((rest.offer surroundings isOpen).run scene).1.map f = _
      rw [inductionHypothesis, ignores]
      rfl
  | guarded condition body rest bodyHypothesis restHypothesis =>
    -- each part starts where the one before it has left the scene
    let decided := (opens surroundings isOpen condition).run scene
    let inner := (body.offer surroundings decided.1).run decided.2
    change (inner.1 ++ ((rest.offer surroundings isOpen).run inner.2).1).map f = _
    rw [List.map_append, bodyHypothesis, restHypothesis, listed, List.map_append]

end Menu

namespace Staging

variable {surroundings : Surroundings Host} {slot openFrom : Nat} {passed : Bool}

/-! ## Entries -/

theorem offerFrom_choice {index : UInt16} {slots : List UInt16} :
    offerFrom surroundings slot openFrom passed (OpCode.choice.code :: index :: slots) = (do
      let others ← offerFrom surroundings (slot + 2) openFrom passed slots
      match surroundings.script.choices[index.toNat]? with
      | some choice => pure ({ choice with disabled := slot < openFrom } :: others)
      | none => pure others) :=
  rfl

theorem offerFrom_goto {target : UInt16} {slots : List UInt16} :
    offerFrom surroundings slot openFrom passed (OpCode.goto.code :: target :: slots) =
      offerFrom surroundings (slot + 2) (if passed then openFrom else max openFrom target.toNat)
        false slots :=
  rfl

theorem offerFrom_condition {condition : UInt16} {slots : List UInt16}
    (noChoice : OpCode.ofCode? condition ≠ some .choice)
    (noJump : OpCode.ofCode? condition ≠ some .goto) :
    offerFrom surroundings slot openFrom passed (condition :: slots) = (do
      let holds ← Menu.opens surroundings (openFrom ≤ slot) condition
      offerFrom surroundings (slot + 1) openFrom holds slots) := by
  rw [offerFrom.eq_def]
  split
  · contradiction
  · rename_i same
    obtain ⟨rfl, rfl⟩ := List.cons.inj same
    split
    · contradiction
    · contradiction
    · split
      · rename_i isOpen
        rw [Menu.opens, if_pos (decide_eq_true isOpen)]
      · rename_i isClosed
        rw [Menu.opens, if_neg (by simpa using isClosed)]

/-- Where the open slots begin matters only for slots that are still to come. -/
theorem offerFrom_congr {first second : Nat} {slots : List UInt16}
    (same : max first slot = max second slot) :
    offerFrom surroundings slot first passed slots =
      offerFrom surroundings slot second passed slots := by
  fun_induction offerFrom surroundings slot first passed slots generalizing second with
  | case1 => rfl
  | case2 slot first passed entry isChoice => simp only [offerFrom, isChoice]
  | case3 slot first passed entry isChoice index slots inductionHypothesis =>
    have disabled : decide (slot < first) = decide (slot < second) := by
      congr 1; exact propext (by omega)
    have walked : offerFrom surroundings (slot + 2) first passed slots =
        offerFrom surroundings (slot + 2) second passed slots := inductionHypothesis (by omega)
    simp only [offerFrom, isChoice, disabled, walked]
  | case4 slot first passed entry isJump => simp only [offerFrom, isJump]
  | case5 slot first passed entry isJump target slots inductionHypothesis =>
    simp only [offerFrom, isJump]
    refine inductionHypothesis ?_
    split <;> omega
  | case6 slot first passed entry slots continues isOpen noChoice noJump =>
    rename_i inductionHypothesis
    rw [offerFrom_condition noChoice noJump, Menu.opens, if_pos (by simp; omega)]
    exact bind_congr fun holds => inductionHypothesis holds (by omega)
  | case7 slot first passed entry slots continues isClosed noChoice noJump =>
    rename_i inductionHypothesis
    rw [offerFrom_condition noChoice noJump, Menu.opens, if_neg (by simp; omega)]
    exact inductionHypothesis false (by omega)

/-- The choices that are offered go on as those of the script do. -/
theorem next_mem_of_mem_offerFrom {slots : List UInt16} {scene : Scene Host} :
    ∀ choice ∈ ((offerFrom surroundings slot openFrom passed slots).run scene).1,
      choice.next ∈ surroundings.script.choices.map (·.next) := by
  fun_induction offerFrom surroundings slot openFrom passed slots generalizing scene with
  | case1 | case2 | case4 => exact fun choice member => absurd member (List.not_mem_nil)
  | case3 slot openFrom passed entry isChoice index slots inductionHypothesis =>
    intro choice member
    change choice ∈ ((match surroundings.script.choices[index.toNat]? with
      | some choice => pure ({ choice with disabled := slot < openFrom } ::
          ((offerFrom surroundings (slot + 2) openFrom passed slots).run scene).1)
      | none => pure ((offerFrom surroundings (slot + 2) openFrom passed slots).run scene).1 :
      Staging Host (List Choice)).run _).1 at member
    split at member
    next original found =>
      cases List.mem_cons.1 member with
      | inl same =>
        rw [same]
        exact List.mem_map.2 ⟨original, List.mem_of_getElem? found, rfl⟩
      | inr later => exact inductionHypothesis choice later
    next => exact inductionHypothesis choice member
  | case5 slot openFrom passed entry isJump target slots inductionHypothesis =>
    exact inductionHypothesis
  | case6 | case7 =>
    -- whether the condition held matters for no jump
    rename_i inductionHypothesis
    exact inductionHypothesis _

/-! ## Menus -/

theorem ofCode?_ne_of_ne_code {entry : UInt16} {op : OpCode} (different : entry ≠ op.code) :
    OpCode.ofCode? entry ≠ some op :=
  fun found => different (OpCode.code_of_ofCode? found).symm

/-- Whether walking the slots of a menu runs the menu.  An open menu begins where the slots are
open, and a closed one ends before they are open again; the slots behind it must not begin with a
jump. -/
def Walks (surroundings : Surroundings Host) (slot : Nat) (menu : Menu) : Prop :=
  ∀ isOpen openFrom passed slots,
    isOpen = true ∧ openFrom ≤ slot ∨ isOpen = false ∧ slot + menu.width ≤ openFrom →
    (∀ passed, offerFrom surroundings (slot + menu.width) openFrom passed slots =
      offerFrom surroundings (slot + menu.width) openFrom false slots) →
    offerFrom surroundings slot openFrom passed (menu.slots slot ++ slots) = (do
      let here ← menu.offer surroundings isOpen
      let later ← offerFrom surroundings (slot + menu.width) openFrom false slots
      pure (here ++ later))

theorem walks_nil : Walks surroundings slot .nil := by
  intro isOpen openFrom passed slots _ ignores
  simpa [Menu.slots, Menu.offer, Menu.width] using ignores passed

theorem walks_choice {index : UInt16} {rest : Menu} (walks : Walks surroundings (slot + 2) rest) :
    Walks surroundings slot (.choice index rest) := by
  intro isOpen openFrom passed slots position ignores
  have behind : slot + (2 + rest.width) = slot + 2 + rest.width := by omega
  rw [Menu.width, behind] at position ignores
  have disabled : decide (slot < openFrom) = !isOpen := by
    rcases position with ⟨rfl, begun⟩ | ⟨rfl, ended⟩
    · simpa using begun
    · simp; omega
  have runs := walks isOpen openFrom passed slots
    (position.imp (fun begun => ⟨begun.1, by omega⟩) id) ignores
  rw [Menu.slots, Menu.width, Menu.offer, List.cons_append, List.cons_append, offerFrom_choice,
    runs, disabled, behind]
  cases surroundings.script.choices[index.toNat]? <;> simp

/-- The two parts behind a guard, walked one after the other.  Behind the first the slots are as
open as `openFrom` says, wherever they were open in it. -/
theorem walks_parts {body rest : Menu} {isOpen : Bool} {slots : List UInt16} {behind : Nat}
    (bodyIsOpen : Bool) (start : Nat) (ends : behind = slot + body.width)
    (bodyWalks : Walks surroundings slot body) (restWalks : Walks surroundings behind rest)
    (position : isOpen = true ∧ openFrom ≤ behind ∨
      isOpen = false ∧ behind + rest.width ≤ openFrom)
    (ignores : ∀ passed, offerFrom surroundings (behind + rest.width) openFrom passed slots =
      offerFrom surroundings (behind + rest.width) openFrom false slots)
    (same : max start behind = max openFrom behind)
    (bodyPosition : bodyIsOpen = true ∧ start ≤ slot ∨ bodyIsOpen = false ∧ behind ≤ start) :
    offerFrom surroundings slot start false (body.slots slot ++ (rest.slots behind ++ slots)) = (do
      let inner ← body.offer surroundings bodyIsOpen
      let here ← rest.offer surroundings isOpen
      let later ← offerFrom surroundings (behind + rest.width) openFrom false slots
      pure (inner ++ (here ++ later))) := by
  subst ends
  have restRuns (passed : Bool) :
      offerFrom surroundings (slot + body.width) start passed
          (rest.slots (slot + body.width) ++ slots) = (do
        let here ← rest.offer surroundings isOpen
        let later ← offerFrom surroundings (slot + body.width + rest.width) openFrom false slots
        pure (here ++ later)) :=
    (offerFrom_congr same).trans (restWalks isOpen openFrom passed slots position ignores)
  rw [bodyWalks bodyIsOpen start false _ bodyPosition fun passed =>
    (restRuns passed).trans (restRuns false).symm, restRuns false]
  simp

theorem walks_guarded {condition : UInt16} {body rest : Menu}
    (noJump : condition ≠ OpCode.goto.code) (noChoice : condition ≠ OpCode.choice.code)
    (named : slot + 3 + body.width ≤ 65535) (bodyWalks : Walks surroundings (slot + 3) body)
    (restWalks : Walks surroundings (slot + 3 + body.width) rest) :
    Walks surroundings slot (.guarded condition body rest) := by
  intro isOpen openFrom passed slots position ignores
  have behind : slot + (3 + body.width + rest.width) = slot + 3 + body.width + rest.width := by
    omega
  rw [Menu.width, behind] at position ignores
  have target : (UInt16.ofNat (slot + 3 + body.width)).toNat = slot + 3 + body.width := by
    rw [UInt16.toNat_ofNat']
    omega
  have runs (bodyIsOpen : Bool) (start : Nat) := walks_parts bodyIsOpen start rfl bodyWalks
    restWalks (position.imp (fun begun => ⟨begun.1, by omega⟩) id) ignores
  rw [Menu.slots, Menu.width, behind, List.cons_append, List.cons_append, List.cons_append,
    List.append_assoc, offerFrom_condition (ofCode?_ne_of_ne_code noChoice)
      (ofCode?_ne_of_ne_code noJump), Menu.offer]
  simp only [offerFrom_goto, target, bind_assoc, pure_bind, List.append_assoc]
  rcases position with ⟨rfl, begun⟩ | ⟨rfl, ended⟩
  · rw [decide_eq_true begun]
    refine bind_congr fun holds => ?_
    cases holds with
    | true => exact runs true openFrom rfl (Or.inl ⟨rfl, by omega⟩)
    | false =>
      exact runs false (max openFrom (slot + 3 + body.width)) (by omega) (Or.inr ⟨rfl, by omega⟩)
  · have closed : decide (openFrom ≤ slot) = false := decide_eq_false (by omega)
    rw [closed]
    exact runs false (max openFrom (slot + 3 + body.width)) (by omega) (Or.inr ⟨rfl, by omega⟩)

theorem walks_of_isWritable {menu : Menu} (writable : menu.IsWritable slot) :
    Walks surroundings slot menu := by
  induction menu generalizing slot with
  | nil => exact walks_nil
  | choice index rest inductionHypothesis => exact walks_choice (inductionHypothesis writable)
  | guarded condition body rest bodyHypothesis restHypothesis =>
    obtain ⟨noJump, noChoice, named, bodyWritable, restWritable⟩ := writable
    exact walks_guarded noJump noChoice named (bodyHypothesis bodyWritable)
      (restHypothesis restWritable)

/-- The choice set that is written for a menu offers what the menu does: all choices of the menu in
order, each disabled just if a guard around it did not hold, with the scene that the conditions
leave. -/
theorem offerChoices_slots {menu : Menu} (writable : menu.IsWritable 0) :
    offerChoices surroundings (menu.slots 0).toArray = menu.offer surroundings true ∧
      ∀ scene, (((offerChoices surroundings (menu.slots 0).toArray).run scene).1.map
        fun choice => (choice.next, choice.text)) =
          (menu.listed surroundings.script).map fun choice => (choice.next, choice.text) := by
  have runs : offerChoices surroundings (menu.slots 0).toArray = menu.offer surroundings true := by
    have walks : Walks surroundings 0 menu := walks_of_isWritable writable
    have walked := walks true 0 false [] (Or.inl ⟨rfl, Nat.zero_le 0⟩) fun passed => rfl
    simpa [offerChoices, offerFrom] using walked
  refine ⟨runs, fun scene => ?_⟩
  rw [runs]
  exact Menu.map_offer fun choice disabled => rfl

/-- A script with three choices, and an instruction that asks the host. -/
def tavern : Script :=
  { Script.empty with
    strings := ["agrees"]
    choices := [⟨.finish, "ale", true⟩, ⟨.finish, "cellar", false⟩, ⟨.finish, "leave", true⟩]
    instructions := [#[OpCode.func.code, 0, 0]] }

/-- A host that agrees every other time. -/
def fickle : Bridge Nat :=
  Bridge.empty.insertMethod "agrees"
    ⟨[], .bool, fun _ asked => (.bool (asked % 2 = 0), asked + 1)⟩

/-- The second guard is asked, does not hold and hides the third, so that the last is asked next. -/
def nestedMenu : Menu :=
  .guarded 0 (.choice 0 (.guarded 0 (.guarded 0 .nil (.choice 1 .nil)) .nil))
    (.guarded 0 (.choice 2 .nil) (.guarded 1 (.choice 2 .nil) .nil))

theorem offerChoices_nestedMenu :
    nestedMenu.IsWritable 0 ∧
      offerChoices ⟨tavern, fickle⟩ (nestedMenu.slots 0).toArray =
        nestedMenu.offer ⟨tavern, fickle⟩ true ∧
      (((offerChoices ⟨tavern, fickle⟩ (nestedMenu.slots 0).toArray).run ⟨.empty, [], 0⟩).1.map
        fun choice => (choice.text, choice.disabled)) =
          [("ale", false), ("cellar", true), ("leave", false), ("leave", true)] ∧
      ((offerChoices ⟨tavern, fickle⟩ (nestedMenu.slots 0).toArray).run ⟨.empty, [], 0⟩).2.host =
        3 :=
  ⟨by decide, (offerChoices_slots (by decide)).1, by decide +kernel, by decide +kernel⟩

end Staging

end Roleplay
