import Roleplay.Proofs.Script.Saving
import Roleplay.Proofs.Session.Lifecycle
import Roleplay.Session.File

/-! # Saved sessions come back

A snapshot that is written as JSON is read back with its statement, its speakers and its variables.
JSON has no text for a number that is not finite; such a variable comes back void.

* `Value.kept` is what a value comes back as;
* `Value.readsAs`, `Speaker.readsAs` and their kin: what the parts of a snapshot are read as;
* `SessionSnapshot.read_toTree` puts them together;
* `Session.read_save` says which sessions come back as they were saved.
-/

namespace Roleplay

open Roleplay.Json

variable {room : Nat}

/-! ## Values -/

namespace Value

/-- What a value comes back as once it has been written. -/
def kept : Value → Value
  | float number => if Single.isFinite number then float number else void
  | value => value

/-- Whether no number in the value is lost. -/
def IsFinite (value : Value) : Prop :=
  ∀ number, value = float number → Single.isFinite number = true

/-- Whether a number that is written as digits is read back from them. -/
def IsFaithful (value : Value) : Prop :=
  ∀ number, value = float number → Single.isFinite number = true → Json.IsFaithful number

@[simp] theorem isFinite_float {number : Float32} :
    (float number).IsFinite ↔ Single.isFinite number = true :=
  ⟨fun finite => finite number rfl, fun finite _ same => Value.float.inj same ▸ finite⟩

@[simp] theorem isFaithful_float {number : Float32} :
    (float number).IsFaithful ↔ (Single.isFinite number = true → Json.IsFaithful number) :=
  ⟨fun faithful => faithful number rfl, fun faithful _ same => Value.float.inj same ▸ faithful⟩

theorem kept_eq_self_iff {value : Value} : value.kept = value ↔ value.IsFinite := by
  cases value with
  | float number => simp [kept]
  | _ => simp [kept, IsFinite]

theorem readsAs {value : Value} (faithful : value.IsFaithful) :
    value.toTree.ReadsAs reader room value.kept := by
  cases value with
  | void => exact ⟨_, Tree.reads_null, rfl⟩
  | bool truth => exact ⟨_, Tree.reads_bool, rfl⟩
  | string text => exact ⟨_, Tree.reads_string, congrArg (Option.map string) decodeText_map_pieceOf⟩
  | float number =>
    rw [kept]
    split
    · rename_i finite
      obtain ⟨digits, reads, read⟩ := (Value.isFaithful_float.1 faithful finite).reads
      exact ⟨_, reads, congrArg (Option.map float) read⟩
    · -- the text is that of `null`
      rename_i infinite
      exact ⟨_, Tree.reads_null.congr (if_neg infinite), rfl⟩

end Value

namespace Storage

theorem readsAs {storage : Storage} (faithful : ∀ entry ∈ storage.entries, entry.2.IsFaithful) :
    (toTree storage).ReadsAs reader (room + 1) (storage.mapValues fun _ => Value.kept) :=
  readsAs_dictionary fun entry member => Value.readsAs (faithful entry member)

theorem mapValues_kept_eq_self_iff {storage : Storage} :
    (storage.mapValues fun _ => Value.kept) = storage ↔
      ∀ entry ∈ storage.entries, entry.2.IsFinite := by
  constructor
  · intro same entry member
    have unchanged := congrArg (fun storage => Dictionary.get? storage entry.1) same
    simp only [Dictionary.get?_mapValues] at unchanged
    rw [Dictionary.get?_eq_some_iff_mem.2 member] at unchanged
    exact Value.kept_eq_self_iff.1 (Option.some.inj unchanged)
  · intro finite
    apply Dictionary.ext_get?
    intro key
    rw [Dictionary.get?_mapValues]
    cases found : Dictionary.get? storage key with
    | none => rfl
    | some value =>
      have stored := finite (key, value) (Dictionary.get?_eq_some_iff_mem.1 found)
      exact congrArg some (Value.kept_eq_self_iff.2 stored)

end Storage

/-! ## Structures -/

theorem Speaker.readsAs {speaker : Speaker} :
    speaker.toTree.ReadsAs Speaker.reader (room + 1) speaker := by
  refine exists_reads_object [
      ("speakerId", .string (speaker.speakerId.toList.map pieceOf)),
      ("displayName", .string (speaker.displayName.toList.map pieceOf)),
      ("portrait", .string (speaker.portrait.toList.map pieceOf)),
      ("mood", .string (speaker.mood.toList.map pieceOf)),
      ("globalMood", .string (speaker.globalMood.toList.map pieceOf))]
    (.cons ⟨rfl, Tree.reads_string⟩ (.cons ⟨rfl, Tree.reads_string⟩
      (.cons ⟨rfl, Tree.reads_string⟩ (.cons ⟨rfl, Tree.reads_string⟩
        (.cons ⟨rfl, Tree.reads_string⟩ .nil))))) (by simp) (by simp) ?_
  simp [Record.required, List.lookup_cons, Reader.string, decodeText_map_pieceOf]

namespace SessionSnapshot

theorem readsAs_current {current : Option Jump}
    (fits : ∀ jump ∈ current, jump.index ≤ 0xffffffffffffffff) :
    ((current.map Jump.toTree).getD .null).ReadsAs (Reader.option Jump.reader) (room + 1)
      current := by
  cases current with
  | none => exact ⟨_, Tree.reads_null, rfl⟩
  | some jump =>
    obtain ⟨raw, reads, read⟩ := Jump.readsAs (fits jump rfl)
    refine ⟨raw, reads, ?_⟩
    -- a jump is not read from `null`, so the option does not take it for nothing
    rw [Reader.option, read]
    · rfl
    · rintro rfl
      cases read

/-- What a snapshot comes back as once it has been written. -/
def kept (snapshot : SessionSnapshot) : SessionSnapshot :=
  { snapshot with storage := snapshot.storage.mapValues fun _ => Value.kept }

theorem kept_eq_self_iff {snapshot : SessionSnapshot} :
    snapshot.kept = snapshot ↔ ∀ entry ∈ snapshot.storage.entries, entry.2.IsFinite := by
  rw [← Storage.mapValues_kept_eq_self_iff]
  exact ⟨congrArg SessionSnapshot.storage, fun same => by rw [kept, same]⟩

theorem readsAs {snapshot : SessionSnapshot}
    (fits : ∀ jump ∈ snapshot.current, jump.index ≤ 0xffffffffffffffff)
    (faithful : ∀ entry ∈ snapshot.storage.entries, entry.2.IsFaithful) :
    snapshot.toTree.ReadsAs reader (room + 3) snapshot.kept := by
  have readsStorage : (Storage.toTree snapshot.storage).ReadsAs Storage.reader (room + 2)
      snapshot.kept.storage :=
    Storage.readsAs faithful
  have readsSpeakers : (Tree.array (snapshot.speakers.map Speaker.toTree)).ReadsAs
      (Reader.list Speaker.reader) (room + 2) (snapshot.speakers.map id) :=
    readsAs_list fun _ _ => Speaker.readsAs
  have readsCurrent : ((snapshot.current.map Jump.toTree).getD .null).ReadsAs
      (Reader.option Jump.reader) (room + 2) snapshot.current :=
    readsAs_current fits
  obtain ⟨current, readsCurrent, readCurrent⟩ := readsCurrent
  obtain ⟨storage, readsStorage, readStorage⟩ := readsStorage
  obtain ⟨speakers, readsSpeakers, readSpeakers⟩ := readsSpeakers
  refine exists_reads_object [("current", current), ("storage", storage), ("speakers", speakers)]
    (.cons ⟨rfl, readsCurrent⟩ (.cons ⟨rfl, readsStorage⟩ (.cons ⟨rfl, readsSpeakers⟩ .nil)))
    (by simp) (by simp) ?_
  simp [Record.required, Record.optional, List.lookup_cons, readCurrent, readStorage, readSpeakers, kept]

theorem read_toTree {snapshot : SessionSnapshot}
    (fits : ∀ jump ∈ snapshot.current, jump.index ≤ 0xffffffffffffffff)
    (faithful : ∀ entry ∈ snapshot.storage.entries, entry.2.IsFaithful) :
    read? reader snapshot.toTree.text = some snapshot.kept :=
  read?_of_readsAs (readsAs fits faithful)

end SessionSnapshot

/-! ## Sessions -/

variable {Host : Type}

/-- Whether no property and no method of the bridge ever gives a number that is not finite. -/
def Bridge.IsFinite (bridge : Bridge Host) : Prop :=
  (∀ name, ∀ property ∈ bridge.property? name, ∀ host, (property.get host).1.IsFinite) ∧
    ∀ name, ∀ method ∈ bridge.method? name, ∀ arguments host,
      (method.call arguments host).1.IsFinite

namespace Session

/-- A saved session is read back with its statement and its speakers, and with all variables but
those whose numbers are not finite, which are void.  So it comes back as it was saved just if it
stores no such number.  Indices are numbers of 64 bits. -/
theorem read_save {session : Session Host}
    (fits : ∀ jump ∈ session.current, jump.index ≤ 0xffffffffffffffff)
    (faithful : ∀ entry ∈ session.stage.storage.entries, entry.2.IsFaithful) :
    read? SessionSnapshot.reader session.save.toTree.text = some session.save.kept ∧
      (read? SessionSnapshot.reader session.save.toTree.text = some session.save ↔
        ∀ entry ∈ session.stage.storage.entries, entry.2.IsFinite) := by
  have read : read? SessionSnapshot.reader session.save.toTree.text = some session.save.kept :=
    SessionSnapshot.read_toTree fits faithful
  refine ⟨read, ?_⟩
  rw [read, Option.some_inj]
  exact SessionSnapshot.kept_eq_self_iff

/-- A script that divides one by a number. -/
def dividing (divisor : Float32) : Production Unit where
  script := { Script.empty with
    sections := [⟨none, ⟨.instruction, 0⟩⟩]
    statements := [⟨0, .finish⟩]
    strings := ["share"]
    floats := [1, divisor]
    instructions := [#[OpCode.assign.code, 0, (OpCode.arithmetic .div).code, OpCode.float.code, 0,
      OpCode.float.code, 1]] }
  config := .default
  presenter :=
    { shownText := fun text _ => text
      showLine := fun _ => pure (.ok ())
      offerChoices := fun _ => pure (.ok 0)
      close := pure (.ok ()) }

/-- The session behind the division. -/
def divided (divisor : Float32) : Session Unit :=
  ([.start, .step, .step] : List Command).foldl (Session.after (dividing divisor))
    (.new (.new (dividing divisor).script .empty .empty ()))

theorem reachable_divided {divisor : Float32} :
    Reachable (dividing divisor) (.new (dividing divisor).script .empty .empty ())
      (divided divisor) :=
  .command (.command (.command .new .start) .step) .step

theorem current_divided {divisor : Float32} : (divided divisor).current = some .finish := rfl

/-- A half comes back. -/
theorem read_save_half :
    (divided 2).stage.storage.entries = [("share", .float 0.5)] ∧
      read? SessionSnapshot.reader (divided 2).save.toTree.text = some (divided 2).save := by
  have entries : (divided 2).stage.storage.entries = [("share", .float 0.5)] := by decide +kernel
  have fits : ∀ jump ∈ (divided 2).current, jump.index ≤ 0xffffffffffffffff := by
    simp [current_divided, Jump.finish]
  have faithful : ∀ entry ∈ (divided 2).stage.storage.entries, entry.2.IsFaithful := by
    have half : Json.IsFaithful 0.5 := by decide +kernel
    simp [entries, half]
  have finite : ∀ entry ∈ (divided 2).stage.storage.entries, entry.2.IsFinite := by
    have half : Single.isFinite 0.5 = true := by decide +kernel
    simp [entries, half]
  exact ⟨entries, (read_save fits faithful).2.2 finite⟩

/-- There are sessions that do not come back although their scripts and their bridges have finite
numbers only. -/
theorem not_forall_read_save :
    ¬∀ (production : Production Unit) (bridge : Bridge Unit) (session : Session Unit),
      (∀ number ∈ production.script.floats, Single.isFinite number = true) →
      bridge.IsFinite →
      Reachable production (.new production.script bridge .empty ()) session →
      (∀ jump ∈ session.current, jump.index ≤ 0xffffffffffffffff) →
      (∀ entry ∈ session.stage.storage.entries, entry.2.IsFaithful) →
      read? SessionSnapshot.reader session.save.toTree.text = some session.save := by
  intro all
  have entries : (divided 0).stage.storage.entries = [("share", .float Single.infinity)] := by
    decide +kernel
  have infinite : Single.isFinite Single.infinity = false := by decide +kernel
  have literals : ∀ number ∈ (dividing 0).script.floats, Single.isFinite number = true := by
    decide +kernel
  have bridge : (Bridge.empty : Bridge Unit).IsFinite :=
    ⟨fun _ _ found => (nomatch found), fun _ _ found => (nomatch found)⟩
  have fits : ∀ jump ∈ (divided 0).current, jump.index ≤ 0xffffffffffffffff := by
    simp [current_divided, Jump.finish]
  -- there is no digit to lose
  have faithful : ∀ entry ∈ (divided 0).stage.storage.entries, entry.2.IsFaithful := by
    simp [entries, infinite]
  have kept : (divided 0).save.kept = (divided 0).save :=
    Option.some.inj ((SessionSnapshot.read_toTree fits faithful).symm.trans
      (all _ _ _ literals bridge reachable_divided fits faithful))
  have finite : ∀ entry ∈ (divided 0).stage.storage.entries, entry.2.IsFinite :=
    SessionSnapshot.kept_eq_self_iff.1 kept
  simp [entries, infinite] at finite

end Session

end Roleplay
