import Roleplay.Json.Record
import Roleplay.Proofs.Json.Scanning

/-! # Reading typed values back

What the readers make of the trees that the writers write.

* `reads_integer` and `integer?_ofInt`: whole numbers of 64 bits are read back;
* `Tree.ReadsAs` says that a written tree is read as a value, and `read?_of_readsAs` applies it to a
  whole text;
* `readsAs_list` and `readsAs_dictionary` compose it, `exists_reads_object` reads a structure;
* `IsFaithful` is what has to hold of a number in single precision, and `exists_reads_singles` says
  which lists of numbers are read back;
* `Reader.Gives` says what a reader gives, whatever the file.
-/

namespace Roleplay.Json

open Roleplay.Text

/-! ## Whole numbers -/

theorem takeDigitSymbols_map {digits : List Char} (all : ∀ c ∈ digits, c.isDigit = true) :
    takeDigitSymbols (digits.map some) = (digits, []) := by
  induction digits with
  | nil => rfl
  | cons c digits inductionHypothesis =>
    rw [List.map_cons, takeDigitSymbols, if_pos (all c (by simp)),
      inductionHypothesis fun other member => all other (.tail _ member)]

theorem head?_toDigits_ne_zero {n : Nat} (positive : 0 < n) :
    (Nat.toDigits 10 n).head? ≠ some '0' := by
  induction n using Nat.strongRecOn with
  | ind n inductionHypothesis =>
    by_cases single : n < 10
    · rw [Nat.toDigits_of_lt_base single]
      have digits : ∀ digit < 10, 0 < digit → digit.digitChar ≠ '0' := by decide
      simpa using digits n single positive
    · rw [Nat.toDigits_of_base_le (by decide) (Nat.not_lt.1 single),
        List.head?_append_of_ne_nil _ Nat.toDigits_ne_nil]
      exact inductionHypothesis (n / 10) (by omega) (by omega)

theorem digitsValue_toDigits {n : Nat} : digitsValue (Nat.toDigits 10 n) = n :=
  Nat.ofDigitChars_toDigits (by decide) (by decide)

theorem takeUnsigned?_toDigits {negative : Bool} {n : Nat} :
    takeUnsigned? negative ((Nat.toDigits 10 n).map some) =
      some (⟨negative, Nat.toDigits 10 n, [], none⟩, []) := by
  -- a numeral may begin with a zero only if that is all of it
  have leading : ((Nat.toDigits 10 n).isEmpty ||
      ((Nat.toDigits 10 n).head? = some '0' && (Nat.toDigits 10 n).length > 1)) = false := by
    by_cases single : n < 10
    · simp [Nat.toDigits_of_lt_base single]
    · simp [Nat.toDigits_ne_nil, head?_toDigits_ne_zero (show 0 < n by omega)]
  rw [takeUnsigned?, takeDigitSymbols_map fun _ member =>
    Nat.isDigit_of_mem_toDigits (by decide) (by decide) member]
  dsimp only
  rw [leading]
  rfl

theorem chars_integer {n : Int} : (Tree.integer n).chars =
    (if n < 0 then ['-'] else []) ++ Nat.toDigits 10 n.natAbs := by
  cases n with
  | ofNat n =>
    change (String.ofList (Nat.toDigits 10 n)).toList = _
    rw [String.toList_ofList, if_neg (by simp)]
    rfl
  | negSucc n =>
    change ("-" ++ String.ofList (Nat.toDigits 10 (n + 1))).toList = _
    rw [String.toList_append, if_pos (Int.negSucc_lt_zero n)]
    exact congrArg ('-' :: ·) String.toList_ofList

/-- The digits of a whole number as they are taken from its written form. -/
def Number.ofInt (n : Int) : Number := ⟨n < 0, Nat.toDigits 10 n.natAbs, [], none⟩

theorem takeNumber?_chars_integer {n : Int} :
    takeNumber? ((Tree.integer n).chars.map some) = some (Number.ofInt n, []) := by
  rw [chars_integer, Number.ofInt]
  split
  · rename_i negative
    rw [decide_eq_true negative]
    exact takeUnsigned?_toDigits
  · rename_i positive
    rw [decide_eq_false positive, List.nil_append, ← takeUnsigned?_toDigits]
    cases shape : Nat.toDigits 10 n.natAbs with
    | nil => exact absurd shape Nat.toDigits_ne_nil
    | cons c digits =>
      have digit : c.isDigit = true :=
        Nat.isDigit_of_mem_toDigits (by decide) (by decide) (shape ▸ List.mem_cons_self)
      -- the first digit is no minus
      rw [List.map_cons, takeNumber?]
      rintro _ ⟨⟩
      exact absurd digit (by decide)

theorem reads_integer {n : Int} : (Tree.integer n).Reads (.number (.ofInt n)) := by
  have taken : takeNumber? (skipBlanks ((Tree.integer n).chars.map some)) =
      some (Number.ofInt n, []) := by
    rw [skipBlanks_of_takeNumber? takeNumber?_chars_integer]
    exact takeNumber?_chars_integer
  exact Tree.reads_of_takeNumber? taken rfl

theorem integer?_ofInt {n : Int} (low : -0x8000000000000000 ≤ n) (high : n < 0x10000000000000000) :
    (Number.ofInt n).integer? = some n := by
  rw [Number.integer?, Number.ofInt]
  simp only [digitsValue_toDigits, List.isEmpty_nil, Option.isNone_none, Bool.and_self, if_true,
    decide_eq_true_eq]
  split
  · rw [if_neg (by omega)]
    exact congrArg some (by omega)
  · rw [if_pos (by omega)]
    exact congrArg some (by omega)

/-! ## Typed readers -/

variable {α β : Type} {room : Nat}

/-- Wherever the tree is written, the reader makes the value of it. -/
def Tree.ReadsAs (reader : Reader α) (room : Nat) (tree : Tree) (value : α) : Prop :=
  ∃ raw, tree.Reads raw ∧ reader room raw = some value

theorem read?_of_reads {reader : Reader α} {tree : Tree} {raw : Raw} (reads : tree.Reads raw) :
    read? reader tree.text = reader maxNesting raw := by
  rw [read?, Tree.ofText?_of_reads reads, Option.bind_some]

theorem read?_of_readsAs {reader : Reader α} {tree : Tree} {value : α}
    (reads : tree.ReadsAs reader maxNesting value) : read? reader tree.text = some value := by
  obtain ⟨raw, reads, read⟩ := reads
  exact (read?_of_reads reads).trans read

theorem readsAs_integer {low high n : Int} (above : low ≤ n) (below : n ≤ high)
    (wide : -0x8000000000000000 ≤ low ∧ high < 0x10000000000000000) :
    (Tree.integer n).ReadsAs (Reader.integer low high) room n := by
  refine ⟨_, reads_integer, ?_⟩
  rw [Reader.integer, integer?_ofInt (by omega) (by omega), Option.filter_some_pos (by simp; omega)]

theorem readsAs_natural {high n : Nat} (fits : n ≤ high) (wide : high < 0x10000000000000000) :
    (Tree.integer n).ReadsAs (Reader.natural high) room n := by
  obtain ⟨raw, reads, read⟩ : (Tree.integer n).ReadsAs (Reader.integer 0 high) room n :=
    readsAs_integer (Int.natCast_nonneg n) (Int.ofNat_le.2 fits) ⟨by omega, by omega⟩
  exact ⟨raw, reads, congrArg (Option.map Int.toNat) read⟩

theorem readsAs_index {n : Nat} (fits : n ≤ 0xffffffffffffffff) :
    (Tree.integer n).ReadsAs Reader.index room n :=
  readsAs_natural fits (by decide)

theorem readsAs_string {text : String} :
    (Tree.string text).ReadsAs Reader.string room text :=
  ⟨_, Tree.reads_string, decodeText_map_pieceOf⟩

/-- Items that are read one by one, each as what the function gives if it gives anything, are read
together. -/
theorem exists_raws {reader : Reader β} {toTree : α → Tree} {f : α → Option β} {items : List α}
    (reads : ∀ item ∈ items, ∃ raw, (toTree item).Reads raw ∧ reader room raw = f item) :
    ∃ raws, List.Forall₂ Tree.Reads (items.map toTree) raws ∧
      raws.mapM (reader room) = items.mapM f := by
  induction items with
  | nil => exact ⟨[], .nil, rfl⟩
  | cons item items inductionHypothesis =>
    obtain ⟨raw, first, read⟩ := reads item (by simp)
    obtain ⟨raws, others, readAll⟩ :=
      inductionHypothesis fun other member => reads other (.tail _ member)
    refine ⟨raw :: raws, .cons first others, ?_⟩
    rw [List.mapM_cons, List.mapM_cons, read, readAll]

theorem readsAs_list {reader : Reader β} {toTree : α → Tree} {f : α → β} {items : List α}
    (reads : ∀ item ∈ items, (toTree item).ReadsAs reader room (f item)) :
    (Tree.array (items.map toTree)).ReadsAs (Reader.list reader) (room + 1) (items.map f) := by
  obtain ⟨raws, written, read⟩ := exists_raws reads
  exact ⟨_, Tree.reads_array written, read.trans List.mapM_pure⟩

theorem readsAs_list_self {reader : Reader α} {toTree : α → Tree} {items : List α}
    (reads : ∀ item ∈ items, (toTree item).ReadsAs reader room item) :
    (Tree.array (items.map toTree)).ReadsAs (Reader.list reader) (room + 1) items := by
  simpa using readsAs_list (f := id) reads

/-- Members that are read one by one are read together, each under its key. -/
theorem exists_rawMembers {reader : Reader β} {toTree : α → Tree} {f : α → β}
    {entries : List (String × α)}
    (reads : ∀ entry ∈ entries, (toTree entry.2).ReadsAs reader room (f entry.2)) :
    ∃ raws, List.Forall₂ (fun member raw => member.1 = raw.1 ∧ member.2.Reads raw.2)
        (entries.map fun entry => (entry.1, toTree entry.2)) raws ∧
      (raws.map Tree.rawMember).mapM (fun (key, raw) => do
        let name ← decodeText key
        let value ← reader room raw
        some (name, value)) = some (entries.map fun entry => (entry.1, f entry.2)) := by
  induction entries with
  | nil => exact ⟨[], .nil, rfl⟩
  | cons entry entries inductionHypothesis =>
    obtain ⟨raw, first, read⟩ := reads entry (by simp)
    obtain ⟨raws, others, readAll⟩ :=
      inductionHypothesis fun other member => reads other (.tail _ member)
    refine ⟨(entry.1, raw) :: raws, .cons ⟨rfl, first⟩ others, ?_⟩
    rw [List.map_cons, List.mapM_cons, readAll]
    simp [Tree.rawMember, decodeText_map_pieceOf, read]

theorem readsAs_dictionary {reader : Reader β} {toTree : α → Tree} {f : α → β}
    {dictionary : Dictionary α}
    (reads : ∀ entry ∈ dictionary.entries, (toTree entry.2).ReadsAs reader room (f entry.2)) :
    (Tree.object (dictionary.entries.map fun entry => (entry.1, toTree entry.2))).ReadsAs
      (Reader.dictionary reader) (room + 1) (dictionary.mapValues fun _ => f) := by
  obtain ⟨raws, written, read⟩ := exists_rawMembers reads
  refine ⟨_, Tree.reads_object written, ?_⟩
  change Option.map Dictionary.ofList (List.mapM _ (raws.map Tree.rawMember)) = _
  have whole : Dictionary.ofList (dictionary.mapValues fun _ => f).entries =
      dictionary.mapValues fun _ => f :=
    Dictionary.ofList_entries
  rw [read, Option.map_some]
  exact congrArg some whole

theorem mapM_rawMember {raws : List (String × Raw)} : (raws.map Tree.rawMember).mapM
    (fun (key, raw) => (decodeText key).map fun name => (name, raw)) = some raws := by
  induction raws with
  | nil => rfl
  | cons raw raws inductionHypothesis =>
    rw [List.map_cons, List.mapM_cons, inductionHypothesis]
    simp [Tree.rawMember, decodeText_map_pieceOf]

/-- The record of a structure whose members are all known, and not repeated. -/
theorem Record.ofRaw?_map_rawMember {fields : List String} {raws : List (String × Raw)}
    (known : ∀ raw ∈ raws, raw.1 ∈ fields) (distinct : (raws.map (·.1)).Nodup) :
    Record.ofRaw? fields (room + 1) (.object (raws.map Tree.rawMember)) =
      some ⟨false, raws, room⟩ := by
  have all : (raws.filter fun member => fields.contains member.1) = raws :=
    List.filter_eq_self.2 fun raw member => by simpa using known raw member
  change Option.map _ (Record.ofMembers? fields (raws.map Tree.rawMember)) = _
  rw [Record.ofMembers?]
  simp only [mapM_rawMember, Option.bind_some, all, if_pos distinct, Option.map_some]

/-- A structure is read as what its reader makes of the members, each as the trees are read. -/
theorem exists_reads_object {fields : List String} {read : Record → Option α}
    {members : List (String × Tree)} {made : Option α} (raws : List (String × Raw))
    (written : List.Forall₂ (fun member raw => member.1 = raw.1 ∧ member.2.Reads raw.2) members
      raws)
    (known : ∀ raw ∈ raws, raw.1 ∈ fields) (distinct : (raws.map (·.1)).Nodup)
    (makes : read ⟨false, raws, room⟩ = made) :
    ∃ raw, (Tree.object members).Reads raw ∧
      (Record.ofRaw? fields (room + 1) raw).bind read = made := by
  refine ⟨_, Tree.reads_object written, ?_⟩
  rw [Record.ofRaw?_map_rawMember known distinct, Option.bind_some, makes]

/-! ## Numbers in single precision -/

/-- Whether a number is read back from its written form. -/
def IsFaithful (number : Float32) : Prop :=
  read? Reader.single (Tree.single number).text = some number

instance {number : Float32} : Decidable (IsFaithful number) :=
  inferInstanceAs (Decidable (_ = some number))

theorem IsFaithful.reads {number : Float32} (faithful : IsFaithful number) :
    ∃ digits : Number, (Tree.single number).Reads (.number digits) ∧
      digits.single? = some number := by
  rw [IsFaithful, read?] at faithful
  obtain ⟨raw, scanned, read⟩ := Option.bind_eq_some_iff.1 faithful
  cases raw with
  | number digits => exact ⟨digits, Tree.reads_number scanned, read⟩
  | _ => cases read

theorem IsFaithful.readsAs {number : Float32} (faithful : IsFaithful number) :
    (Tree.single number).ReadsAs Reader.single room number := by
  obtain ⟨digits, reads, read⟩ := faithful.reads
  exact ⟨_, reads, read⟩

/-- A number that is not finite is written `null`, and no number is read from that. -/
theorem exists_reads_single {number : Float32}
    (faithful : Single.isFinite number = true → IsFaithful number) :
    ∃ raw, (Tree.single number).Reads raw ∧
      Reader.single room raw = if Single.isFinite number = true then some number else none := by
  split
  case isTrue finite => exact (faithful finite).readsAs
  case isFalse infinite => exact ⟨_, Tree.reads_null.congr (if_neg infinite), rfl⟩

theorem mapM_ite_some {items : List α} {holds : α → Bool} :
    (items.mapM fun item => if holds item = true then some item else none) =
      if ∀ item ∈ items, holds item = true then some items else none := by
  induction items with
  | nil => rfl
  | cons item items inductionHypothesis =>
    rw [List.mapM_cons, inductionHypothesis]
    simp only [List.forall_mem_cons]
    by_cases first : holds item = true
    · rw [if_pos first]
      simp only [first, true_and]
      split <;> rfl
    · rw [if_neg first]
      simp only [first]
      rfl

/-- So numbers are read together just if all of them are finite. -/
theorem exists_reads_singles {numbers : List Float32}
    (faithful : ∀ number ∈ numbers, Single.isFinite number = true → IsFaithful number) :
    ∃ raw, (Tree.array (numbers.map .single)).Reads raw ∧
      Reader.list Reader.single (room + 1) raw =
        if ∀ number ∈ numbers, Single.isFinite number = true then some numbers else none := by
  obtain ⟨raws, written, read⟩ := exists_raws fun number member =>
    @exists_reads_single room number (faithful number member)
  exact ⟨_, Tree.reads_array written, read.trans mapM_ite_some⟩

/-! ## What readers give -/

namespace Reader

/-- Every value that the reader makes of a raw tree has the property. -/
def Gives (reader : Reader α) (property : α → Prop) : Prop :=
  ∀ room raw value, reader room raw = some value → property value

variable {reader : Reader α} {property : α → Prop}

theorem gives_integer {low high : Int} :
    (integer low high).Gives fun n => low ≤ n ∧ n ≤ high := by
  intro room raw n read
  cases raw with
  | number number =>
    have within := (Option.filter_eq_some_iff.1 read).2
    rwa [Bool.and_eq_true, decide_eq_true_eq, decide_eq_true_eq] at within
  | _ => cases read

theorem gives_natural {high : Nat} : (natural high).Gives (· ≤ high) := by
  intro room raw n read
  obtain ⟨whole, readWhole, rfl⟩ := Option.map_eq_some_iff.1 read
  have within := gives_integer room raw whole readWhole
  exact Int.toNat_le.2 within.2

theorem Gives.list (gives : reader.Gives property) :
    (list reader).Gives fun items => ∀ item ∈ items, property item := by
  rintro (_ | room) (_ | _ | _ | _ | raws | _) items read <;> try cases read
  change raws.mapM (reader room) = some items at read
  induction raws generalizing items with
  | nil =>
    cases read
    simp
  | cons raw raws inductionHypothesis =>
    simp only [List.mapM_cons, Option.bind_eq_bind, Option.bind_eq_some_iff, Option.pure_def,
      Option.some.injEq] at read
    obtain ⟨item, readItem, others, readOthers, rfl⟩ := read
    rw [List.forall_mem_cons]
    exact ⟨gives room raw item readItem, inductionHypothesis others readOthers⟩

theorem Gives.required (gives : reader.Gives property) {record : Record} {field : String}
    {value : α} (read : record.required field reader = some value) : property value := by
  obtain ⟨raw, -, readRaw⟩ := Option.bind_eq_some_iff.1 read
  exact gives _ raw value readRaw

theorem Gives.withDefault (gives : reader.Gives property) {record : Record} {field : String}
    {absent value : α} (default : property absent)
    (read : record.withDefault field reader absent = some value) : property value := by
  rw [Record.withDefault] at read
  split at read
  case h_1 raw _ => exact gives _ raw value read
  case h_2 => exact Option.some.inj read ▸ default

end Reader

end Roleplay.Json
