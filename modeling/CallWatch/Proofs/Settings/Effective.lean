import CallWatch.Proofs.Number.Numeral
import CallWatch.Settings.Basic

/-! The text of a setting that counts, and what is asked of it. A reading of the layers gives what
the effective text of the setting stands for, or the value for an absent one, and fails exactly if
that text is not what is asked for. -/

namespace CallWatch

theorem bind_eq_ok_iff {ε α β : Type} {x : Except ε α} {f : α → Except ε β} {b : β} :
    x >>= f = .ok b ↔ ∃ a, x = .ok a ∧ f a = .ok b := by
  cases x <;> simp [bind, Except.bind]

theorem bind_eq_error_iff {ε α β : Type} {x : Except ε α} {f : α → Except ε β} {e : ε} :
    x >>= f = .error e ↔ x = .error e ∨ ∃ a, x = .ok a ∧ f a = .error e := by
  cases x <;> simp [bind, Except.bind]

/-- A text that is true or false, up to the case of its letters. -/
def IsFlag (text : List Char) (b : Bool) : Prop :=
  text.map Char.toLower = (Settings.flagText b).toList

/-- A numeral of a number of so many bits. -/
def IsCount (bits : Nat) (text : List Char) (n : Nat) : Prop :=
  Numeral text n ∧ n < Nat.pow 2 bits

def IsPositive (bits : Nat) (text : List Char) (n : Nat) : Prop :=
  IsCount bits text n ∧ n ≠ 0

/-- What a setting asks of its text. -/
inductive Demand
  | flag
  | count (bits : Nat)
  | positive (bits : Nat)

/-- Whether a trimmed text is what a demand asks for. -/
def Demand.Admits (text : List Char) : Demand → Prop
  | flag => ∃ b, IsFlag text b
  | count bits => ∃ n, IsCount bits text n
  | positive bits => ∃ n, IsPositive bits text n

/-- Why a trimmed text has no value of the type that a demand asks for. -/
def Demand.Fault (text : List Char) (reason : String) : Demand → Prop
  | flag => (∀ b, ¬IsFlag text b) ∧ reason = "expected true or false"
  | count bits | positive bits => ∃ e, Numeral.Fault bits text e ∧ reason = e.message

namespace Layers

variable (layers : Layers) (key : SettingKey)

/-- The texts of a setting: the property, the variable of the environment, the entry of the file. -/
def texts : List String :=
  [layers.properties[key.property]?, layers.environment[key.env]?,
    layers.file[key.property]?].filterMap id

/-- The text of a setting that counts, which is the first one that is not empty. -/
def effective? : Option String :=
  (layers.texts key).find? (· ≠ "")

/-- A value is that of a setting: it is what the effective text without the blanks around it stands
for, or the value given for an absent text. -/
def Gives {α : Type} (stands : List Char → α → Prop) (absent value : α) : Prop :=
  match layers.effective? key with
  | none => value = absent
  | some text => stands (Text.trim text.toList) value

/-- Whether a setting has no text, or one that its demand admits. -/
def Meets (demand : SettingKey × Demand) : Prop :=
  ∀ text ∈ layers.effective? demand.1, demand.2.Admits (Text.trim text.toList)

/-- The error of a setting whose text is not what is asked for. The text is given untrimmed. -/
inductive Breach : SettingKey × Demand → SettingError → Prop
  | invalid (key : SettingKey) (demand : Demand) (text reason : String)
      (effective : layers.effective? key = some text)
      (fault : demand.Fault (Text.trim text.toList) reason) :
      Breach (key, demand) (.invalidValue key.property text reason)
  | zero (key : SettingKey) (bits : Nat) (text : String)
      (effective : layers.effective? key = some text)
      (zero : IsCount bits (Text.trim text.toList) 0) :
      Breach (key, .positive bits) (.zero key.property)

/-- The error of the first setting whose demand is not met. -/
def FirstBreach (demands : List (SettingKey × Demand)) (e : SettingError) : Prop :=
  ∃ front demand rest, demands = front ++ demand :: rest ∧
    (∀ other ∈ front, layers.Meets other) ∧ layers.Breach demand e

variable {layers} {key}

theorem lookup?_eq_effective? : layers.lookup? key = layers.effective? key := by
  have hfind (text : Option String) (rest : List (Option String)) :
      ((text :: rest).filterMap id).find? (· ≠ "") =
        (present? text).or ((rest.filterMap id).find? (· ≠ "")) := by
    cases text with
    | none => rfl
    | some text =>
      rw [List.filterMap_cons_some (f := id) rfl, List.find?_cons, present?, Option.filter_some]
      split <;> simp_all
  rw [effective?, texts, hfind, hfind, hfind, List.filterMap_nil, List.find?_nil, Option.or_none,
    lookup?]

theorem string_eq (absent : String) :
    layers.string key absent = (layers.effective? key).getD absent := by
  rw [string, lookup?_eq_effective?]

section Readings

variable {α : Type} {absent : α} {read : List Char → Except String α}

theorem value_eq_ok_iff {value : α} : layers.value key absent read = .ok value ↔
    layers.Gives key (fun text a => read text = .ok a) absent value := by
  rw [Layers.value, Gives, lookup?_eq_effective?]
  cases layers.effective? key with
  | none => simp [eq_comm]
  | some text =>
    simp only
    cases read (Text.trim text.toList) <;> simp

theorem value_eq_error_iff {e : SettingError} : layers.value key absent read = .error e ↔
    ∃ text reason, layers.effective? key = some text ∧
      read (Text.trim text.toList) = .error reason ∧ e = .invalidValue key.property text reason := by
  rw [Layers.value, lookup?_eq_effective?]
  cases layers.effective? key with
  | none => simp
  | some text =>
    simp only
    cases hread : read (Text.trim text.toList) <;> simp [hread, eq_comm]

end Readings

theorem gives_congr {α : Type} {stands other : List Char → α → Prop} {absent value : α}
    (h : ∀ text, stands text value ↔ other text value) :
    layers.Gives key stands absent value ↔ layers.Gives key other absent value := by
  unfold Gives
  split
  · exact Iff.rfl
  · exact h _

theorem readFlag_eq_ok_iff {text : List Char} {b : Bool} : readFlag text = .ok b ↔ IsFlag text b := by
  unfold readFlag IsFlag
  generalize text.map Char.toLower = lower
  by_cases htrue : lower = "true".toList
  · subst htrue
    cases b <;> simp [Settings.flagText]
  · by_cases hfalse : lower = "false".toList
    · subst hfalse
      cases b <;> simp [Settings.flagText]
    · cases b <;> simp_all [Settings.flagText]

theorem readFlag_eq_error_iff {text : List Char} {reason : String} :
    readFlag text = .error reason ↔ Demand.flag.Fault text reason := by
  simp only [Demand.Fault, ← readFlag_eq_ok_iff]
  unfold readFlag
  extract_lets lower
  split <;> [skip; split] <;> simp [eq_comm]

theorem flag_eq_ok_iff {absent b : Bool} :
    layers.flag key absent = .ok b ↔ layers.Gives key IsFlag absent b := by
  rw [flag, value_eq_ok_iff]
  exact gives_congr fun _ => readFlag_eq_ok_iff

section Numbers

variable {bits : Nat} {absent : Nat} {v : Int}

theorem mapError_read_eq_ok_iff {text : List Char} :
    ((IntegerRange.unsigned bits).read text).mapError IntegerError.message = .ok v ↔
      ∃ n : Nat, v = n ∧ IsCount bits text n := by
  have hread : (IntegerRange.unsigned bits).read text = .ok v ↔ _ := IntegerRange.read_eq_ok_iff
  simp only [IsCount, and_comm (a := Numeral _ _), ← hread]
  cases (IntegerRange.unsigned bits).read text <;> simp [Except.mapError]

theorem mapError_read_eq_error_iff {text : List Char} {reason : String} :
    ((IntegerRange.unsigned bits).read text).mapError IntegerError.message = .error reason ↔
      ∃ e, Numeral.Fault bits text e ∧ reason = e.message := by
  simp only [← IntegerRange.read_eq_error_iff]
  cases (IntegerRange.unsigned bits).read text <;> simp [Except.mapError, eq_comm]

theorem integer_eq_ok_iff : layers.integer (.unsigned bits) key (absent : Int) = .ok v ↔
    ∃ n : Nat, v = n ∧ layers.Gives key (IsCount bits) absent n := by
  rw [integer, value_eq_ok_iff, Gives]
  unfold Gives
  cases layers.effective? key with
  | none => simp
  | some text => exact mapError_read_eq_ok_iff

theorem gives_positive_iff (habsent : absent ≠ 0) {n : Nat} :
    layers.Gives key (IsPositive bits) absent n ↔ layers.Gives key (IsCount bits) absent n ∧ n ≠ 0 := by
  unfold Gives
  cases layers.effective? key with
  | none => exact ⟨fun h => ⟨h, h ▸ habsent⟩, And.left⟩
  | some text => exact Iff.rfl

theorem positive_eq_ok_iff (habsent : absent ≠ 0) :
    layers.positive (.unsigned bits) key (absent : Int) = .ok v ↔
      ∃ n : Nat, v = n ∧ layers.Gives key (IsPositive bits) absent n := by
  simp only [positive, bind_eq_ok_iff, integer_eq_ok_iff, gives_positive_iff habsent]
  constructor
  · rintro ⟨_, ⟨n, rfl, hn⟩, h⟩
    by_cases hzero : (n : Int) = 0
    · simp [hzero, throw, throwThe, MonadExceptOf.throw] at h
    · rw [if_neg hzero] at h
      exact ⟨n, (Except.ok.inj h).symm, hn, by omega⟩
  · rintro ⟨n, rfl, hn, hzero⟩
    exact ⟨n, ⟨n, rfl, hn⟩, if_neg (by omega)⟩

end Numbers

/-- A reading checks demands in order: it succeeds if all are met, and else fails with the error of
the first that is not. -/
structure Checks {α : Type} (layers : Layers) (reading : Except SettingError α)
    (demands : List (SettingKey × Demand)) : Prop where
  ok : (∃ a, reading = .ok a) ↔ ∀ demand ∈ demands, layers.Meets demand
  error : ∀ e, reading = .error e ↔ layers.FirstBreach demands e

theorem firstBreach_cons {demand : SettingKey × Demand} {rest : List (SettingKey × Demand)}
    {e : SettingError} : layers.FirstBreach (demand :: rest) e ↔
      layers.Breach demand e ∨ layers.Meets demand ∧ layers.FirstBreach rest e := by
  constructor
  · rintro ⟨front, broken, later, hsplit, hfront, hbroken⟩
    cases front with
    | nil =>
      obtain ⟨rfl, rfl⟩ := List.cons.inj hsplit
      exact .inl hbroken
    | cons first front =>
      obtain ⟨rfl, rfl⟩ := List.cons.inj hsplit
      rw [List.forall_mem_cons] at hfront
      exact .inr ⟨hfront.1, front, broken, later, rfl, hfront.2, hbroken⟩
  · rintro (hbroken | ⟨hmeets, front, broken, later, rfl, hfront, hbroken⟩)
    · exact ⟨[], demand, rest, rfl, List.forall_mem_nil _, hbroken⟩
    · exact ⟨demand :: front, broken, later, rfl, List.forall_mem_cons.mpr ⟨hmeets, hfront⟩, hbroken⟩

theorem Checks.pure {α : Type} (a : α) : Checks layers (.ok a) [] where
  ok := by simp
  error e := by simp [FirstBreach]

theorem Checks.bind {α β : Type} {reading : Except SettingError α} {f : α → Except SettingError β}
    {demand : SettingKey × Demand} {rest : List (SettingKey × Demand)}
    (ok : (∃ a, reading = .ok a) ↔ layers.Meets demand)
    (error : ∀ e, reading = .error e ↔ layers.Breach demand e)
    (later : ∀ a, Checks layers (f a) rest) : Checks layers (reading >>= f) (demand :: rest) where
  ok := by
    simp only [bind_eq_ok_iff, List.forall_mem_cons]
    constructor
    · rintro ⟨b, a, ha, hb⟩
      exact ⟨ok.mp ⟨a, ha⟩, (later a).ok.mp ⟨b, hb⟩⟩
    · rintro ⟨hmeets, hrest⟩
      obtain ⟨a, ha⟩ := ok.mpr hmeets
      obtain ⟨b, hb⟩ := (later a).ok.mpr hrest
      exact ⟨b, a, ha, hb⟩
  error e := by
    simp only [bind_eq_error_iff, error, (later _).error, exists_and_right, ok, firstBreach_cons]

theorem exists_gives_iff {α : Type} {stands : List Char → α → Prop} {absent : α} :
    (∃ value, layers.Gives key stands absent value) ↔
      ∀ text ∈ layers.effective? key, ∃ value, stands (Text.trim text.toList) value := by
  unfold Gives
  cases layers.effective? key <;> simp

theorem breach_iff {demand : Demand} {e : SettingError} : layers.Breach (key, demand) e ↔
    (∃ text reason, layers.effective? key = some text ∧
      demand.Fault (Text.trim text.toList) reason ∧ e = .invalidValue key.property text reason) ∨
    ∃ bits text, demand = .positive bits ∧ layers.effective? key = some text ∧
      IsCount bits (Text.trim text.toList) 0 ∧ e = .zero key.property := by
  constructor
  · intro h
    cases h with
    | invalid _ _ text reason effective fault =>
      exact .inl ⟨text, reason, effective, fault, rfl⟩
    | zero _ bits text effective zero => exact .inr ⟨bits, text, rfl, effective, zero, rfl⟩
  · rintro (⟨text, reason, effective, fault, rfl⟩ | ⟨bits, text, rfl, effective, zero, rfl⟩)
    · exact .invalid key demand text reason effective fault
    · exact .zero key bits text effective zero

section Settings

variable {β : Type} {rest : List (SettingKey × Demand)} {bits absent : Nat}

theorem Checks.flag {absent : Bool} {f : Bool → Except SettingError β}
    (later : ∀ b, Checks layers (f b) rest) :
    Checks layers (layers.flag key absent >>= f) ((key, .flag) :: rest) := by
  refine .bind ?_ (fun e => ?_) later
  · simp only [flag_eq_ok_iff, exists_gives_iff]
    rfl
  · simp [Layers.flag, value_eq_error_iff, readFlag_eq_error_iff, breach_iff]

theorem integer_eq_error_iff {e : SettingError} :
    layers.integer (.unsigned bits) key (absent : Int) = .error e ↔
      ∃ text reason, layers.effective? key = some text ∧
        (Demand.count bits).Fault (Text.trim text.toList) reason ∧
        e = .invalidValue key.property text reason := by
  simp only [integer, value_eq_error_iff, mapError_read_eq_error_iff]
  rfl

theorem Checks.count {f : Int → Except SettingError β} (later : ∀ n, Checks layers (f n) rest) :
    Checks layers (layers.integer (.unsigned bits) key (absent : Int) >>= f)
      ((key, .count bits) :: rest) := by
  refine .bind ?_ (fun e => ?_) later
  · simp only [integer_eq_ok_iff, exists_comm (α := Int), exists_eq_left, exists_gives_iff]
    rfl
  · simp [integer_eq_error_iff, breach_iff]

/-- Zero is refused behind the reading, which does not give it for an absent text. -/
theorem positive_eq_error_iff (habsent : absent ≠ 0) {e : SettingError} :
    layers.positive (.unsigned bits) key (absent : Int) = .error e ↔
      layers.Breach (key, .positive bits) e := by
  have hzero : layers.integer (.unsigned bits) key (absent : Int) = .ok 0 ↔
      ∃ text, layers.effective? key = some text ∧ IsCount bits (Text.trim text.toList) 0 := by
    have hgives : layers.integer (.unsigned bits) key (absent : Int) = .ok ((0 : Nat) : Int) ↔ _ :=
      integer_eq_ok_iff
    simp only [Int.natCast_inj, exists_eq_left'] at hgives
    refine hgives.trans ?_
    unfold Gives
    cases layers.effective? key <;> simp [habsent.symm]
  rw [positive, bind_eq_error_iff, integer_eq_error_iff, breach_iff]
  refine or_congr Iff.rfl ?_
  constructor
  · rintro ⟨n, hn, h⟩
    by_cases hn0 : n = 0
    · rw [if_pos hn0] at h
      obtain ⟨text, heffective, hcount⟩ := hzero.mp (hn0 ▸ hn)
      exact ⟨bits, text, rfl, heffective, hcount, (Except.error.inj h).symm⟩
    · rw [if_neg hn0] at h
      cases h
  · rintro ⟨_, text, ⟨⟩, heffective, hcount, rfl⟩
    exact ⟨0, hzero.mpr ⟨text, heffective, hcount⟩, rfl⟩

theorem Checks.positive (habsent : absent ≠ 0) {f : Int → Except SettingError β}
    (later : ∀ n, Checks layers (f n) rest) :
    Checks layers (layers.positive (.unsigned bits) key (absent : Int) >>= f)
      ((key, .positive bits) :: rest) := by
  refine .bind ?_ (fun e => positive_eq_error_iff habsent) later
  simp only [positive_eq_ok_iff habsent, exists_comm (α := Int), exists_eq_left, exists_gives_iff]
  rfl

end Settings

end Layers

end CallWatch
