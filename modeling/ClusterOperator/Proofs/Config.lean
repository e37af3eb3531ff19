import ClusterOperator.Config
import ClusterOperator.Proofs.Net.Packing
import ClusterOperator.Proofs.Text.Numerals

/-!
# Which settings are a configuration

Eight of the settings are numbers (`Quantity`), each of a word of its own and with a default; the
ninth is a text.  The value of a quantity is settled on its own: it is the default, or the number
that a text spells, which then has to fit the word (`Quantity.Holds`).  Only after that do the
values meet, in the checks of the whole (`validate_eq_ok_iff`), which do not tell a value that was
set from a default.  So settings are accepted if their values are (`Accepted`), and their
configuration has these values and no others.

A configuration has one text for each of its settings (`OperatorConfig.written`), and it is loaded
from these texts if its values can be set at all (`OperatorConfig.Expressible`).
-/

namespace ClusterOperator

open Text (Spells)

variable {settings : Settings} {c : OperatorConfig} {n : Nat}

/-! ## Quantities -/

/-- The settings that are numbers. -/
inductive Quantity where
  | masterSize
  | workerSize
  | workers
  | initialMillis
  | longestMillis
  | notReadySecs
  | readySecs
  | retries
  deriving DecidableEq, Repr

namespace Quantity

def all : List Quantity :=
  [masterSize, workerSize, workers, initialMillis, longestMillis, notReadySecs, readySecs, retries]

def name : Quantity → String
  | masterSize => Setting.masterSubnetSize
  | workerSize => Setting.workerSubnetSize
  | workers => Setting.watchdogWorkers
  | initialMillis => Setting.watchdogRequeueMs
  | longestMillis => Setting.watchdogRequeueMaxMs
  | notReadySecs => Setting.notReadyRequeueSecs
  | readySecs => Setting.readyRequeueSecs
  | retries => Setting.statusConflictRetries

/-- The bits of the word that a quantity is held in. -/
def bits : Quantity → Nat
  | masterSize => 8
  | workerSize => 8
  | workers => 64
  | initialMillis => 64
  | longestMillis => 64
  | notReadySecs => 64
  | readySecs => 64
  | retries => 32

/-- The value of a quantity that is not set. -/
def byDefault : Quantity → Nat
  | masterSize => 24
  | workerSize => 24
  | workers => 4
  | initialMillis => 5000
  | longestMillis => 60000
  | notReadySecs => 30
  | readySecs => 300
  | retries => 5

/-- Values of the quantities, one by one. -/
@[reducible]
def each (master worker workers initial longest notReady ready retries : Nat) : Quantity → Nat
  | .masterSize => master
  | .workerSize => worker
  | .workers => workers
  | .initialMillis => initial
  | .longestMillis => longest
  | .notReadySecs => notReady
  | .readySecs => ready
  | .retries => retries

/-- **The value of a quantity**: the number that its text spells, if it fits the word, and the
default if there is no text. -/
def Holds (q : Quantity) (settings : Settings) (n : Nat) : Prop :=
  match settings q.name with
  | none => n = q.byDefault
  | some text => Spells n text ∧ n < Nat.pow 2 q.bits

theorem byDefault_lt (q : Quantity) : q.byDefault < Nat.pow 2 q.bits := by
  cases q <;> decide

theorem Holds.lt {q : Quantity} (h : q.Holds settings n) : n < Nat.pow 2 q.bits := by
  rw [Holds] at h
  split at h
  · exact h ▸ q.byDefault_lt
  · exact h.2

theorem holds_of_written {q : Quantity} (hset : settings q.name = some (toString n))
    (hfits : n < Nat.pow 2 q.bits) : q.Holds settings n := by
  rw [Holds, hset]
  exact ⟨Text.spells_toString n, hfits⟩

/-- What is read under the name of a quantity is its value. -/
theorem number_eq_ok_iff (q : Quantity) :
    Setting.number settings q.name q.bits q.byDefault = .ok n ↔ q.Holds settings n := by
  rw [Setting.number, Holds]
  cases settings q.name with
  | none =>
    rw [Except.ok.injEq]
    exact eq_comm
  | some text =>
    have hfits : n ≤ Text.wordLimit q.bits ↔ n < Nat.pow 2 q.bits :=
      Nat.le_sub_one_iff_lt (Nat.pow_pos (by decide))
    dsimp only
    rw [← hfits, ← Text.readNumeral_trim_eq_ok_iff]
    cases Text.readNumeral (Text.wordLimit q.bits) (Text.trim text.toList) with
    | ok m => rw [Except.ok.injEq, Except.ok.injEq]
    | error fault => exact ⟨nofun, nofun⟩

end Quantity

/-! ## Configurations of values -/

namespace OperatorConfig

/-- The configuration with these values. -/
def ofValues (values : Quantity → Nat) (container : String) : OperatorConfig where
  subnets := { master := values .masterSize, worker := values .workerSize }
  watchdogWorkers := values .workers
  watchdogInitial := .ofMillis (values .initialMillis)
  watchdogLongest := .ofMillis (values .longestMillis)
  notReadyRequeue := .ofSecs (values .notReadySecs)
  readyRequeue := .ofSecs (values .readySecs)
  errorRequeue := ({} : OperatorConfig).errorRequeue
  statusConflictRetries := values .retries
  storageContainer := container

/-- With nothing set, everything has its default. -/
example : ofValues Quantity.byDefault "ignition" = {} := rfl

/-- The container of the boot objects. -/
def containerOf (settings : Settings) : String :=
  (settings Setting.storageContainer).getD "ignition"

/-- Settings are read if every quantity has a value. -/
theorem read_eq_ok_iff :
    read settings = .ok c ↔
      ∃ values : Quantity → Nat, (∀ q : Quantity, q.Holds settings (values q)) ∧
        c = ofValues values (containerOf settings) := by
  simp only [read, Net.bind_eq_ok_iff, pure, Except.pure, Except.ok.injEq]
  constructor
  · rintro ⟨master, hmaster, worker, hworker, workers, hworkers, initial, hinitial, longest,
      hlongest, notReady, hnotReady, ready, hready, retries, hretries, rfl⟩
    refine ⟨Quantity.each master worker workers initial longest notReady ready retries,
      fun q => q.number_eq_ok_iff.mp ?_, rfl⟩
    cases q <;> assumption
  · rintro ⟨values, holds, rfl⟩
    have hread := fun q => (Quantity.number_eq_ok_iff q).mpr (holds q)
    exact ⟨_, hread .masterSize, _, hread .workerSize, _, hread .workers, _, hread .initialMillis,
      _, hread .longestMillis, _, hread .notReadySecs, _, hread .readySecs, _, hread .retries, rfl⟩

theorem sizes_validate_eq_ok_iff {sizes : Net.CarvingSizes} :
    sizes.validate = .ok () ↔ sizes.master ≤ 32 ∧ sizes.worker ≤ 32 := by
  rcases sizes.validate_cases with ⟨hlong, text, hrefused⟩ | ⟨hmaster, hworker, hvalid⟩
  · rw [hrefused]
    exact iff_of_false nofun fun h => by omega
  · exact iff_of_true hvalid ⟨hmaster, hworker⟩

/-- A check refuses what it looks for and leaves the rest to the others. -/
theorem check_eq_ok_iff {p : Prop} [Decidable p] {failure : Failure}
    {others : Except Failure Unit} :
    (if p then .error failure else others) = .ok () ↔ ¬p ∧ others = .ok () := by
  split
  · rename_i refused
    exact iff_of_false nofun fun h => h.1 refused
  · rename_i passed
    exact (and_iff_right passed).symm

/-- **The configurations that are valid.** -/
structure Workable (c : OperatorConfig) : Prop where
  master_le : c.subnets.master ≤ 32
  worker_le : c.subnets.worker ≤ 32
  workers_pos : 1 ≤ c.watchdogWorkers
  initial_le : c.watchdogInitial.nanoseconds ≤ c.watchdogLongest.nanoseconds
  retries_pos : 1 ≤ c.statusConflictRetries
  container_ne : c.storageContainer ≠ ""

theorem validate_eq_ok_iff : c.validate = .ok () ↔ c.Workable := by
  rw [validate, Net.bind_eq_ok_iff]
  simp only [throw, throwThe, MonadExceptOf.throw, bind, Except.bind, pure, Except.pure,
    check_eq_ok_iff, and_true]
  constructor
  · rintro ⟨⟨⟩, hsizes, hworkers, hdelays, hretries, hcontainer⟩
    obtain ⟨hmaster, hworker⟩ := sizes_validate_eq_ok_iff.mp hsizes
    exact ⟨hmaster, hworker, Nat.pos_of_ne_zero hworkers, Nat.le_of_not_lt hdelays,
      Nat.pos_of_ne_zero hretries, hcontainer⟩
  · rintro ⟨hmaster, hworker, hworkers, hdelays, hretries, hcontainer⟩
    exact ⟨(), sizes_validate_eq_ok_iff.mpr ⟨hmaster, hworker⟩, Nat.ne_zero_of_lt hworkers,
      Nat.not_lt_of_le hdelays, Nat.ne_zero_of_lt hretries, hcontainer⟩

/-! ## Settings that are accepted -/

/-- **The settings that are accepted**, with the values that they have, set or by default. -/
structure Accepted (settings : Settings) (values : Quantity → Nat) : Prop where
  holds : ∀ q : Quantity, q.Holds settings (values q)
  master_le : values .masterSize ≤ 32
  worker_le : values .workerSize ≤ 32
  workers_pos : 1 ≤ values .workers
  initial_le : values .initialMillis ≤ values .longestMillis
  retries_pos : 1 ≤ values .retries
  container_ne : containerOf settings ≠ ""

theorem workable_ofValues_iff {values : Quantity → Nat}
    (holds : ∀ q : Quantity, q.Holds settings (values q)) :
    (ofValues values (containerOf settings)).Workable ↔ Accepted settings values := by
  have hdelays : values .initialMillis * 1000000 ≤ values .longestMillis * 1000000 ↔
      values .initialMillis ≤ values .longestMillis := Nat.mul_le_mul_right_iff (by decide)
  constructor
  · rintro ⟨hmaster, hworker, hworkers, hinitial, hretries, hcontainer⟩
    exact ⟨holds, hmaster, hworker, hworkers, hdelays.mp hinitial, hretries, hcontainer⟩
  · rintro ⟨-, hmaster, hworker, hworkers, hinitial, hretries, hcontainer⟩
    exact ⟨hmaster, hworker, hworkers, hdelays.mpr hinitial, hretries, hcontainer⟩

/-- **What is loaded are the values of settings that are accepted.** -/
theorem load_eq_ok_iff :
    load settings = .ok c ↔
      ∃ values, Accepted settings values ∧ c = ofValues values (containerOf settings) := by
  have hsteps : load settings = .ok c ↔ read settings = .ok c ∧ c.validate = .ok () := by
    simp only [load, Net.bind_eq_ok_iff, pure, Except.pure, Except.ok.injEq]
    constructor
    · rintro ⟨_, hread, ⟨⟩, hvalid, rfl⟩
      exact ⟨hread, hvalid⟩
    · rintro ⟨hread, hvalid⟩
      exact ⟨c, hread, (), hvalid, rfl⟩
  rw [hsteps, read_eq_ok_iff, validate_eq_ok_iff]
  constructor
  · rintro ⟨⟨values, holds, rfl⟩, workable⟩
    exact ⟨values, (workable_ofValues_iff holds).mp workable, rfl⟩
  · rintro ⟨values, accepted, rfl⟩
    exact ⟨⟨values, accepted.holds, rfl⟩, (workable_ofValues_iff accepted.holds).mpr accepted⟩

/-! ## Configurations written out -/

/-- The value that a quantity has in a configuration. -/
def quantity (c : OperatorConfig) : Quantity → Nat
  | .masterSize => c.subnets.master
  | .workerSize => c.subnets.worker
  | .workers => c.watchdogWorkers
  | .initialMillis => c.watchdogInitial.nanoseconds / 1000000
  | .longestMillis => c.watchdogLongest.nanoseconds / 1000000
  | .notReadySecs => c.notReadyRequeue.secs
  | .readySecs => c.readyRequeue.secs
  | .retries => c.statusConflictRetries

/-- The settings that a configuration is written out as: quantities in decimal. -/
def written (c : OperatorConfig) : Settings := fun key =>
  if key = Setting.storageContainer then some c.storageContainer
  else (Quantity.all.find? (·.name = key)).map fun q => toString (c.quantity q)

/-- **The configurations that settings can express**: they are valid, their numbers fit their words,
their delays are whole milliseconds, their other intervals whole seconds, and the one that cannot be
set has its default. -/
structure Expressible (c : OperatorConfig) : Prop where
  valid : c.validate = .ok ()
  workers_lt : c.watchdogWorkers < Nat.pow 2 64
  retries_lt : c.statusConflictRetries < Nat.pow 2 32
  initial : ∃ ms < Nat.pow 2 64, c.watchdogInitial = .ofMillis ms
  longest : ∃ ms < Nat.pow 2 64, c.watchdogLongest = .ofMillis ms
  notReady : ∃ s < Nat.pow 2 64, c.notReadyRequeue = .ofSecs s
  ready : ∃ s < Nat.pow 2 64, c.readyRequeue = .ofSecs s
  error : c.errorRequeue = ({} : OperatorConfig).errorRequeue

theorem written_name (c : OperatorConfig) (q : Quantity) :
    c.written q.name = some (toString (c.quantity q)) := by
  cases q <;> rfl

/-- Values go through the units of a configuration unchanged. -/
theorem quantity_ofValues (values : Quantity → Nat) (container : String) :
    (ofValues values container).quantity = values := by
  have hmillis : ∀ n, (Duration.ofMillis n).nanoseconds / 1000000 = n := fun n =>
    Nat.mul_div_cancel n (by decide)
  have hsecs : ∀ n, (Duration.ofSecs n).secs = n := fun n => Nat.mul_div_cancel n (by decide)
  funext q
  cases q with
  | initialMillis => exact hmillis _
  | longestMillis => exact hmillis _
  | notReadySecs => exact hsecs _
  | readySecs => exact hsecs _
  | masterSize | workerSize | workers | retries => rfl

/-- What can be expressed are the valid configurations of values that fit their words. -/
theorem expressible_iff :
    c.Expressible ↔ c.validate = .ok () ∧
      ∃ (values : Quantity → Nat) (container : String),
        (∀ q, values q < Nat.pow 2 q.bits) ∧ c = ofValues values container := by
  constructor
  · intro h
    have hsizes : c.subnets.master < Nat.pow 2 8 ∧ c.subnets.worker < Nat.pow 2 8 := by
      have workable := validate_eq_ok_iff.mp h.valid
      exact ⟨Nat.lt_of_le_of_lt workable.master_le (by decide),
        Nat.lt_of_le_of_lt workable.worker_le (by decide)⟩
    obtain ⟨⟨master, worker⟩, workers, _, _, _, _, _, retries, container⟩ := c
    obtain ⟨valid, hworkers, hretries, ⟨initial, hinitial, rfl⟩, ⟨longest, hlongest, rfl⟩,
      ⟨notReady, hnotReady, rfl⟩, ⟨ready, hready, rfl⟩, rfl⟩ := h
    refine ⟨valid, Quantity.each master worker workers initial longest notReady ready retries,
      container, fun q => ?_, rfl⟩
    cases q with
    | masterSize => exact hsizes.1
    | workerSize => exact hsizes.2
    | workers | initialMillis | longestMillis | notReadySecs | readySecs | retries => assumption
  · rintro ⟨valid, values, container, fits, rfl⟩
    exact ⟨valid, fits .workers, fits .retries, ⟨_, fits .initialMillis, rfl⟩,
      ⟨_, fits .longestMillis, rfl⟩, ⟨_, fits .notReadySecs, rfl⟩, ⟨_, fits .readySecs, rfl⟩, rfl⟩

/-- Nothing is loaded that cannot be expressed. -/
theorem expressible_of_load (h : load settings = .ok c) : c.Expressible := by
  obtain ⟨values, accepted, rfl⟩ := load_eq_ok_iff.mp h
  have workable := (workable_ofValues_iff accepted.holds).mpr accepted
  exact expressible_iff.mpr ⟨validate_eq_ok_iff.mpr workable, values, _,
    fun q => (accepted.holds q).lt, rfl⟩

/-- What can be expressed is loaded from what it is written out as. -/
theorem load_written (h : c.Expressible) : load c.written = .ok c := by
  obtain ⟨valid, values, container, fits, rfl⟩ := expressible_iff.mp h
  have holds : ∀ q : Quantity, q.Holds (ofValues values container).written (values q) := by
    intro q
    have hset := written_name (ofValues values container) q
    rw [quantity_ofValues] at hset
    exact Quantity.holds_of_written hset (fits q)
  have accepted := (workable_ofValues_iff holds).mp (validate_eq_ok_iff.mp valid)
  exact load_eq_ok_iff.mpr ⟨values, accepted, rfl⟩

/-! ## Loading -/

/-- **Loading is exact**: settings are loaded if they are accepted, and then give the configuration
with their values, which is valid; and a configuration that settings can express, as is every one
that is loaded, is loaded unchanged from what it is written out as. -/
theorem load_accepted_and_written :
    (∀ settings, (∃ c, load settings = .ok c) ↔ ∃ values, Accepted settings values) ∧
    (∀ settings values, Accepted settings values →
      load settings = .ok (ofValues values (containerOf settings)) ∧
        (ofValues values (containerOf settings)).validate = .ok ()) ∧
    (∀ settings c, load settings = .ok c → c.Expressible) ∧
    ∀ c : OperatorConfig, c.Expressible → load c.written = .ok c := by
  refine ⟨fun settings => ⟨?_, ?_⟩, fun settings values accepted => ?_,
    fun settings c => expressible_of_load, fun c => load_written⟩
  · rintro ⟨c, hload⟩
    obtain ⟨values, accepted, -⟩ := load_eq_ok_iff.mp hload
    exact ⟨values, accepted⟩
  · rintro ⟨values, accepted⟩
    exact ⟨_, load_eq_ok_iff.mpr ⟨values, accepted, rfl⟩⟩
  · have hload := load_eq_ok_iff.mpr ⟨values, accepted, rfl⟩
    exact ⟨hload, (expressible_of_load hload).valid⟩

/-- Two numbers are set, one of them with a sign, a zero in front and blanks around, and so is the
container; the configuration of these settings is also that of what it is written out as. -/
theorem load_accepted_and_written_padded :
    let settings : Settings := fun key =>
      if key = Setting.masterSubnetSize then some " +025\t"
      else if key = Setting.watchdogRequeueMs then some "250"
      else if key = Setting.storageContainer then some "artifacts"
      else none
    let c : OperatorConfig := {
      subnets := { master := 25 }, watchdogInitial := .ofMillis 250,
      storageContainer := "artifacts" }
    load settings = .ok c ∧ load c.written = .ok c := by
  intro settings c
  obtain ⟨-, hload, hexpressible, hwritten⟩ := load_accepted_and_written
  have holds : ∀ q : Quantity,
      q.Holds settings (Quantity.each 25 24 4 250 60000 30 300 5 q) := fun q => by
    cases q with
    | masterSize =>
      exact ⟨⟨[' '], "+025".toList, ['\t'], rfl, List.forall_mem_singleton.mpr rfl,
        List.forall_mem_singleton.mpr rfl, .signed ⟨nofun, List.all_eq_true.mp rfl, rfl⟩⟩,
        by decide⟩
    | initialMillis =>
      exact ⟨⟨[], "250".toList, [], rfl, nofun, nofun,
        .bare ⟨nofun, List.all_eq_true.mp rfl, rfl⟩⟩, by decide⟩
    | workerSize | workers | longestMillis | notReadySecs | readySecs | retries => exact rfl
  have accepted : Accepted settings (Quantity.each 25 24 4 250 60000 30 300 5) :=
    ⟨holds, by decide, by decide, by decide, by decide, by decide, by decide⟩
  have loaded : load settings = .ok c := (hload settings _ accepted).1
  exact ⟨loaded, hwritten c (hexpressible settings c loaded)⟩

end OperatorConfig

end ClusterOperator
