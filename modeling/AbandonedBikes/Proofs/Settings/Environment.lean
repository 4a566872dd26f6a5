import AbandonedBikes.Proofs.Results
import AbandonedBikes.Settings
/-!
# Settings under an environment

Each setting may be overridden by a variable of its own (`Settings.tunables`). Under any environment
there are two cases. Either every variable that is set can be read, and then each setting is what its
variable says, or the default. Or the first variable that cannot be read is reported, with its value as
it was set. No variable has a say in the setting of another one, and those after the first bad one have
no say in the report.
-/

namespace AbandonedBikes.Settings

/-- A setting, the variable that may override it, and how the value of the variable is read. -/
structure Tunable where
  Value : Type
  key : String
  read : String → Except Literal.Malformed Value
  setting : Settings → Value

/-- All settings in their order. -/
def tunables : List Tunable := [
  ⟨Float, "BIKESIGNAL_SIGNAL_MATCH_RADIUS_M", Literal.float, matchRadius⟩,
  ⟨Int, "BIKESIGNAL_SIGNAL_LOOKBACK_DAYS", readDays, matchLookbackDays⟩,
  ⟨Int, "BIKESIGNAL_RECONFIRMATION_GAP_DAYS", readDays, gapDays⟩,
  ⟨UInt32, "BIKESIGNAL_STRONG_MIN_UNIQUE_REPORTERS", readWord32, strongMinReporters⟩,
  ⟨Float, "BIKESIGNAL_DEDUPE_RADIUS_M", Literal.float, duplicateRadius⟩,
  ⟨Int, "BIKESIGNAL_DEDUPE_LOOKBACK_DAYS", readDays, duplicateLookbackDays⟩,
  ⟨Nat, "BIKESIGNAL_MAX_DEDUPE_CANDIDATES", readCount, maxDuplicates⟩,
  ⟨Nat, "BIKESIGNAL_CELL_PRECISION", readCount, cellPrecision⟩,
  ⟨Bool, "BIKESIGNAL_SERIALIZE_BY_CELL", Literal.boolean, serializeByCell⟩]

/-- The variables that are read are those of the settings, in the same order, and all different. -/
theorem map_key_tunables : tunables.map Tunable.key = keys := rfl

theorem nodup_keys : keys.Nodup := by decide

namespace Tunable

variable {tunable : Tunable} {environment : Environment} {report : Unreadable}

/-- The variable is not set, or its value without the blanks around it can be read. -/
def Readable (tunable : Tunable) (environment : Environment) : Prop :=
  ∀ raw, environment tunable.key = some raw → ∃ value, tunable.read (Text.trim raw) = .ok value

/-- The value is what the variable says, or the default if the variable is not set. -/
def Gives (tunable : Tunable) (environment : Environment) (value : tunable.Value) : Prop :=
  match environment tunable.key with
  | some raw => tunable.read (Text.trim raw) = .ok value
  | none => value = tunable.setting {}

/-- The report is about the variable, whose value it repeats with the blanks around it. -/
structure Reported (tunable : Tunable) (environment : Environment) (report : Unreadable) : Prop where
  key : report.key = tunable.key
  raw : environment tunable.key = some report.raw
  cause : tunable.read (Text.trim report.raw) = .error report.cause
  message : report.message = tunable.key ++ " has an invalid value: " ++ Text.quoted report.raw

/-- The value of the setting under an environment. -/
def value (tunable : Tunable) (environment : Environment) : Except Unreadable tunable.Value :=
  fieldOf environment tunable.key tunable.read (tunable.setting {})

theorem value_eq_ok_iff {value : tunable.Value} :
    tunable.value environment = .ok value ↔ tunable.Gives environment value := by
  rw [Tunable.value, fieldOf, Gives]
  cases environment tunable.key with
  | none => simp [eq_comm]
  | some raw => cases read : tunable.read (Text.trim raw) <;> simp [read]

theorem value_eq_error_iff :
    tunable.value environment = .error report ↔ tunable.Reported environment report := by
  rw [Tunable.value, fieldOf]
  constructor
  · intro refused
    split at refused
    next => cases refused
    next raw set =>
      split at refused
      next => cases refused
      next cause read =>
        obtain rfl := Except.error.inj refused
        exact ⟨rfl, set, read, rfl⟩
  · rintro ⟨key, raw, cause, -⟩
    rw [raw]
    simp only [cause, ← key]

theorem readable_iff :
    tunable.Readable environment ↔ ∃ value, tunable.value environment = .ok value := by
  simp only [value_eq_ok_iff, Readable, Gives]
  cases environment tunable.key with
  | none => simp
  | some raw => simp

theorem Reported.not_readable (reported : tunable.Reported environment report) :
    ¬ tunable.Readable environment := by
  intro readable
  obtain ⟨value, read⟩ := readable_iff.mp readable
  rw [value_eq_error_iff.mpr reported] at read
  cases read

theorem Reported.unique {other : Unreadable} (reported : tunable.Reported environment report)
    (reported_too : tunable.Reported environment other) : report = other :=
  Except.error.inj
    ((value_eq_error_iff.mpr reported).symm.trans (value_eq_error_iff.mpr reported_too))

end Tunable

/-- The report is about the first setting of a list whose variable cannot be read. -/
inductive FirstReported (environment : Environment) (report : Unreadable) : List Tunable → Prop
  | here {tunable : Tunable} {rest : List Tunable} (reported : tunable.Reported environment report) :
    FirstReported environment report (tunable :: rest)
  | later {tunable : Tunable} {rest : List Tunable} (readable : tunable.Readable environment)
    (first : FirstReported environment report rest) :
    FirstReported environment report (tunable :: rest)

namespace FirstReported

variable {list rest : List Tunable} {tunable : Tunable} {environment : Environment}
  {report other : Unreadable}

/-- If reading a setting and then more of them fails, the first bad variable is that of the setting or
the first bad one of the others. -/
theorem of_bind {next : tunable.Value → Except Unreadable Settings}
    (refused : (tunable.value environment >>= next) = .error report)
    (others : ∀ value, next value = .error report → FirstReported environment report rest) :
    FirstReported environment report (tunable :: rest) := by
  obtain refused | ⟨value, read, refused⟩ := of_bind_error refused
  · exact .here (Tunable.value_eq_error_iff.mp refused)
  · exact .later (Tunable.readable_iff.mpr ⟨value, read⟩) (others value refused)

theorem not_readable (first : FirstReported environment report list) :
    ¬ ∀ tunable ∈ list, tunable.Readable environment := by
  rw [not_forall]
  induction first with
  | @here tunable rest reported =>
    exact ⟨tunable, fun readable => reported.not_readable (readable List.mem_cons_self)⟩
  | later readable first ih =>
    obtain ⟨tunable, unreadable⟩ := ih
    exact ⟨tunable, fun all => unreadable fun member => all (List.mem_cons_of_mem _ member)⟩

theorem unique (first : FirstReported environment report list)
    (first_too : FirstReported environment other list) : report = other := by
  induction first with
  | here reported =>
    cases first_too with
    | here reported_too => exact reported.unique reported_too
    | later readable _ => exact absurd readable reported.not_readable
  | later readable first ih =>
    cases first_too with
    | here reported => exact absurd readable reported.not_readable
    | later _ first_too => exact ih first_too

end FirstReported

variable {environment : Environment} {settings : Settings} {report : Unreadable}

theorem firstReported_of_error (refused : ofEnvironment environment = .error report) :
    FirstReported environment report tunables := by
  -- One step for each setting, in the order in which they are read.
  refine .of_bind refused fun matchRadius refused => ?_
  refine .of_bind refused fun matchLookbackDays refused => ?_
  refine .of_bind refused fun gapDays refused => ?_
  refine .of_bind refused fun strongMinReporters refused => ?_
  refine .of_bind refused fun duplicateRadius refused => ?_
  refine .of_bind refused fun duplicateLookbackDays refused => ?_
  refine .of_bind refused fun maxDuplicates refused => ?_
  refine .of_bind refused fun cellPrecision refused => ?_
  refine .of_bind refused fun serializeByCell refused => ?_
  cases refused

theorem value_of_ok (accepted : ofEnvironment environment = .ok settings) :
    ∀ tunable ∈ tunables, tunable.value environment = .ok (tunable.setting settings) := by
  obtain ⟨_, matchRadius, accepted⟩ := of_bind_ok accepted
  obtain ⟨_, matchLookbackDays, accepted⟩ := of_bind_ok accepted
  obtain ⟨_, gapDays, accepted⟩ := of_bind_ok accepted
  obtain ⟨_, strongMinReporters, accepted⟩ := of_bind_ok accepted
  obtain ⟨_, duplicateRadius, accepted⟩ := of_bind_ok accepted
  obtain ⟨_, duplicateLookbackDays, accepted⟩ := of_bind_ok accepted
  obtain ⟨_, maxDuplicates, accepted⟩ := of_bind_ok accepted
  obtain ⟨_, cellPrecision, accepted⟩ := of_bind_ok accepted
  obtain ⟨_, serializeByCell, accepted⟩ := of_bind_ok accepted
  obtain rfl := Except.ok.inj accepted
  simp only [tunables, List.forall_mem_cons]
  exact ⟨matchRadius, matchLookbackDays, gapDays, strongMinReporters, duplicateRadius,
    duplicateLookbackDays, maxDuplicates, cellPrecision, serializeByCell,
    fun _ member => absurd member List.not_mem_nil⟩

theorem readable_of_ok (accepted : ofEnvironment environment = .ok settings) :
    ∀ tunable ∈ tunables, tunable.Readable environment := fun tunable member =>
  Tunable.readable_iff.mpr ⟨_, value_of_ok accepted tunable member⟩

theorem ofEnvironment_eq_error_iff : ofEnvironment environment = .error report ↔
    FirstReported environment report tunables := by
  refine ⟨firstReported_of_error, fun first => ?_⟩
  cases outcome : ofEnvironment environment with
  | ok settings => exact absurd (readable_of_ok outcome) first.not_readable
  | error other => rw [(firstReported_of_error outcome).unique first]

/-- There are settings if and only if every variable that is set can be read, and each of them depends
on its own variable alone. Otherwise the first variable that cannot be read is reported. -/
theorem settled_by_environment (environment : Environment) :
    (tunables.map Tunable.key).Nodup ∧
    ((∃ settings, ofEnvironment environment = .ok settings) ↔
      ∀ tunable ∈ tunables, tunable.Readable environment) ∧
    (∀ settings, ofEnvironment environment = .ok settings →
      ∀ tunable ∈ tunables, tunable.Gives environment (tunable.setting settings)) ∧
    (∀ report, ofEnvironment environment = .error report ↔
      FirstReported environment report tunables) := by
  refine ⟨map_key_tunables ▸ nodup_keys, ⟨?_, fun readable => ?_⟩, ?_,
    fun report => ofEnvironment_eq_error_iff⟩
  · rintro ⟨settings, accepted⟩
    exact readable_of_ok accepted
  · cases outcome : ofEnvironment environment with
    | ok settings => exact ⟨settings, rfl⟩
    | error report => exact absurd readable (firstReported_of_error outcome).not_readable
  · intro settings accepted tunable member
    exact Tunable.value_eq_ok_iff.mp (value_of_ok accepted tunable member)

end AbandonedBikes.Settings
