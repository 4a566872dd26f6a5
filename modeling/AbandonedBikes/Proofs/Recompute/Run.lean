import AbandonedBikes.Proofs.Database.Recounting
/-!
# A run of the recompute command

A run recounts the bike groups of a list one after another. `recountEach` holds all of these recounts,
each where the one before it has left the database. The run is compared with them: it comes to the end
of the list and counts what became of the recounts, or it stops at the first one that misses its group.

What a recount writes is shown on its courses: an update that was sent holds what a replay yields of the
reports that came before it.
-/

namespace AbandonedBikes.Recompute

variable {σ : Type}

/-! ## The groups one after another -/

/-- What has become of the recount of one group. -/
abbrev GroupRun (σ : Type) := Transcript σ (Except Failure Recount)

namespace GroupRun

/-- The recount has found that a bike group is missing. -/
def Misses (run : GroupRun σ) : Prop :=
  ∃ group report, run.value = .error (.missingBikeGroup group report)

/-- The recount has given the group another strength. -/
def changed (run : GroupRun σ) : Bool :=
  match run.value with
  | .ok recount => decide (recount.previous ≠ recount.group.strength)
  | .error _ => false

def failed (run : GroupRun σ) : Bool :=
  match run.value with
  | .ok _ => false
  | .error _ => true

/-- The recount has failed with what ends a run. -/
def corrupt (run : GroupRun σ) : Bool :=
  match run.value with
  | .ok _ => false
  | .error failure => failure.isCorruption

theorem misses_iff (run : GroupRun σ) : run.Misses ↔ run.corrupt = true := by
  rw [Misses, corrupt]
  rcases run.value with failure | recount
  · cases failure <;> simp [Failure.isCorruption]
  · simp

instance : DecidablePred (Misses (σ := σ)) := fun run => decidable_of_iff _ run.misses_iff.symm

end GroupRun

/-- The recounts of all groups in order, each where the one before it has left the database. -/
def recountEach (settings : Settings) (now : Instant) (server : Server σ) :
    σ → List Int → List (GroupRun σ)
  | _, [] => []
  | state, group :: rest =>
    let run := ((service settings).recompute group now).run.hold server state
    run :: recountEach settings now server run.server rest

theorem length_recountEach (settings : Settings) (now : Instant) (server : Server σ) (state : σ)
    (groups : List Int) : (recountEach settings now server state groups).length = groups.length := by
  induction groups generalizing state with
  | nil => rfl
  | cons group rest ih => exact congrArg (· + 1) (ih _)

/-- What a run has done that has gone through some recounts. -/
def Tally.after (done : Tally) (runs : List (GroupRun σ)) : Tally where
  groups := done.groups + runs.length
  changed := done.changed + runs.countP GroupRun.changed
  failed := done.failed + runs.countP GroupRun.failed

theorem Tally.after_cons_ok (done : Tally) {run : GroupRun σ} (rest : List (GroupRun σ))
    {recount : Recount} (value : run.value = .ok recount) :
    (done.count recount).after rest = done.after (run :: rest) := by
  simp only [after, count, List.length_cons, List.countP_cons, GroupRun.changed, GroupRun.failed,
    value, Recount.changed, bne_iff_ne, decide_eq_true_eq]
  split <;> simp <;> omega

theorem Tally.after_cons_error (done : Tally) {run : GroupRun σ} (rest : List (GroupRun σ))
    {failure : Failure} (value : run.value = .error failure) :
    done.countFailure.after rest = done.after (run :: rest) := by
  simp [after, countFailure, GroupRun.changed, GroupRun.failed, value]
  omega

/-- The exchanges of several recounts. -/
def said (runs : List (GroupRun σ)) : List Exchange := runs.flatMap Transcript.exchanges

theorem run_recomputeAll_cons (settings : Settings) (now : Instant) (done : Tally) (group : Int)
    (rest : List Int) :
    (recomputeAll (service settings) now done (group :: rest)).run =
      ((service settings).recompute group now).run >>= fun
        | .ok recount => (recomputeAll (service settings) now (done.count recount) rest).run
        | .error failure =>
          if failure.isCorruption then pure (.error failure)
          else (recomputeAll (service settings) now done.countFailure rest).run := by
  rw [recomputeAll, ExceptT.run_bind, ExceptT.run_lift, bind_map_left]
  refine congrArg (_ >>= ·) (funext fun result => ?_)
  cases result with
  | ok recount => rfl
  | error failure => cases failure <;> rfl

section

variable (settings : Settings) (now : Instant) (server : Server σ)

/-- The run goes on after a group that is not missed, and has counted it. -/
theorem hold_recomputeAll_next (done : Tally) (state : σ) (group : Int) (rest : List Int)
    {run : GroupRun σ} (held : ((service settings).recompute group now).run.hold server state = run)
    (found : ¬ run.Misses) :
    ∃ next : Tally, (∀ runs : List (GroupRun σ), next.after runs = done.after (run :: runs)) ∧
      (recomputeAll (service settings) now done (group :: rest)).run.hold server state =
        let ended := (recomputeAll (service settings) now next rest).run.hold server run.server
        { ended with exchanges := run.exchanges ++ ended.exchanges } := by
  rw [run_recomputeAll_cons, Dialogue.hold_bind, held]
  obtain ⟨failure | recount, exchanges, left⟩ := run
  · have harmless : failure.isCorruption = false := by
      rw [GroupRun.misses_iff, Bool.not_eq_true] at found
      exact found
    refine ⟨done.countFailure, fun runs => done.after_cons_error runs rfl, ?_⟩
    simp only [harmless, Bool.false_eq_true, if_false]
  · exact ⟨done.count recount, fun runs => done.after_cons_ok runs rfl, rfl⟩

/-- The run stops at a group that is missed. -/
theorem hold_recomputeAll_stop (done : Tally) (state : σ) (group : Int) (rest : List Int)
    {run : GroupRun σ} (held : ((service settings).recompute group now).run.hold server state = run)
    {failure : Failure} (failed : run.value = .error failure) (missed : run.Misses) :
    (recomputeAll (service settings) now done (group :: rest)).run.hold server state =
      ⟨.error failure, run.exchanges, run.server⟩ := by
  have corrupt : failure.isCorruption = true := by
    have corrupt := run.misses_iff.mp missed
    rwa [GroupRun.corrupt, failed] at corrupt
  obtain ⟨value, exchanges, left⟩ := run
  change value = _ at failed
  subst failed
  rw [run_recomputeAll_cons, Dialogue.hold_bind, held]
  simp only [corrupt, if_true]
  change (⟨_, exchanges ++ [], _⟩ : Transcript σ _) = _
  rw [List.append_nil]
  rfl

/-- If no group is missed, the run goes through all of them. -/
theorem hold_recomputeAll_complete (done : Tally) (state : σ) (groups : List Int)
    (complete : ∀ run ∈ recountEach settings now server state groups, ¬ run.Misses) :
    let runs := recountEach settings now server state groups
    let held := (recomputeAll (service settings) now done groups).run.hold server state
    held.value = .ok (done.after runs) ∧ held.exchanges = said runs := by
  induction groups generalizing done state with
  | nil => exact ⟨rfl, rfl⟩
  | cons group rest ih =>
    obtain ⟨found, rest_complete⟩ := List.forall_mem_cons.mp complete
    obtain ⟨next, counted, goes_on⟩ :=
      hold_recomputeAll_next settings now server done state group rest rfl found
    obtain ⟨value, exchanges⟩ := ih next _ rest_complete
    rw [counted] at value
    dsimp only
    rw [goes_on]
    exact ⟨value, congrArg (_ ++ ·) exchanges⟩

/-- The run goes up to the first group that is missed, and fails for it. -/
theorem hold_recomputeAll_missed (done : Tally) (state : σ) (groups : List Int)
    {before after : List (GroupRun σ)} {run : GroupRun σ} {failure : Failure}
    (runs : recountEach settings now server state groups = before ++ run :: after)
    (found : ∀ earlier ∈ before, ¬ earlier.Misses) (missed : run.Misses)
    (failed : run.value = .error failure) :
    let held := (recomputeAll (service settings) now done groups).run.hold server state
    held.value = .error failure ∧ held.exchanges = said (before ++ [run]) := by
  induction groups generalizing done state before with
  | nil => simp [recountEach] at runs
  | cons group rest ih =>
    cases before with
    | nil =>
      injection runs with held _
      dsimp only
      rw [hold_recomputeAll_stop settings now server done state group rest held failed missed]
      exact ⟨rfl, by simp [said]⟩
    | cons first others =>
      injection runs with held runs
      obtain ⟨first_found, others_found⟩ := List.forall_mem_cons.mp found
      obtain ⟨next, -, goes_on⟩ :=
        hold_recomputeAll_next settings now server done state group rest held first_found
      rw [held] at runs
      obtain ⟨value, exchanges⟩ := ih next _ runs others_found
      dsimp only
      rw [goes_on]
      exact ⟨value, congrArg (_ ++ ·) exchanges⟩

/-- Each recount is one of its group, and an update in it writes what a replay yields. -/
theorem forall₂_recountEach (state : σ) (groups : List Int) :
    List.Forall₂ (fun group run =>
      (∃ before, run = ((service settings).recompute group now).run.hold server before) ∧
      ∀ after reply, ⟨.updateGroup after, reply⟩ ∈ run.exchanges →
        (Statement.updateGroup after).Replays settings group now run.exchanges)
      groups (recountEach settings now server state groups) := by
  induction groups generalizing state with
  | nil => exact .nil
  | cons group rest ih =>
    refine .cons ⟨⟨state, rfl⟩, fun after reply sent => ?_⟩ (ih _)
    exact Database.replays_of_course_recompute (Dialogue.course_hold server _ state) sent

/-! ## The whole command -/

/-- What a run does before it recounts anything: it prepares the database and finds the groups. -/
def preparation (only : Option Int) : Attempt Dialogue (List Int) := do
  Database.migrateReports
  Database.migrateEvents
  match only with
  | some group => pure [group]
  | none => Database.groupIds

theorem run_eq (only : Option Int) :
    run settings only now = preparation only >>= recomputeAll (service settings) now {} := by
  simp only [run, preparation, bind_assoc]
  cases only <;> rfl

/-- The groups of a run are the one that was asked for, or those that the database has listed. -/
def Found (only : Option Int) (exchanges : List Exchange) (groups : List Int) : Prop :=
  match only with
  | some group => groups = [group]
  | none => ∃ reply rows, ⟨.groupIds, reply⟩ ∈ exchanges ∧ reply.rows? = .ok rows ∧
      rows.mapM Database.onlyId = .ok groups

theorem found_of_course_preparation {only : Option Int} {exchanges : List Exchange}
    {groups : List Int} (course : (preparation only).run.Course exchanges (.ok groups)) :
    Found only exchanges groups := by
  obtain ⟨_, -, failed⟩ | ⟨_, _, _, -, after_reports, rfl⟩ := Attempt.course_bind.mp course
  · injection failed
  obtain ⟨_, -, failed⟩ | ⟨_, _, _, -, finding, rfl⟩ := Attempt.course_bind.mp after_reports
  · injection failed
  cases only with
  | some group =>
    obtain ⟨-, same⟩ := Attempt.course_pure.mp finding
    injection same
  | none =>
    obtain ⟨reply, read, rfl⟩ := Query.of_course_sending_ok finding
    obtain ⟨rows, given, listed⟩ := of_bind_ok read
    exact ⟨reply, rows, by simp, given, listed⟩

/-- A command that has its arguments, its settings and its groups recounts these, and tells of the
result. -/
theorem hold_command {environment : Settings.Environment} {arguments : List String}
    {asked : Arguments} {settings : Settings} {state : σ} {groups : List Int}
    {preparing : Transcript σ (Except Failure (List Int))}
    (requested : Request.ofArguments (environment databaseKey) arguments = .ok (.run asked))
    (configured : Settings.ofEnvironment environment = .ok settings)
    (prepares : (preparation asked.group).run.hold server state = preparing)
    (prepared : preparing.value = .ok groups) :
    (command environment arguments now).hold server state =
      let held := (recomputeAll (service settings) now {} groups).run.hold server preparing.server
      ⟨match held.value with
        | .ok tally => Ending.finished tally asked.json
        | .error failure => Ending.failed failure.message,
        preparing.exchanges ++ held.exchanges, held.server⟩ := by
  rw [command]
  simp only [requested, configured, run_eq, ExceptT.run_bind, Dialogue.hold_bind, prepares, prepared]
  cases ((recomputeAll (service settings) now {} groups).run.hold server preparing.server).value <;>
    exact congrArg (Transcript.mk _ · _) (List.append_nil _)

/-- A run that has come to its groups recounts them in order. It prints how many there are, how many of
them have another strength now and how many have failed; but the first group that is missing ends it, and
then it prints no summary. The update of a group holds what a replay yields of the reports that the
database has given for it. -/
theorem command_recounts (environment : Settings.Environment) (arguments : List String)
    {asked : Arguments} {settings : Settings} (state : σ) {groups : List Int}
    (requested : Request.ofArguments (environment databaseKey) arguments = .ok (.run asked))
    (configured : Settings.ofEnvironment environment = .ok settings)
    (prepared : ((preparation asked.group).run.hold server state).value = .ok groups) :
    let preparing := (preparation asked.group).run.hold server state
    let runs := recountEach settings now server preparing.server groups
    let transcript := (command environment arguments now).hold server state
    Found asked.group preparing.exchanges groups ∧
    ((∀ run ∈ runs, ¬ run.Misses) →
      transcript.exchanges = preparing.exchanges ++ said runs ∧
        transcript.value = .finished
          { groups := groups.length
            changed := runs.countP GroupRun.changed
            failed := runs.countP GroupRun.failed } asked.json) ∧
    (∀ before run after group report, runs = before ++ run :: after →
      (∀ earlier ∈ before, ¬ earlier.Misses) →
      run.value = .error (.missingBikeGroup group report) →
        transcript.exchanges = preparing.exchanges ++ said (before ++ [run]) ∧
          transcript.value =
            { code := 1
              output := []
              complaint := some ("Error: " ++ (Failure.missingBikeGroup group report).message) }) ∧
    List.Forall₂ (fun group run =>
      (∃ before, run = ((service settings).recompute group now).run.hold server before) ∧
      ∀ after reply, ⟨.updateGroup after, reply⟩ ∈ run.exchanges →
        (Statement.updateGroup after).Replays settings group now run.exchanges) groups runs := by
  intro preparing runs transcript
  have course := Dialogue.course_hold server (preparation asked.group).run state
  rw [prepared] at course
  have held : transcript = _ :=
    hold_command now server requested configured (show _ = preparing from rfl) prepared
  dsimp only at held
  refine ⟨found_of_course_preparation course, fun complete => ?_,
    fun before run after group report split found missed => ?_,
    forall₂_recountEach settings now server preparing.server groups⟩
  · obtain ⟨value, exchanges⟩ :=
      hold_recomputeAll_complete settings now server {} preparing.server groups complete
    have counted : Tally.after {} runs =
        ⟨groups.length, runs.countP GroupRun.changed, runs.countP GroupRun.failed⟩ := by
      simp [Tally.after, runs, length_recountEach]
    simp only [held, value, exchanges]
    exact ⟨rfl, congrArg (Ending.finished · asked.json) counted⟩
  · obtain ⟨value, exchanges⟩ :=
      hold_recomputeAll_missed settings now server {} preparing.server groups split found
        ⟨group, report, missed⟩ missed
    simp only [held, value, exchanges, true_and]
    rfl

end

/-- The evidence of the first group has gone, the second group cannot be read, and the audit log is
down. -/
theorem command_recounts_two :
    let time := Json.text "2024-01-01T00:00:00Z"
    let report : Row := [("id", .int 1), ("public_id", .text "P0000001"), ("created_at", time),
      ("updated_at", time), ("status", .text "new"), ("lat", .int 52), ("lng", .int 5),
      ("accuracy_m", .int 5), ("tags", .array []), ("source", .text "web"),
      ("reporter_key", .text "user:1"), ("bike_group_id", .int 1)]
    let group : Row := [("id", .int 1), ("created_at", time), ("updated_at", time),
      ("anchor_lat", .int 52), ("anchor_lng", .int 5), ("last_report_at", time),
      ("total_reports", .int 1), ("unique_reporters", .int 1),
      ("same_reporter_reconfirmations", .int 1), ("distinct_reporter_reconfirmations", .int 0),
      ("signal_strength", .text "weak_same_reporter")]
    let script : Script :=
      { replies := List.replicate 9 (.affected 0) ++ [.rows [[("id", .int 1)], [("id", .int 2)]],
          .rows [group], .rows [report], .affected 1, .error "audit down", .error "timed out"] }
    let arguments := ["--database-url", "db"]
    let transcript := (command (fun _ => none) arguments default).hold Script.server script
    transcript.value =
        { code := 0, output := ["Recomputed 2 bike groups: 1 changed strength, 1 failed"] } := by
  intro time report group script arguments transcript
  have requested : Request.ofArguments none arguments = .ok (.run ⟨"db", none, false⟩) := rfl
  have configured : Settings.ofEnvironment (fun _ => none) = .ok {} := rfl
  have prepared : ((preparation none).run.hold Script.server script).value = .ok [1, 2] := rfl
  have ⟨_, complete, _⟩ := command_recounts default Script.server (fun _ => none) arguments script
    requested configured prepared
  exact (complete (by decide +kernel)).2.trans (by decide +kernel)

end AbandonedBikes.Recompute
