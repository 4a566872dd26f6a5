import AbandonedBikes.Proofs.Session.Trail
/-!
# Reports put in by hand

A report can also be put straight into the tables, past the service. Then nothing is recorded, and the
counters of its group are stale until a recount heals them. `World.after` follows a service in memory
through requests and such reports in any order, and `World.trail` is the induction for what joins the
tables with the log on the way.
-/

namespace AbandonedBikes

variable {σ : Type}

/-- What can happen to a service in memory. -/
inductive Happening where
  /-- The service is asked something. -/
  | asked (request : Request)
  /-- A report is put into a group, past the service. -/
  | inserted (new : NewReport) (group : Int)

namespace World

/-- The world after something has happened. Nothing is put into a group that is not there. -/
def next [Trigonometry] (behaviour : AuditBehaviour σ) (settings : Settings) (world : World σ) :
    Happening → World σ
  | .asked request => (((Service.inMemory behaviour settings).serve request).on world).2
  | .inserted new group =>
    match world.tables.group? group with
    | some _ => (((Service.inMemory behaviour settings).store.insertReport new group).on world).2
    | none => world

/-- The world after some things have happened, one after another. -/
def after [Trigonometry] (behaviour : AuditBehaviour σ) (settings : Settings) (world : World σ)
    (happenings : List Happening) : World σ :=
  happenings.foldl (next behaviour settings) world

theorem after_concat [Trigonometry] (behaviour : AuditBehaviour σ) (settings : Settings)
    (world : World σ) (happenings : List Happening) (happening : Happening) :
    after behaviour settings world (happenings ++ [happening]) =
      (after behaviour settings world happenings).next behaviour settings happening := by
  simp [after]

/-- What holds of empty tables and an empty log, and is kept by every turn and every report that is put
into a group, holds whatever happens. -/
theorem trail [Trigonometry] (settings : Settings) (clock : Instant) {P : Tables → List Fact → Prop}
    (start : P {} [])
    (turn : ∀ tables facts request result notes after, P tables facts →
      Turn settings tables request result notes after → P after (facts ++ notes.map Note.fact))
    (insert : ∀ tables facts new group before, P tables facts →
      tables.group? group = some before → P (tables.insertReport new group).2 facts)
    (happenings : List Happening) :
    let world := after MemoryLog.behaviour settings ⟨{ clock }, {}⟩ happenings
    ∃ facts, world.log.Holds facts ∧ world.log.Sequential ∧ P world.tables facts := by
  induction happenings using List.reverseRecOn with
  | nil => exact ⟨[], .nil, .nil 0, start⟩
  | append_singleton earlier happening ih =>
    intro world
    obtain ⟨facts, holds, sequential, kept⟩ := ih
    simp only [world, after_concat]
    generalize after MemoryLog.behaviour settings ⟨{ clock }, {}⟩ earlier = before at *
    cases happening with
    | asked request =>
      obtain ⟨notes, served, recorded⟩ :=
        Service.serve_turn MemoryLog.behaviour settings before request
      have log := recorded MemoryLog.onlyReads
      refine ⟨facts ++ notes.map Note.fact, ?_, ?_, turn _ _ _ _ _ _ kept served⟩
      · rw [next, log]
        exact holds.noting notes
      · rw [next, log]
        exact sequential.noting notes
    | inserted new group =>
      rw [next]
      cases found : before.tables.group? group with
      | some _ => exact ⟨facts, holds, sequential, insert _ _ _ _ _ kept found⟩
      | none => exact ⟨facts, holds, sequential, kept⟩

end World

end AbandonedBikes
