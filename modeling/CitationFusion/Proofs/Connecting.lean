import CitationFusion.Backends
import CitationFusion.Proofs.Deeds

/-!
# Connecting in order

To connect the stores of a configuration is a list of tasks: parts of the configuration have to be
right, databases have to be logged into, and statements have to be run. They are made in order, up
to the first that fails; nothing follows that.

* `Task`, `Backends.connectTasks` : what has to be done for a configuration, in order.
* `Orderly` : tasks that are made in order, up to the first that fails.
* `Makes`, `Makes.orderly` : a plan that makes tasks makes them in order, whoever answers its calls.
* `Backends.connect_makes` : connecting makes the tasks of a configuration.
* `Orderly.committed` : of a list of statements the last is sent if all others succeed.
* `Backends.connect_orderly` : what connecting does, and what a transaction of it sends.
-/

namespace CitationFusion

open Plan Plan.Deed

/-- A step of a plan of calls over the network. -/
abbrev WireDeed : Type := Deed WireCall WireCall.Answer

/-! ## 1. Tasks -/

/-- Something that has to be done to connect. -/
inductive Task where
  /-- A part of the configuration has to be right. -/
  | check (read : Except Failure Unit)
  | login (pool : Postgres.Pool)
  | run (pool : Postgres.Pool) (s : Postgres.Statement)

/-- Whether a task was done in some steps. -/
inductive Task.Done : Task → List WireDeed → Prop where
  | check : Task.Done (.check (.ok ())) []
  | login (pool : Postgres.Pool) :
      Task.Done (.login pool) [.called (.login pool) (Except.ok ())]
  | run (pool : Postgres.Pool) (s : Postgres.Statement) (rows : List Postgres.Row) :
      Task.Done (.run pool s) [.called (.execute pool s) (Except.ok rows)]

/-- Whether a task was not done in some steps, and how everything ends for that. -/
inductive Task.Stopped {α : Type} : Task → List WireDeed → Ending (Except Failure α) → Prop where
  | check (f : Failure) : Task.Stopped (.check (.error f)) [] (.finished (.error f))
  | login (pool : Postgres.Pool) (fault : Postgres.Fault) :
      Task.Stopped (.login pool) [.called (.login pool) (Except.error fault)]
        (.finished (.error (.storage fault.text)))
  | run (pool : Postgres.Pool) (s : Postgres.Statement) (fault : Postgres.Fault) :
      Task.Stopped (.run pool s) [.called (.execute pool s) (Except.error fault)]
        (.finished (.error (.storage fault.text)))
  /-- The database does not answer in time. -/
  | loginAbandoned (pool : Postgres.Pool) :
      Task.Stopped (.login pool) [.abandoned (.login pool)] .cutOff
  | runAbandoned (pool : Postgres.Pool) (s : Postgres.Statement) :
      Task.Stopped (.run pool s) [.abandoned (.execute pool s)] .cutOff

/-- Whether tasks were done in some steps, one after the other. -/
inductive Succeeded : List Task → List WireDeed → Prop where
  | nil : Succeeded [] []
  | cons {t : Task} {tasks : List Task} {ds ds' : List WireDeed} (done : t.Done ds)
      (rest : Succeeded tasks ds') : Succeeded (t :: tasks) (ds ++ ds')

/-- Whether tasks were made in order, in some steps, up to the first that failed: all of them were
    done, or one was not, and nothing was done behind that. -/
inductive Orderly {α : Type} : List Task → List WireDeed → Ending (Except Failure α) → Prop where
  | finished {tasks : List Task} {ds : List WireDeed} (done : Succeeded tasks ds) (a : α) :
      Orderly tasks ds (.finished (.ok a))
  | stopped {before later : List Task} {t : Task} {ds ds' : List WireDeed}
      {ending : Ending (Except Failure α)} (done : Succeeded before ds)
      (stop : t.Stopped ds' ending) : Orderly (before ++ t :: later) (ds ++ ds') ending

variable {α β σ : Type} {t : Task} {tasks tasks' : List Task} {ds ds' : List WireDeed}
  {ending : Ending (Except Failure α)}

theorem Orderly.cons (done : t.Done ds) (h : Orderly tasks ds' ending) :
    Orderly (t :: tasks) (ds ++ ds') ending := by
  cases h with
  | finished rest a => exact .finished (.cons done rest) a
  | stopped rest stop =>
    rw [← List.append_assoc, ← List.cons_append]
    exact .stopped (.cons done rest) stop

theorem Orderly.stop (stop : t.Stopped ds ending) (later : List Task) :
    Orderly (t :: later) ds ending := (Orderly.stopped .nil stop :)

/-! ## 2. Plans of tasks -/

/-- Whether a plan makes tasks one after the other, up to the first that fails, and then answers its
    failure. -/
inductive Makes : List Task → WirePlan (Except Failure α) → Prop where
  | done (a : α) : Makes [] (.done (.ok a))
  | checked {rest : List Task} {p : WirePlan (Except Failure α)} (h : Makes rest p) :
      Makes (.check (.ok ()) :: rest) p
  | refused (f : Failure) (rest : List Task) :
      Makes (.check (.error f) :: rest) (.done (.error f))
  | login {pool : Postgres.Pool} {rest : List Task}
      {next : Except Postgres.Fault Unit → WirePlan (Except Failure α)}
      (refused : ∀ fault, next (.error fault) = .done (.error (.storage fault.text)))
      (h : Makes rest (next (.ok ()))) : Makes (.login pool :: rest) (.call (.login pool) next)
  | run {pool : Postgres.Pool} {s : Postgres.Statement} {rest : List Task}
      {next : Except Postgres.Fault (List Postgres.Row) → WirePlan (Except Failure α)}
      (refused : ∀ fault, next (.error fault) = .done (.error (.storage fault.text)))
      (h : ∀ rows, Makes rest (next (.ok rows))) :
      Makes (.run pool s :: rest) (.call (.execute pool s) next)

variable {p : WirePlan (Except Failure α)}

/-- **Tasks of one plan are followed by those of the next.** -/
theorem Makes.bind {f : Except Failure α → WirePlan (Except Failure β)} (h : Makes tasks p)
    (failed : ∀ e, f (.error e) = .done (.error e)) (hf : ∀ a, Makes tasks' (f (.ok a))) :
    Makes (tasks ++ tasks') (p.bind f) := by
  induction h with
  | done a => exact hf a
  | checked _ ih => exact .checked ih
  | refused e rest =>
    -- what stands behind the part that is wrong is never reached, and may be longer
    show Makes _ (f (.error e))
    rw [failed]
    exact .refused e _
  | login refused _ ih =>
    refine .login (fun fault => ?_) ih
    rw [refused]
    exact failed _
  | run refused _ ih =>
    refine .run (fun fault => ?_) ih
    rw [refused]
    exact failed _

/-- What a plan answers in the end is no task. -/
theorem Makes.map {f : Except Failure α → Except Failure β} (h : Makes tasks p)
    (failed : ∀ e, f (.error e) = .error e) (value : α → β) (hf : ∀ a, f (.ok a) = .ok (value a)) :
    Makes tasks (p.map f) := by
  rw [← List.append_nil tasks]
  refine h.bind (fun e => congrArg Plan.done (failed e)) fun a => ?_
  rw [hf]
  exact .done _

/-- **A plan that makes tasks makes them in order**, whoever answers its calls. -/
theorem Makes.orderly (h : Makes tasks p) (w : World WireCall WireCall.Answer σ)
    (deadline : Option Instant) (drift : Nat → Duration) (n : Nat) (s : Scene σ) :
    Orderly tasks (p.deeds w deadline drift n s) (p.drifting w deadline drift n s).1 := by
  -- one task at a time: it is done, and the rest follows by induction, or it stops everything
  induction h generalizing n s with
  | done a => exact .finished .nil a
  | checked _ ih => exact .cons .check (ih n s)
  | refused f rest => exact .stop (.check f) rest
  | @login pool rest next refused _ ih =>
    rw [drifting_call, deeds_call]
    cases arrival deadline (s.later (drift n)).now (w.respond s.world (.login pool)).2.takes with
    | none => exact .stop (.loginAbandoned pool) rest
    | some now =>
      cases hanswer : (w.respond s.world (.login pool)).2.answer with
      | error fault =>
        simp only [refused]
        exact .stop (.login pool fault) rest
      | ok u => exact .cons (.login pool) (ih _ _)
  | @run pool statement rest next refused _ ih =>
    rw [drifting_call, deeds_call]
    cases arrival deadline (s.later (drift n)).now
      (w.respond s.world (.execute pool statement)).2.takes with
    | none => exact .stop (.runAbandoned pool statement) rest
    | some now =>
      cases hanswer : (w.respond s.world (.execute pool statement)).2.answer with
      | error fault =>
        simp only [refused]
        exact .stop (.run pool statement fault) rest
      | ok rows => exact .cons (.run pool statement rows) (ih rows _ _)

/-! ## 3. What is sent -/

/-- The calls of a task. -/
def Task.calls : Task → List WireCall
  | .check _ => []
  | .login pool => [.login pool]
  | .run pool s => [.execute pool s]

theorem Task.Done.made (h : t.Done ds) : made ds = t.calls := by
  cases h <;> rfl

theorem Task.Done.length (h : t.Done ds) : ds.length = t.calls.length := by
  cases h <;> rfl

theorem Task.Stopped.made (h : t.Stopped ds ending) : made ds = t.calls := by
  cases h <;> rfl

/-- A task that was done was not stopped by its steps. -/
theorem Task.Done.not_stopped (h : t.Done ds) : ¬ t.Stopped (ds ++ ds') ending := by
  intro stop
  cases h with
  | check => cases stop
  | login => cases stop
  | run => cases stop

theorem Succeeded.made (h : Succeeded tasks ds) : made ds = tasks.flatMap Task.calls := by
  induction h with
  | nil => rfl
  | cons done _ ih => rw [made_append, done.made, ih, List.flatMap_cons]

theorem Succeeded.length (h : Succeeded tasks ds) :
    ds.length = (tasks.flatMap Task.calls).length := by
  induction h with
  | nil => rfl
  | cons done _ ih =>
    rw [List.length_append, done.length, ih, List.flatMap_cons, List.length_append]

theorem Succeeded.split (h : Succeeded (tasks ++ tasks') ds) :
    ∃ ds₁ ds₂, ds = ds₁ ++ ds₂ ∧ Succeeded tasks ds₁ ∧ Succeeded tasks' ds₂ := by
  induction tasks generalizing ds with
  | nil => exact ⟨[], ds, rfl, .nil, h⟩
  | cons t tasks ih =>
    cases h with
    | cons done rest =>
      obtain ⟨ds₁, ds₂, rfl, h₁, h₂⟩ := ih rest
      exact ⟨_ ++ ds₁, ds₂, (List.append_assoc _ _ _).symm, .cons done h₁, h₂⟩

/-- **Behind a task that was stopped, nothing was done.** -/
theorem Task.Stopped.not_succeeded {before later : List Task} {front : List WireDeed}
    (stop : t.Stopped ds' ending) (done : Succeeded before ds) (hfront : front <+: ds ++ ds') :
    ¬ Succeeded (before ++ t :: later) front := by
  intro h
  obtain ⟨ds₁, ds₂, rfl, h₁, h₂⟩ := h.split
  obtain ⟨rest, hrest⟩ := hfront
  rw [List.append_assoc] at hrest
  obtain ⟨-, rfl⟩ := List.append_inj hrest (h₁.length.trans done.length.symm)
  cases h₂ with
  | cons hdone _ =>
    rw [List.append_assoc] at stop
    exact hdone.not_stopped stop

/-- **Everything ends well exactly when all tasks were done.** -/
theorem Orderly.finished_iff (h : Orderly tasks ds ending) :
    (∃ a, ending = .finished (.ok a)) ↔ Succeeded tasks ds := by
  cases h with
  | finished done a => exact ⟨fun _ => done, fun _ => ⟨a, rfl⟩⟩
  | stopped done stop =>
    constructor
    · rintro ⟨a, rfl⟩
      cases stop
    · exact fun h => absurd h (stop.not_succeeded done (List.prefix_refl _))

/-- **The last of some statements is sent exactly when all before it succeeded.** -/
theorem Orderly.committed {pool : Postgres.Pool} {front : List Postgres.Statement}
    {last : Postgres.Statement} (h : Orderly ((front ++ [last]).map (.run pool)) ds ending) :
    made ds = (front ++ [last]).map (.execute pool) ↔
      ∃ ds₁, ds₁ <+: ds ∧ Succeeded (front.map (.run pool)) ds₁ := by
  have hcalls : (front ++ [last]).map (WireCall.execute pool) =
      ((front ++ [last]).map (Task.run pool)).flatMap Task.calls := by
    rw [List.flatMap_map]
    exact List.map_eq_flatMap
  rw [hcalls]
  -- the statements are known as the list of tasks only, so that the cases of `h` can be split
  generalize htasks : (front ++ [last]).map (Task.run pool) = tasks at h ⊢
  rw [List.map_append] at htasks
  cases h with
  | finished done a =>
    refine ⟨fun _ => ?_, fun _ => done.made⟩
    rw [← htasks] at done
    obtain ⟨ds₁, ds₂, rfl, h₁, -⟩ := done.split
    exact ⟨ds₁, List.prefix_append _ _, h₁⟩
  | @stopped before later t ds ds' _ done stop =>
    rw [made_append, done.made, stop.made]
    rcases List.eq_nil_or_concat later with rfl | ⟨later, x, rfl⟩
    · obtain ⟨rfl, -⟩ := List.append_inj' htasks rfl
      refine ⟨fun _ => ⟨ds, List.prefix_append _ _, done⟩, fun _ => ?_⟩
      simp
    · -- another statement was the first to fail, so the last one is not sent
      have hsplit : front.map (Task.run pool) ++ [.run pool last] =
          (before ++ t :: later) ++ [x] := by simpa using htasks
      obtain ⟨hfront, hx⟩ := List.append_inj' hsplit rfl
      cases hx
      constructor
      · intro hmade
        have hlength := congrArg List.length hmade
        simp [Task.calls] at hlength
      · rintro ⟨ds₁, hprefix, hdone⟩
        rw [hfront] at hdone
        exact absurd hdone (stop.not_succeeded done hprefix)

/-! ## 4. Connecting -/

namespace Backends

/-- A transaction up to where it is committed: it takes the lock, and runs the statements of a
    script. -/
def opening (script : String) : List Postgres.Statement :=
  ⟨"BEGIN", []⟩ :: ⟨"SELECT pg_advisory_xact_lock($1)", [.number Postgres.Pool.lockKey]⟩ ::
    (Postgres.statements script).map (⟨·, []⟩)

/-- What commits a transaction. -/
def commit : Postgres.Statement := ⟨"COMMIT", []⟩

/-- The tasks of connecting a database: to read its address, to log in, and to run the transaction
    that creates the tables of a script. -/
def databaseTasks (number : Nat) (d : Config.Database) (script : String) : List Task :=
  match Postgres.Address.parse d.dsn with
  | .error fault => [.check (.error (.storage fault.text))]
  | .ok address =>
    let pool : Postgres.Pool := ⟨number, address, d.poolMaxConns⟩
    .login pool :: (opening script ++ [commit]).map (.run pool)

/-- The tasks of connecting a store of metadata: to read its URL, or to connect its database. -/
def backendTasks (number : Nat) : Config.Backend → List Task
  | .http url =>
    [.check (match IndexService.ofText url with
      | .ok _ => .ok ()
      | .error failure => .error (.indexData failure.text))]
  | .postgres d => databaseTasks number d Postgres.indexData

/-- The tasks of connecting stores of metadata, in order. -/
def indexTasks (number : Nat) : List Config.Backend → List Task
  | [] => []
  | b :: rest => backendTasks number b ++ indexTasks (number + 1) rest

/-- The tasks of connecting the stores of a configuration: identifiers, citations, then metadata. -/
def connectTasks (c : Config) : List Task :=
  databaseTasks 0 c.storage.identifiers Postgres.identifierMap ++
    (databaseTasks 1 c.storage.citations Postgres.citationMap ++
      indexTasks 2 c.indexData.backends)

/-- Running statements makes a task of each. -/
theorem runAll_makes (pool : Postgres.Pool) (statements : List Postgres.Statement) :
    Makes (statements.map (.run pool)) (pool.runAll statements).lift := by
  induction statements with
  | nil => exact .done ()
  | cons s rest ih => exact .run (fun _ => rfl) fun _ => ih

/-- Creating tables makes the tasks of a transaction. -/
theorem bootstrap_makes (pool : Postgres.Pool) (script : String) :
    Makes ((opening script ++ [commit]).map (.run pool)) (pool.bootstrap script).lift :=
  runAll_makes pool (opening script ++ [commit])

theorem connectDatabase_makes (number : Nat) (d : Config.Database) (script : String) :
    Makes (databaseTasks number d script) (connectDatabase number d script) := by
  unfold databaseTasks connectDatabase Postgres.Pool.connect
  cases Postgres.Address.parse d.dsn with
  | error fault => exact .refused _ _
  | ok address =>
    refine .login (fun _ => rfl) ?_
    exact (bootstrap_makes _ script).map (fun _ => rfl)
      (fun _ => ⟨number, address, d.poolMaxConns⟩) fun _ => rfl

theorem connectBackend_makes (number : Nat) (b : Config.Backend) :
    Makes (backendTasks number b) (connectBackend number b) := by
  cases b with
  | http url =>
    simp only [backendTasks, connectBackend]
    cases IndexService.ofText url with
    | error failure => exact .refused _ _
    | ok service => exact .checked (.done _)
  | postgres d => exact (connectDatabase_makes _ _ _).map (fun _ => rfl) .postgres fun _ => rfl

theorem connectAll_makes (connected : List Backend) (number : Nat)
    (backends : List Config.Backend) :
    Makes (indexTasks number backends) (connectAll connected number backends) := by
  induction backends generalizing connected number with
  | nil => exact .done connected
  | cons b rest ih => exact (connectBackend_makes number b).bind (fun _ => rfl) fun _ => ih _ _

/-- **Connecting makes the tasks of a configuration.** -/
theorem connect_makes (c : Config) : Makes (connectTasks c) (connect c) := by
  refine (connectDatabase_makes _ _ _).bind (fun _ => rfl) fun identifiers => ?_
  refine (connectDatabase_makes _ _ _).bind (fun _ => rfl) fun citations => ?_
  exact (connectAll_makes [] 2 c.indexData.backends).map (fun _ => rfl)
    (fun indexData => ⟨identifiers, citations, indexData⟩) fun _ => rfl

/-- **Connecting makes the tasks of a configuration in order, up to the first that fails**, whoever
    answers, and ends well exactly when all of them are done. Each table is created in a transaction
    whose statements are sent in order, up to the first that fails; it is committed exactly when all
    others succeed. -/
theorem connect_orderly (w : World WireCall WireCall.Answer σ) (deadline : Option Instant)
    (drift : Nat → Duration) (n : Nat) (s : Scene σ) :
    (∀ c : Config,
      let ds := (connect c).deeds w deadline drift n s
      let ending := ((connect c).drifting w deadline drift n s).1
      Orderly (connectTasks c) ds ending ∧
      ((∃ stores, ending = .finished (.ok stores)) ↔ Succeeded (connectTasks c) ds)) ∧
    ∀ (pool : Postgres.Pool) (script : String),
      let plan := (pool.bootstrap script).lift
      let ds := plan.deeds w deadline drift n s
      Orderly ((opening script ++ [commit]).map (.run pool)) ds
        (plan.drifting w deadline drift n s).1 ∧
      (made ds = (opening script ++ [commit]).map (.execute pool) ↔
        ∃ front, front <+: ds ∧ Succeeded ((opening script).map (.run pool)) front) := by
  constructor
  · intro c ds ending
    have orderly := (connect_makes c).orderly w deadline drift n s
    exact ⟨orderly, orderly.finished_iff⟩
  · intro pool script plan ds
    have orderly := (bootstrap_makes pool script).orderly w deadline drift n s
    exact ⟨orderly, orderly.committed⟩

end Backends

end CitationFusion
