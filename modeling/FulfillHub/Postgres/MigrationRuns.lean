import FulfillHub.Library.Simulator
import FulfillHub.Postgres.Migrations
import FulfillHub.Postgres.Store

/-!
# Executions of the migrations

The advisory lock lets one execution of `runMigrations` run at a time. Each of its statements succeeds or fails, the
process can die between any two of them, and the store writes other tables at any time. The system remembers the bodies
that completed, in order.

A body is executed when its version is not recorded, and it is recorded by a statement of its own. So an execution that
stops between the two leaves a body that has completed and will be executed again.
-/

namespace FulfillHub

open Interaction MigrationStatement

section Database

variable {D : Type}

def undefinedTable : PgError := ⟨"42P01", "relation \"schema_migrations\" does not exist"⟩

/-- The effect of a statement that does not fail. -/
def MigrationsFS.execute (fs : MigrationsFS D) (db : MigratedDatabase D) :
    (c : MigrationStatement) → Except Error (c.Result × MigratedDatabase D)
  | .acquireLock => .ok ((), db)
  | .releaseLock => .ok ((), db)
  | .ensureSchemaMigrations => .ok ((), { db with schemaMigrations := some db.recorded })
  | .migrationApplied version =>
    match db.schemaMigrations with
    | none => .error (.plain undefinedTable.text)
    | some versions => .ok (versions.contains version, db)
  | .apply name => (fs.body name db).map fun db => ((), db)
  | .record version =>
    match db.schemaMigrations with
    | none => .error (.plain undefinedTable.text)
    | some versions =>
      .ok ((), { db with
        schemaMigrations := some (if versions.contains version then versions else versions ++ [version]) })

/-- The bodies that complete with a statement. -/
def MigrationStatement.bodies : MigrationStatement → List String
  | .apply name => [name]
  | _ => []

end Database

/-! ### The system -/

structure MigrationExecution where
  trace : Trace Answer
  prog : Migration (Except Error Unit)

structure MigrationState (D : Type) where
  db : MigratedDatabase D
  execution : Option MigrationExecution
  completed : List String

/-- The statement the execution sends next. -/
def MigrationExecution.statement? (e : MigrationExecution) : Option MigrationStatement :=
  match e.prog with
  | .ret _ => none
  | .call c _ => some c

/-- The execution has returned. -/
def MigrationExecution.returned? (e : MigrationExecution) : Option (Except Error Unit) := e.prog.returned?

inductive MigrationLabel (D : Type)
  | start
  | succeed
  | fail (err : Error)
  | die
  | activity (tables : D)

section System

variable {D : Type} (fs : MigrationsFS D)

def MigrationState.next (s : MigrationState D) : MigrationLabel D → Option (MigrationState D)
  | .start =>
    if (s.execution.bind MigrationExecution.statement?).isSome then none
    else some { s with execution := some ⟨[], runMigrations fs⟩ }
  | .succeed =>
    match s.execution with
    | some ⟨trace, .call c next⟩ =>
      match fs.execute s.db c with
      | .ok (r, db) => some ⟨db, some ⟨trace ++ [⟨c, .ok r⟩], next (.ok r)⟩, s.completed ++ c.bodies⟩
      | .error _ => none
    | _ => none
  | .fail err =>
    match s.execution with
    | some ⟨trace, .call c next⟩ => some { s with execution := some ⟨trace ++ [⟨c, .error err⟩], next (.error err)⟩ }
    | _ => none
  | .die => some { s with execution := none }
  | .activity tables => some { s with db := { s.db with tables } }

def migrationRuns : Lts (MigrationState D) (MigrationLabel D) where
  init s := s.db.recorded = [] ∧ s.execution = none ∧ s.completed = []
  step s l t := s.next fs l = some t

/-- The statement the execution under way sends next. -/
def MigrationState.statement? (s : MigrationState D) : Option MigrationStatement :=
  s.execution.bind MigrationExecution.statement?

/-- No execution stops when it has to record a body that completed, and no body writes `schema_migrations`. -/
def Uninterrupted (s : MigrationState D) : MigrationLabel D → Prop
  | .die | .fail _ => ∀ version, s.statement? ≠ some (.record version)
  | .succeed => ∀ name db, s.statement? = some (.apply name) → fs.body name s.db = .ok db →
      db.schemaMigrations = s.db.schemaMigrations
  | .start | .activity _ => True

/-- What migrations that take effect exactly once come to. -/
structure ExactlyOnce (s : MigrationState D) : Prop where
  once : s.completed.Nodup
  ordered : s.completed.Pairwise (· < ·)
  recorded : ∀ version ∈ s.db.recorded, ∃ name ∈ s.completed, versionOf name = version
  returned : ∀ e, s.execution = some e → e.returned? = some (.ok ()) → ∀ name ∈ fs.names, versionOf name ∈ s.db.recorded

end System

/-! ### One step -/

section Steps

variable {D : Type} {fs : MigrationsFS D} {s t : MigrationState D} {l : MigrationLabel D} {db db' : MigratedDatabase D}
  {c : MigrationStatement}

/-- An execution starts where none is under way, a statement of the execution under way is answered, the execution is
gone, or other tables change. -/
theorem MigrationState.next_cases (h : s.next fs l = some t) :
    (l = .start ∧ s.statement? = none ∧ t = { s with execution := some ⟨[], runMigrations fs⟩ }) ∨
    (∃ (trace : Trace Answer) (c : MigrationStatement) (next : c.Answer → Migration (Except Error Unit)) (r : c.Result)
      (db : MigratedDatabase D), l = .succeed ∧ s.execution = some ⟨trace, .call c next⟩ ∧
      fs.execute s.db c = .ok (r, db) ∧ t = ⟨db, some ⟨trace ++ [⟨c, .ok r⟩], next (.ok r)⟩, s.completed ++ c.bodies⟩) ∨
    (∃ (trace : Trace Answer) (c : MigrationStatement) (next : c.Answer → Migration (Except Error Unit)) (err : Error),
      l = .fail err ∧ s.execution = some ⟨trace, .call c next⟩ ∧
      t = { s with execution := some ⟨trace ++ [⟨c, .error err⟩], next (.error err)⟩ }) ∨
    (l = .die ∧ t = { s with execution := none }) ∨
    ∃ tables, l = .activity tables ∧ t = { s with db := { s.db with tables } } := by
  cases l with
  | start =>
    simp only [next] at h
    split at h
    · cases h
    · rename_i hfree
      exact .inl ⟨rfl, by simpa [statement?] using hfree, (Option.some.inj h).symm⟩
  | succeed =>
    simp only [next] at h
    split at h
    · rename_i trace c next hexecution
      split at h
      · rename_i r db hexecute
        exact .inr (.inl ⟨trace, c, next, r, db, rfl, hexecution, hexecute, (Option.some.inj h).symm⟩)
      · cases h
    · cases h
  | fail err =>
    simp only [next] at h
    split at h
    · rename_i trace c next hexecution
      exact .inr (.inr (.inl ⟨trace, c, next, err, rfl, hexecution, (Option.some.inj h).symm⟩))
    · cases h
  | die => exact .inr (.inr (.inr (.inl ⟨rfl, (Option.some.inj h).symm⟩)))
  | activity tables => exact .inr (.inr (.inr (.inr ⟨tables, rfl, (Option.some.inj h).symm⟩)))

theorem recorded_of_execute {r : c.Result} (h : fs.execute db c = .ok (r, db'))
    (hbody : ∀ name, c = .apply name → ∀ db', fs.body name db = .ok db' → db'.schemaMigrations = db.schemaMigrations) :
    (∀ version, c = .record version → ∀ other, other ∈ db'.recorded ↔ other ∈ db.recorded ∨ other = version) ∧
      ((∀ version, c ≠ .record version) → db'.recorded = db.recorded) := by
  cases c with
  | acquireLock | releaseLock | ensureSchemaMigrations =>
    cases h
    exact ⟨fun _ => nofun, fun _ => rfl⟩
  | migrationApplied version =>
    refine ⟨fun _ => nofun, fun _ => ?_⟩
    simp only [MigrationsFS.execute] at h
    split at h
    · cases h
    · cases h
      rfl
  | apply name =>
    refine ⟨fun _ => nofun, fun _ => ?_⟩
    simp only [MigrationsFS.execute] at h
    cases hrun : fs.body name db with
    | error err => simp [hrun, Except.map] at h
    | ok db'' =>
      simp only [hrun, Except.map, Except.ok.injEq, Prod.mk.injEq, true_and] at h
      subst h
      rw [MigratedDatabase.recorded, MigratedDatabase.recorded, hbody name rfl db'' hrun]
  | record version =>
    refine ⟨?_, fun hother => absurd rfl (hother version)⟩
    rintro _ ⟨⟩ other
    simp only [MigrationsFS.execute] at h
    split at h
    · cases h
    · rename_i versions hversions
      cases h
      rw [MigratedDatabase.recorded, MigratedDatabase.recorded, hversions]
      by_cases hmem : version ∈ versions
      · simp only [Option.getD_some, List.contains_iff_mem, hmem, if_true]
        constructor
        · exact .inl
        · rintro (h | rfl)
          · exact h
          · exact hmem
      · simp [hmem]

theorem migrationApplied_eq_ok {version : String} {found : Bool}
    (h : fs.execute db (.migrationApplied version) = .ok (found, db')) : found = true ↔ version ∈ db.recorded := by
  simp only [MigrationsFS.execute] at h
  split at h
  · cases h
  · rename_i versions hversions
    cases h
    simp [MigratedDatabase.recorded, hversions]

end Steps

/-! ### The invariant -/

/-- An execution keeps its contract, and what it has read and written is so. -/
structure ExecutionSound {D : Type} (fs : MigrationsFS D) (s : MigrationState D) (e : MigrationExecution) : Prop where
  follows : (migrationContract fs.names).Follows e.trace e.prog
  settled : ∀ name, VersionSettled e.trace name → versionOf name ∈ s.db.recorded
  missing : ∀ version, e.trace.getLast? = some ⟨.migrationApplied version, .ok false⟩ → version ∉ s.db.recorded
  completed : ∀ name, Completed e.trace name → name ∈ s.completed

/-- The bodies that completed are the first ones, and all of them are recorded but the one that is about to be. -/
structure MigrationsSound {D : Type} (fs : MigrationsFS D) (s : MigrationState D) : Prop where
  first : s.completed <+: fs.names
  recorded : ∀ version ∈ s.db.recorded, ∃ name ∈ s.completed, versionOf name = version
  pending : ∀ name ∈ s.completed, versionOf name ∈ s.db.recorded ∨ ∃ e, s.execution = some e ∧ Completed e.trace name
  execution : ∀ e, s.execution = some e → ExecutionSound fs s e

section Invariant

variable {D : Type} {fs : MigrationsFS D} {s t : MigrationState D} {e : MigrationExecution} {name : String}

theorem ExecutionSound.statement? (h : ExecutionSound fs s e) (hcompleted : Completed e.trace name) :
    e.statement? = some (.record (versionOf name)) := by
  have hfollows := h.follows
  unfold MigrationExecution.statement?
  cases hprog : e.prog with
  | ret result =>
    rw [hprog] at hfollows
    exact absurd hcompleted (hfollows.returns.1 name)
  | call c next =>
    rw [hprog] at hfollows
    exact congrArg some (hfollows.allowed.2.2 name hcompleted)

theorem MigrationsSound.quiet (h : MigrationsSound fs s) (hquiet : ∀ version, s.statement? ≠ some (.record version)) :
    ∀ name ∈ s.completed, versionOf name ∈ s.db.recorded := by
  intro name hname
  obtain hrecorded | ⟨e, he, hcompleted⟩ := h.pending name hname
  · exact hrecorded
  · have hstatement := (h.execution e he).statement? hcompleted
    rw [MigrationState.statement?, he] at hquiet
    exact absurd hstatement (hquiet _)

theorem MigrationsSound.completed_eq (h : MigrationsSound fs s) {done rest : List String}
    (hnames : fs.names = done ++ name :: rest) (hdone : ∀ earlier ∈ done, versionOf earlier ∈ s.db.recorded)
    (hcompleted : name ∉ s.completed) : s.completed = done := by
  have hmem : ∀ earlier ∈ done, earlier ∈ s.completed := by
    intro earlier hearlier
    obtain ⟨other, hother, hversion⟩ := h.recorded _ (hdone earlier hearlier)
    have hname : earlier ∈ fs.names := by simp [hnames, hearlier]
    exact fs.eq_of_versionOf (h.first.subset hother) hname hversion ▸ hother
  have hnodup : done.Nodup := by
    have hall : fs.names.Nodup := fs.names_sorted.imp ne_of_lt
    rw [hnames] at hall
    exact (List.nodup_append.mp hall).1
  have hupto : done ++ [name] <+: fs.names := ⟨rest, by simp [hnames]⟩
  have hfirst : s.completed <+: done := by
    obtain hless | hmore := List.prefix_or_prefix_of_prefix h.first hupto
    · obtain hall | hless := List.prefix_concat_iff.mp hless
      · exact absurd (by simp [hall]) hcompleted
      · exact hless
    · exact absurd (hmore.subset (by simp)) hcompleted
  exact hfirst.eq_of_length_le (hnodup.subperm hmem).length_le

theorem MigrationsSound.activity (h : MigrationsSound fs s) (tables : D) :
    MigrationsSound fs { s with db := { s.db with tables } } := by
  refine ⟨h.first, h.recorded, h.pending, ?_⟩
  intro e he
  have hsound := h.execution e he
  exact ⟨hsound.follows, hsound.settled, hsound.missing, hsound.completed⟩

/-- An execution may be gone, and another one started, where no version has to be recorded. -/
theorem MigrationsSound.restart (h : MigrationsSound fs s) (hquiet : ∀ version, s.statement? ≠ some (.record version))
    {execution : Option MigrationExecution} (hexecution : ∀ e, execution = some e → e = ⟨[], runMigrations fs⟩) :
    MigrationsSound fs { s with execution } := by
  refine ⟨h.first, h.recorded, fun name hname => .inl (h.quiet hquiet name hname), ?_⟩
  intro e he
  rw [hexecution e he]
  exact ⟨follows_runMigrations fs, fun _ => nofun, fun _ => nofun, fun _ => nofun⟩

theorem settled_snoc {trace : Trace Answer} {x : Exchange Answer} (h : VersionSettled (trace ++ [x]) name) :
    VersionSettled trace name ∨ x = ⟨.migrationApplied (versionOf name), .ok true⟩ ∨
      x = ⟨.record (versionOf name), .ok ()⟩ := by
  simp only [VersionSettled, List.mem_append, List.mem_singleton] at h
  obtain (hold | hnew) | (hold | hnew) := h
  · exact .inl (.inl hold)
  · exact .inr (.inl hnew.symm)
  · exact .inl (.inr hold)
  · exact .inr (.inr hnew.symm)

section Answered

variable {trace : Trace Answer} {c : MigrationStatement} {next : c.Answer → Migration (Except Error Unit)}

theorem MigrationsSound.failed (h : MigrationsSound fs s) (hexecution : s.execution = some ⟨trace, .call c next⟩)
    (hquiet : ∀ version, s.statement? ≠ some (.record version)) (err : Error) :
    MigrationsSound fs { s with execution := some ⟨trace ++ [⟨c, .error err⟩], next (.error err)⟩ } := by
  have hsound := h.execution _ hexecution
  refine ⟨h.first, h.recorded, fun name hname => .inl (h.quiet hquiet name hname), ?_⟩
  rintro _ ⟨⟩
  refine ⟨hsound.follows.next _, ?_, ?_, ?_⟩
  · intro name hsettled
    obtain hold | hnew | hnew := settled_snoc hsettled
    · exact hsound.settled name hold
    · cases hnew
    · cases hnew
  · intro version hlast
    simp only [List.getLast?_concat, Option.some.injEq] at hlast
    cases hlast
  · intro name hcompleted
    cases completed_snoc.mp hcompleted

theorem ExecutionSound.succeeded (h : ExecutionSound fs s ⟨trace, .call c next⟩) {r : c.Result}
    {db : MigratedDatabase D} (hexecute : fs.execute s.db c = .ok (r, db))
    (hbody : ∀ name, c = .apply name → ∀ db', fs.body name s.db = .ok db' →
      db'.schemaMigrations = s.db.schemaMigrations) :
    ExecutionSound fs ⟨db, some ⟨trace ++ [⟨c, .ok r⟩], next (.ok r)⟩, s.completed ++ c.bodies⟩
      ⟨trace ++ [⟨c, .ok r⟩], next (.ok r)⟩ := by
  obtain ⟨hrecord, hkept⟩ := recorded_of_execute hexecute hbody
  have hmono : ∀ version ∈ s.db.recorded, version ∈ db.recorded := by
    intro version hversion
    cases c with
    | record other => exact (hrecord other rfl version).mpr (.inl hversion)
    | _ => exact hkept (fun _ => nofun) ▸ hversion
  refine ⟨h.follows.next _, ?_, ?_, ?_⟩
  · intro name hsettled
    obtain hold | hnew | hnew := settled_snoc hsettled
    · exact hmono _ (h.settled name hold)
    · cases hnew
      exact hmono _ ((migrationApplied_eq_ok hexecute).mp rfl)
    · cases hnew
      exact (hrecord _ rfl _).mpr (.inr rfl)
  · intro version hlast
    simp only [List.getLast?_concat, Option.some.injEq] at hlast
    cases hlast
    intro hmem
    have hfound := (migrationApplied_eq_ok hexecute).mpr (hkept (fun _ => nofun) ▸ hmem)
    cases hfound
  · intro name hcompleted
    cases completed_snoc.mp hcompleted
    exact List.mem_append_right _ (List.mem_singleton.mpr rfl)

theorem MigrationsSound.recordedVersion (h : MigrationsSound fs s) {version : String} {db : MigratedDatabase D}
    (hsound : ExecutionSound fs s e) (hexecution : s.execution = some e)
    (hcompleted : Completed e.trace name) (hversion : version = versionOf name)
    (hrecord : ∀ other, other ∈ db.recorded ↔ other ∈ s.db.recorded ∨ other = version) {e' : MigrationExecution}
    (hsound' : ExecutionSound fs ⟨db, some e', s.completed⟩ e') : MigrationsSound fs ⟨db, some e', s.completed⟩ := by
  refine ⟨h.first, ?_, ?_, ?_⟩
  · intro other hother
    obtain hold | rfl := (hrecord other).mp hother
    · exact h.recorded other hold
    · exact ⟨name, hsound.completed name hcompleted, hversion.symm⟩
  · intro other hother
    left
    apply (hrecord _).mpr
    obtain hold | ⟨_, he, hlast⟩ := h.pending other hother
    · exact .inl hold
    · obtain rfl := Option.some.inj (hexecution.symm.trans he)
      cases Option.some.inj (hcompleted.symm.trans hlast)
      exact .inr hversion.symm
  · rintro _ ⟨⟩
    exact hsound'

theorem MigrationsSound.completedBody (h : MigrationsSound fs s) {db : MigratedDatabase D}
    (hquiet : ∀ name ∈ s.completed, versionOf name ∈ s.db.recorded) (hmissing : versionOf name ∉ s.db.recorded)
    {done rest : List String} (hnames : fs.names = done ++ name :: rest)
    (hdone : ∀ earlier ∈ done, versionOf earlier ∈ s.db.recorded) (hkept : db.recorded = s.db.recorded)
    {e' : MigrationExecution} (hlast : Completed e'.trace name)
    (hsound' : ExecutionSound fs ⟨db, some e', s.completed ++ [name]⟩ e') :
    MigrationsSound fs ⟨db, some e', s.completed ++ [name]⟩ := by
  have hcompleted : s.completed = done := h.completed_eq hnames hdone fun hmem => hmissing (hquiet name hmem)
  refine ⟨⟨rest, by simp [hcompleted, hnames]⟩, ?_, ?_, ?_⟩
  · intro version hversion
    obtain ⟨other, hother, hof⟩ := h.recorded version (hkept ▸ hversion)
    exact ⟨other, List.mem_append_left _ hother, hof⟩
  · intro other hother
    obtain hold | hnew := List.mem_append.mp hother
    · exact .inl (hkept ▸ hquiet other hold)
    · obtain rfl := List.mem_singleton.mp hnew
      exact .inr ⟨e', rfl, hlast⟩
  · rintro _ ⟨⟩
    exact hsound'

theorem MigrationsSound.succeeded (h : MigrationsSound fs s) (hexecution : s.execution = some ⟨trace, .call c next⟩)
    {r : c.Result} {db : MigratedDatabase D} (hexecute : fs.execute s.db c = .ok (r, db))
    (hbody : ∀ name, c = .apply name → ∀ db', fs.body name s.db = .ok db' →
      db'.schemaMigrations = s.db.schemaMigrations) :
    MigrationsSound fs ⟨db, some ⟨trace ++ [⟨c, .ok r⟩], next (.ok r)⟩, s.completed ++ c.bodies⟩ := by
  have hsound := h.execution _ hexecution
  have hsound' := hsound.succeeded hexecute hbody
  obtain ⟨hrecord, hkept⟩ := recorded_of_execute hexecute hbody
  obtain ⟨happly, hstored, -⟩ := hsound.follows.allowed
  have hstatement : s.statement? = some c := by
    rw [MigrationState.statement?, hexecution]
    rfl
  by_cases hrecords : ∃ version, c = .record version
  · obtain ⟨version, rfl⟩ := hrecords
    obtain ⟨name, hversion, hcompleted⟩ := hstored version rfl
    simp only [MigrationStatement.bodies, List.append_nil] at hsound' ⊢
    exact h.recordedVersion hsound hexecution hcompleted hversion (hrecord version rfl) hsound'
  · have hother : ∀ version, c ≠ .record version := fun version heq => hrecords ⟨version, heq⟩
    have hquiet := h.quiet fun version heq => hother version (Option.some.inj (hstatement.symm.trans heq))
    by_cases hbodies : ∃ name, c = .apply name
    · obtain ⟨name, rfl⟩ := hbodies
      obtain ⟨hlast, done, rest, hnames, hdone⟩ := happly name rfl
      exact h.completedBody hquiet (hsound.missing _ hlast) hnames
        (fun earlier hmem => hsound.settled _ (hdone earlier hmem)) (hkept hother) (completed_snoc.mpr rfl) hsound'
    · have hnone : c.bodies = [] := by
        cases c with
        | apply name => exact absurd ⟨name, rfl⟩ hbodies
        | _ => rfl
      rw [hnone, List.append_nil] at hsound' ⊢
      refine ⟨h.first, fun version hversion => h.recorded version (hkept hother ▸ hversion), ?_, ?_⟩
      · intro name hname
        exact .inl (hkept hother ▸ hquiet name hname)
      · rintro _ ⟨⟩
        exact hsound'

end Answered

theorem MigrationsSound.step {l : MigrationLabel D} (h : MigrationsSound fs s) (hstep : s.next fs l = some t)
    (hcond : Uninterrupted fs s l) : MigrationsSound fs t := by
  obtain ⟨-, hfree, rfl⟩ | ⟨trace, c, next, r, db, rfl, hexecution, hexecute, rfl⟩ |
    ⟨trace, c, next, err, rfl, hexecution, rfl⟩ | ⟨rfl, rfl⟩ | ⟨tables, -, rfl⟩ := MigrationState.next_cases hstep
  · apply h.restart
    · simp [hfree]
    · rintro _ ⟨⟩
      rfl
  · apply h.succeeded hexecution hexecute
    rintro name rfl db' hrun
    exact hcond name db' (by rw [MigrationState.statement?, hexecution]; rfl) hrun
  · exact h.failed hexecution hcond err
  · exact h.restart hcond nofun
  · exact h.activity tables

/-- In every run in which no execution stops before it has recorded a body that completed, and no body writes
`schema_migrations`, migrations take effect exactly once. -/
theorem migrations_exactly_once (hs : (migrationRuns fs).Reachable (Uninterrupted fs) s) : ExactlyOnce fs s := by
  have hsound : MigrationsSound fs s := by
    refine Lts.Reachable.invariant (P := MigrationsSound fs) ?_ (fun s l t _ h hstep hcond => h.step hstep hcond) hs
    rintro s ⟨hrecorded, hexecution, hcompleted⟩
    refine ⟨by simp [hcompleted], by simp [hrecorded], by simp [hcompleted], ?_⟩
    intro e he
    rw [hexecution] at he
    cases he
  have hordered : s.completed.Pairwise (· < ·) := fs.names_sorted.sublist hsound.first.sublist
  refine ⟨hordered.imp ne_of_lt, hordered, hsound.recorded, ?_⟩
  intro e he hreturned name hname
  have hexecution := hsound.execution e he
  have hfollows := hexecution.follows
  unfold MigrationExecution.returned? at hreturned
  cases hprog : e.prog with
  | call c next => simp [hprog, Prog.returned?] at hreturned
  | ret result =>
    rw [hprog] at hfollows hreturned
    exact hexecution.settled name (hfollows.returns.2 (Option.some.inj hreturned) name hname)

end Invariant

/-! ### The demo inventory -/

/-- One row of the inventory statement of `010_demo_inventory_seed.sql`, which inserts an item or raises its stock. -/
def seedItem (items : List InventoryItem) (warehouseID sku : String) (quantity : Int) : List InventoryItem :=
  if items.any fun item => item.warehouseID = warehouseID ∧ item.sku = sku then
    items.map fun item =>
      if item.warehouseID = warehouseID ∧ item.sku = sku then
        { item with availableQuantity := max item.availableQuantity quantity }
      else item
  else items ++ [⟨items.length + 1, warehouseID, sku, quantity, 0⟩]

/-- The statement, for the warehouses the statement before it has inserted. -/
def demoInventorySeed (items : List InventoryItem) : List InventoryItem :=
  let items := seedItem items "wh_demo_primary" "SKU-CHAIR-BLK" 10000000
  let items := seedItem items "wh_demo_primary" "SKU-LAMP-WHT" 1000000
  let items := seedItem items "wh_demo_second" "SKU-CHAIR-BLK" 10000000
  seedItem items "wh_demo_second" "SKU-LAMP-WHT" 1000000

theorem seed_distinct : ([⟨"010_demo_inventory_seed.sql", false⟩].map DirEntry.name).Nodup := List.nodup_singleton _

def seedMigrations : MigrationsFS (List InventoryItem) where
  entries := [⟨"010_demo_inventory_seed.sql", false⟩]
  distinct := seed_distinct
  body _ db := .ok { db with tables := demoInventorySeed db.tables }

def migrationSimulator {D : Type} (fs : MigrationsFS D) : Simulator (migrationRuns fs) (MigrationLabel D) :=
  .ofStep (fun s l => s.next fs l) id

/-- Whether a step meets the condition. -/
def checkUninterrupted {D : Type} (fs : MigrationsFS D) (s : MigrationState D) (l : MigrationLabel D) : Bool :=
  match l, s.statement? with
  | .die, some (.record _) => false
  | .fail _, some (.record _) => false
  | .succeed, some (.apply name) =>
    match fs.body name s.db with
    | .ok db => decide (db.schemaMigrations = s.db.schemaMigrations)
    | .error _ => true
  | _, _ => true

theorem decides_uninterrupted {D : Type} (fs : MigrationsFS D) :
    Decides (migrationRuns fs) (fun s l _ => checkUninterrupted fs s l) (Uninterrupted fs) := by
  intro s l t _ hcheck
  cases l with
  | start => trivial
  | activity tables => trivial
  | die =>
    intro version hstatement
    simp [checkUninterrupted, hstatement] at hcheck
  | fail err =>
    intro version hstatement
    simp [checkUninterrupted, hstatement] at hcheck
  | succeed =>
    intro name db hstatement hrun
    simpa [checkUninterrupted, hstatement, hrun] using hcheck

/-- A failed execution, and one that applies the seed. -/
theorem migrations_exactly_once_seed : ∃ s, (migrationRuns seedMigrations).Reachable (Uninterrupted seedMigrations) s ∧
    s.completed = ["010_demo_inventory_seed.sql"] ∧ ExactlyOnce seedMigrations s := by
  obtain ⟨s, hs, hcompleted⟩ := (migrationSimulator seedMigrations).exists_reachable
    (Q := fun s => s.completed = ["010_demo_inventory_seed.sql"]) (decides_uninterrupted seedMigrations)
    (.start ⟨rfl, rfl, rfl⟩ : (migrationRuns seedMigrations).Reachable _ ⟨⟨none, []⟩, none, []⟩)
    [.start, .succeed, .fail (.plain "timeout"), .succeed, .start, .succeed, .succeed, .succeed, .succeed, .succeed,
      .succeed] (by decide +kernel)
  exact ⟨s, hs, hcompleted, migrations_exactly_once hs⟩

/-- The process dies between the seed and its record. Five chairs are reserved, and the next execution seeds again:
the stock that was reserved is available once more. -/
theorem migration_body_repeated : ∃ s, (migrationRuns seedMigrations).Reachable Lts.anyStep s ∧
    s.completed = ["010_demo_inventory_seed.sql", "010_demo_inventory_seed.sql"] ∧
    ∃ item ∈ s.db.tables, item.sku = "SKU-CHAIR-BLK" ∧ item.availableQuantity = 10000000 ∧ item.reservedQuantity = 5 :=
  (migrationSimulator seedMigrations).exists_reachable
    (Q := fun s => s.completed = ["010_demo_inventory_seed.sql", "010_demo_inventory_seed.sql"] ∧
      ∃ item ∈ s.db.tables, item.sku = "SKU-CHAIR-BLK" ∧ item.availableQuantity = 10000000 ∧ item.reservedQuantity = 5)
    decides_anyStep (.start ⟨rfl, rfl, rfl⟩ : (migrationRuns seedMigrations).Reachable _ ⟨⟨none, []⟩, none, []⟩)
    [.start, .succeed, .succeed, .succeed, .succeed, .die,
      .activity ((demoInventorySeed []).map (InventoryItem.take 1 5)),
      .start, .succeed, .succeed, .succeed, .succeed] (by decide +kernel)

end FulfillHub
