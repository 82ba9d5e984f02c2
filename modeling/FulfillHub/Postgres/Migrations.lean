import FulfillHub.Commerce.Model
import FulfillHub.Library.Pool

/-!
# Migrations

`internal/postgres/migrations.go`. `runMigrations` is a program over the statements it sends, so that it can stop
between any two of them. The text of an embedded migration enters as what its execution does to the database, which
happens as a whole or not at all. The embedded directory is there to be read: `ReadDir` and `ReadFile` do not fail.
-/

namespace FulfillHub

open Interaction

namespace Text

def hasSuffix (s suffix : String) : Bool := suffix.toList.isSuffixOf s.toList

def trimSuffix (s suffix : String) : String :=
  if hasSuffix s suffix then String.ofList (s.toList.take (s.toList.length - suffix.toList.length)) else s

theorem trimSuffix_append {s suffix : String} (h : hasSuffix s suffix = true) : trimSuffix s suffix ++ suffix = s := by
  obtain ⟨rest, hrest⟩ := List.isSuffixOf_iff_suffix.mp h
  rw [trimSuffix, if_pos h]
  apply String.toList_injective
  rw [String.toList_append, String.toList_ofList, ← hrest, List.length_append, Nat.add_sub_cancel, List.take_left]

end Text

/-- The table `schema_migrations`, if it has been created, and the rest of the database. -/
structure MigratedDatabase (D : Type) where
  schemaMigrations : Option (List String)
  tables : D

/-- The versions that are recorded. -/
def MigratedDatabase.recorded {D : Type} (db : MigratedDatabase D) : List String := db.schemaMigrations.getD []

structure DirEntry where
  name : String
  isDir : Bool

/-- The embedded directory, and what executing the text of a file does. -/
structure MigrationsFS (D : Type) where
  entries : List DirEntry
  distinct : (entries.map DirEntry.name).Nodup
  body : String → MigratedDatabase D → Except Error (MigratedDatabase D)

def versionOf (name : String) : String := Text.trimSuffix name ".sql"

/-- The names of the migrations in the order of `sort.Strings`. -/
def MigrationsFS.names {D : Type} (fs : MigrationsFS D) : List String :=
  ((fs.entries.filter fun entry => !(entry.isDir || !Text.hasSuffix entry.name ".sql")).map
    DirEntry.name).insertionSort (· ≤ ·)

/-! ### The program -/

inductive MigrationStatement
  | acquireLock
  | releaseLock
  | ensureSchemaMigrations
  | migrationApplied (version : String)
  | apply (name : String)
  | record (version : String)

namespace MigrationStatement

abbrev Result : MigrationStatement → Type
  | .migrationApplied _ => Bool
  | _ => Unit

/-- The result of a statement, or the error of the driver. -/
abbrev Answer (c : MigrationStatement) : Type := Except Error c.Result

end MigrationStatement

abbrev Migration : Type → Type := Prog MigrationStatement MigrationStatement.Answer

namespace Migration

open MigrationStatement

def execute (c : MigrationStatement) : Migration c.Answer := Prog.perform c

/-- `fmt.Errorf("context: %w", err)`. -/
def failed (context : String) (err : Error) : Except Error Unit := .error (.plain (context ++ ": " ++ err.text))

/-- The deferred release of the lock. -/
def release (result : Except Error Unit) : Migration (Except Error Unit) := do
  match ← execute .releaseLock with
  | .error unlockErr =>
    match result with
    | .ok () => pure (failed "release migration lock" unlockErr)
    | .error err => pure (.error err)
  | .ok () => pure result

/-- The loop over the names. -/
def migrate : List String → Migration (Except Error Unit)
  | [] => pure (.ok ())
  | name :: rest => do
      match ← execute (.migrationApplied (versionOf name)) with
      | .error err => pure (failed ("check migration " ++ versionOf name) err)
      | .ok true => migrate rest
      | .ok false =>
        match ← execute (.apply name) with
        | .error err => pure (failed ("apply migration " ++ name) err)
        | .ok () =>
          match ← execute (.record (versionOf name)) with
          | .error err => pure (failed ("record migration " ++ name) err)
          | .ok () => migrate rest

end Migration

open Migration in
def runMigrations {D : Type} (fs : MigrationsFS D) : Migration (Except Error Unit) := do
  match ← execute .acquireLock with
  | .error err => pure (failed "acquire migration lock" err)
  | .ok () =>
    match ← execute .ensureSchemaMigrations with
    | .error err => release (failed "ensure schema_migrations" err)
    | .ok () =>
      let result ← migrate fs.names
      release result

/-! ### The names -/

section Names

variable {D : Type} (fs : MigrationsFS D)

theorem MigrationsFS.hasSuffix_of_mem {name : String} (h : name ∈ fs.names) : Text.hasSuffix name ".sql" = true := by
  have hmem := (List.perm_insertionSort _ _).mem_iff.mp h
  obtain ⟨entry, hentry, rfl⟩ := List.mem_map.mp hmem
  have hkept := (List.mem_filter.mp hentry).2
  simp only [Bool.not_or, Bool.not_not, Bool.and_eq_true] at hkept
  exact hkept.2

theorem MigrationsFS.names_sorted : fs.names.Pairwise (· < ·) := by
  have hnodup : fs.names.Nodup := by
    apply (List.perm_insertionSort _ _).nodup_iff.mpr
    exact fs.distinct.sublist (List.filter_sublist.map _)
  have hsorted : fs.names.Pairwise (· ≤ ·) := List.pairwise_insertionSort _ _
  refine (hsorted.and hnodup).imp ?_
  intro a b hab
  exact lt_of_le_of_ne hab.1 hab.2

theorem MigrationsFS.eq_of_versionOf {name name' : String} (h : name ∈ fs.names) (h' : name' ∈ fs.names)
    (hversion : versionOf name = versionOf name') : name = name' := by
  rw [← Text.trimSuffix_append (fs.hasSuffix_of_mem h), ← Text.trimSuffix_append (fs.hasSuffix_of_mem h')]
  exact congrArg (· ++ ".sql") hversion

end Names

/-! ### What an execution may send -/

open MigrationStatement

/-- The execution has found the migration recorded or has recorded it. -/
def VersionSettled (trace : Trace Answer) (name : String) : Prop :=
  (⟨.migrationApplied (versionOf name), .ok true⟩ : Exchange Answer) ∈ trace ∨
    (⟨.record (versionOf name), .ok ()⟩ : Exchange Answer) ∈ trace

/-- The last statement was a body, and it completed. -/
def Completed (trace : Trace Answer) (name : String) : Prop := trace.getLast? = some ⟨.apply name, .ok ()⟩

/-- A body is executed right after its version was found missing, when all names before it are settled. A version
is recorded right after its body completed, and nothing else is done then. An execution that returns no error has
settled all names. -/
def migrationContract (names : List String) : Contract Answer (Except Error Unit) where
  allowed trace c :=
    (∀ name, c = .apply name → trace.getLast? = some ⟨.migrationApplied (versionOf name), .ok false⟩ ∧
      ∃ done rest, names = done ++ name :: rest ∧ ∀ earlier ∈ done, VersionSettled trace earlier) ∧
    (∀ version, c = .record version → ∃ name, version = versionOf name ∧ Completed trace name) ∧
    ∀ name, Completed trace name → c = .record (versionOf name)
  returns trace result :=
    (∀ name, ¬ Completed trace name) ∧ (result = .ok () → ∀ name ∈ names, VersionSettled trace name)

section Contract

variable {names : List String} {trace : Trace Answer} {x : Exchange Answer} {name : String} {result : Except Error Unit}

theorem VersionSettled.snoc (h : VersionSettled trace name) : VersionSettled (trace ++ [x]) name :=
  h.imp (List.mem_append_left _) (List.mem_append_left _)

theorem completed_snoc : Completed (trace ++ [x]) name ↔ x = ⟨.apply name, .ok ()⟩ := by
  simp [Completed]

theorem quiet_snoc (hx : ∀ name, x ≠ ⟨.apply name, .ok ()⟩) (name : String) : ¬ Completed (trace ++ [x]) name :=
  fun h => hx name (completed_snoc.mp h)

/-- A statement that is neither a body nor the record of one may be sent after anything but a body. -/
theorem allowed_of_quiet {c : MigrationStatement} (hquiet : ∀ name, ¬ Completed trace name)
    (happly : ∀ name, c ≠ .apply name) (hrecord : ∀ version, c ≠ .record version) :
    (migrationContract names).allowed trace c :=
  ⟨fun name h => absurd h (happly name), fun version h => absurd h (hrecord version),
    fun name h => absurd h (hquiet name)⟩

theorem follows_release (hquiet : ∀ name, ¬ Completed trace name)
    (hsettled : result = .ok () → ∀ name ∈ names, VersionSettled trace name) :
    (migrationContract names).Follows trace (Migration.release result) := by
  apply Contract.Follows.perform
  · exact allowed_of_quiet hquiet (fun _ => nofun) (fun _ => nofun)
  · intro r
    have hreturn : ∀ result', (result' = .ok () → result = .ok ()) →
        (migrationContract names).returns (trace ++ [⟨.releaseLock, r⟩]) result' := by
      intro result' hok
      refine ⟨quiet_snoc (fun _ h => by cases h), fun hresult name hname => (hsettled (hok hresult) name hname).snoc⟩
    cases r with
    | error err =>
      cases result with
      | error first => exact .ret (hreturn _ nofun)
      | ok _ => exact .ret (hreturn _ nofun)
    | ok _ => exact .ret (hreturn _ id)

/-- The contract of the loop, which is left for the release of the lock. -/
def loopContract (names : List String) : Contract Answer (Except Error Unit) :=
  ⟨(migrationContract names).allowed,
    fun trace result => (migrationContract names).Follows trace (Migration.release result)⟩

theorem follows_failed (hquiet : ∀ name, ¬ Completed trace name) (context : String) (err : Error) :
    (loopContract names).Follows trace (pure (Migration.failed context err)) :=
  .ret (follows_release hquiet nofun)

theorem follows_migrate {done rest : List String} (hnames : names = done ++ rest)
    (hquiet : ∀ name, ¬ Completed trace name) (hdone : ∀ name ∈ done, VersionSettled trace name) :
    (loopContract names).Follows trace (Migration.migrate rest) := by
  induction rest generalizing done trace with
  | nil =>
    apply Contract.Follows.ret
    apply follows_release hquiet
    intro _ name hname
    rw [hnames, List.append_nil] at hname
    exact hdone name hname
  | cons name rest ih =>
    have hnext : names = (done ++ [name]) ++ rest := by simp [hnames]
    have hgoOn : ∀ trace : Trace Answer, (∀ name, ¬ Completed trace name) →
        (∀ name ∈ done, VersionSettled trace name) → VersionSettled trace name →
        (loopContract names).Follows trace (Migration.migrate rest) := by
      intro trace hquiet hdone hname
      apply ih hnext hquiet
      simpa [or_imp, forall_and] using ⟨hdone, hname⟩
    apply Contract.Follows.perform
    · exact allowed_of_quiet hquiet (fun _ => nofun) (fun _ => nofun)
    intro applied
    cases applied with
    | error err => exact follows_failed (quiet_snoc fun _ h => by cases h) _ err
    | ok found =>
      cases found with
      | true =>
        apply hgoOn _ (quiet_snoc fun _ h => by cases h) _ (.inl (by simp))
        intro earlier h
        exact (hdone earlier h).snoc
      | false =>
        apply Contract.Follows.perform
        · refine ⟨?_, fun _ => nofun, fun other h => absurd h (quiet_snoc (fun _ h => by cases h) other)⟩
          rintro _ ⟨⟩
          exact ⟨by simp, done, rest, hnames, fun earlier h => (hdone earlier h).snoc⟩
        intro executed
        cases executed with
        | error err => exact follows_failed (quiet_snoc fun _ h => by cases h) _ err
        | ok _ =>
          apply Contract.Follows.perform
          · refine ⟨fun _ => nofun, ?_, fun other h => ?_⟩
            · rintro _ ⟨⟩
              exact ⟨name, rfl, completed_snoc.mpr rfl⟩
            · cases completed_snoc.mp h
              rfl
          intro stored
          cases stored with
          | error err => exact follows_failed (quiet_snoc fun _ h => by cases h) _ err
          | ok _ =>
            apply hgoOn _ (quiet_snoc fun _ h => by cases h) _ (.inr (by simp))
            intro earlier h
            exact (hdone earlier h).snoc.snoc.snoc

theorem follows_runMigrations {D : Type} (fs : MigrationsFS D) :
    (migrationContract fs.names).Follows [] (runMigrations fs) := by
  have hstart : ∀ name, ¬ Completed [] name := fun _ => nofun
  apply Contract.Follows.perform
  · exact allowed_of_quiet hstart (fun _ => nofun) (fun _ => nofun)
  intro locked
  cases locked with
  | error err => exact .ret ⟨quiet_snoc (fun _ h => by cases h), nofun⟩
  | ok _ =>
    apply Contract.Follows.perform
    · exact allowed_of_quiet (quiet_snoc fun _ h => by cases h) (fun _ => nofun) (fun _ => nofun)
    intro ensured
    cases ensured with
    | error err => exact follows_release (quiet_snoc fun _ h => by cases h) nofun
    | ok _ => exact .bind (follows_migrate (List.nil_append _).symm (quiet_snoc fun _ h => by cases h) (by simp))

end Contract

end FulfillHub
