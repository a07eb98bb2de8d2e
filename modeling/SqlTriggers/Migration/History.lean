import SqlTriggers.Error
import SqlTriggers.Migration.Plan
import SqlTriggers.OrderedMap

/-! The record of applied migrations, oldest first. Replaying their operations gives the applied
triggers. -/

namespace SqlTriggers

/-- Something that carries out statements. A refused statement may still have changed the state. -/
structure Executor (σ : Type) where
  run : σ → String → σ × Except Error Unit

def Executor.runAll {σ : Type} (x : Executor σ) : σ → List String → σ × Except Error Unit
  | s, [] => (s, .ok ())
  | s, stmt :: rest =>
    match x.run s stmt with
    | (s', .ok ()) => x.runAll s' rest
    | (s', .error e) => (s', .error e)

structure History where
  migrations : List Migration
  deriving DecidableEq, Repr

namespace History

def empty : History := ⟨[]⟩

def latest? (h : History) : Option Migration :=
  h.migrations.getLast?

def lastVersion (h : History) : Option UInt64 :=
  h.latest?.map Migration.version

/-- A version for the next migration: the clock's stamp, or the successor of the latest version
where the stamp is not newer. Versions are words of 64 bits, and after the largest comes zero. -/
def versionAfter (h : History) (stamp : UInt64) : UInt64 :=
  match h.lastVersion with
  | some latest => if latest < stamp then stamp else latest + 1
  | none => stamp

def requireNewer (h : History) (version : UInt64) : Except Error Unit :=
  match h.lastVersion with
  | some latest =>
    if version ≤ latest then .error (.outOfOrderMigration version latest) else .ok ()
  | none => .ok ()

def push (h : History) (m : Migration) : History :=
  ⟨h.migrations ++ [m]⟩

def record (h : History) (m : Migration) : Except Error History := do
  h.requireNewer m.version
  return h.push m

/-- Carries a migration out and takes it up. If a statement is refused the history stays. -/
def apply {σ : Type} (x : Executor σ) (s : σ) (h : History) (m : Migration) :
    σ × Except Error History :=
  match h.requireNewer m.version with
  | .error e => (s, .error e)
  | .ok () =>
    match x.runAll s m.up with
    | (s', .error e) => (s', .error e)
    | (s', .ok ()) => (s', .ok (h.push m))

def rollback {σ : Type} (x : Executor σ) (s : σ) (h : History) :
    σ × Except Error (History × Option Migration) :=
  match h.latest? with
  | none => (s, .ok (h, none))
  | some m =>
    match x.runAll s m.down with
    | (s', .error e) => (s', .error e)
    | (s', .ok ()) => (s', .ok (⟨h.migrations.dropLast⟩, some m))

def operations (h : History) : List Operation :=
  h.migrations.flatMap Migration.operations

def replayStep (applied : OrderedMap TriggerKey Trigger) : Operation →
    OrderedMap TriggerKey Trigger
  | .create t => applied.insert t.key t
  | .drop t => applied.erase t.key

def replay (ops : List Operation) : OrderedMap TriggerKey Trigger :=
  ops.foldl replayStep .empty

def applied (h : History) : List Trigger :=
  (replay h.operations).values

def recorded (h : History) : List Trigger :=
  h.operations.reverse.filterMap fun
    | .create t => some t
    | .drop _ => none

def disorder? : List Migration → Option (UInt64 × UInt64)
  | a :: b :: rest =>
    if b.version ≤ a.version then some (b.version, a.version) else disorder? (b :: rest)
  | _ => none

def ofMigrations (ms : List Migration) : Except Error History :=
  match disorder? ms with
  | some (version, latest) => .error (.outOfOrderMigration version latest)
  | none => .ok ⟨ms⟩

end History

end SqlTriggers
