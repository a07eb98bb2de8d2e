import SqlTriggers.Migration.Name

/-! Operations on triggers, and migrations made of them. The way down undoes the way up: the
operations are inverted and run in reverse order. -/

namespace SqlTriggers

inductive Operation where
  | create (t : Trigger)
  | drop (t : Trigger)
  deriving DecidableEq, Repr

namespace Operation

def trigger : Operation → Trigger
  | create t => t
  | drop t => t

def inverse : Operation → Operation
  | create t => drop t
  | drop t => create t

def statements (engine : Engine) : Operation → List String
  | create t => engine.createStatements t
  | drop t => engine.dropStatements t

def forward (engine : Engine) (ops : List Operation) : List String :=
  ops.flatMap (statements engine)

def backward (engine : Engine) (ops : List Operation) : List String :=
  ops.reverse.flatMap fun op => op.inverse.statements engine

end Operation

structure Migration where
  version : UInt64
  name : String
  engine : Engine
  operations : List Operation
  up : List String
  down : List String
  deriving DecidableEq, Repr

namespace Migration

def ofOperations (version : UInt64) (name : String) (engine : Engine) (ops : List Operation) :
    Migration where
  version := version
  name := name
  engine := engine
  operations := ops
  up := Operation.forward engine ops
  down := Operation.backward engine ops

def ofStatements (version : UInt64) (name : String) (engine : Engine) (up down : List String) :
    Migration where
  version := version
  name := name
  engine := engine
  operations := []
  up := up
  down := down

end Migration

structure Plan where
  name : Option String
  engine : Engine
  diff : Diff
  operations : List Operation
  up : List String
  down : List String
  deriving DecidableEq, Repr

namespace Plan

def ofDiff (engine : Engine) (d : Diff) : Plan :=
  let ops := d.removed.map .drop ++ d.added.map .create
  { name := d.migrationName
    engine := engine
    diff := d
    operations := ops
    up := Operation.forward engine ops
    down := Operation.backward engine ops }

def isEmpty (p : Plan) : Bool :=
  p.operations.isEmpty

def toMigration? (p : Plan) (version : UInt64) : Option Migration :=
  p.name.map fun name =>
    { version := version
      name := name
      engine := p.engine
      operations := p.operations
      up := p.up
      down := p.down }

end Plan

end SqlTriggers
