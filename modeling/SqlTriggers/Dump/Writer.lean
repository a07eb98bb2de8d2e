import SqlTriggers.Catalog.Basic
import SqlTriggers.Dump.Normal
import SqlTriggers.Dump.Reader
import SqlTriggers.Engine.Statements
import SqlTriggers.Migration.History

/-! The live triggers as a text that does not depend on how the database formats them. A trigger
that some known declaration renders as is written as that declaration, any other one as raw
text. -/

namespace SqlTriggers

structure Dumper where
  engine : Engine
  history : Option History
  known : List Trigger

namespace Dumper

/-- The triggers that may be recognised, the most trusted first: recorded ones, the newest first,
then known ones, then those of the dump before. -/
def candidates (d : Dumper) (previous : Option Dump) : List Trigger :=
  ((d.history.map History.recorded).getD [] ++ d.known ++
    (previous.map Dump.triggers).getD []).filter Trigger.generated

def version (d : Dumper) (previous : Option Dump) : UInt64 :=
  match d.history with
  | some h => h.lastVersion.getD 0
  | none => (previous.bind Dump.version).getD 0

def recognise (d : Dumper) (candidates : List Trigger) (name ddl : String) : Option Trigger :=
  let live := normalizeStatement ddl
  candidates.find? fun t =>
    t.name = name && normalizeStatement (d.engine.rendering t) = live

def declarationEntry (t : Trigger) : String :=
  declarationPrefix ++ t.toJson.compactText

def rawEntry (name ddl : String) : String :=
  rawPrefix ++ " " ++ name ++ "\n" ++ rawText ddl

def entry (d : Dumper) (candidates : List Trigger) (name ddl : String) : String :=
  match d.recognise candidates name ddl with
  | some t => declarationEntry t
  | none => rawEntry name ddl

def header (version : UInt64) : String :=
  dumpHeader ++ "\n" ++ versionMark ++ " " ++ toString version ++ "\n"

def render (d : Dumper) (snapshot : Snapshot) (previous : Option Dump) : String :=
  let cs := d.candidates previous
  header (d.version previous) ++
    String.join (snapshot.entries.map fun e => "\n" ++ d.entry cs e.1 e.2 ++ "\n")

def dump (d : Dumper) (snapshot : Snapshot) (previous : Option String) :
    Except Error String :=
  match previous with
  | none => .ok (d.render snapshot none)
  | some text => (Dump.read text).map fun p => d.render snapshot (some p)

end Dumper

end SqlTriggers
