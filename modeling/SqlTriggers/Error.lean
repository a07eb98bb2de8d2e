import SqlTriggers.Engine.Basic
import SqlTriggers.Trigger.Basic

/-! Everything that can be wrong with a declaration, a generation run, a stored text or a statement,
with its class, its SQLSTATE and its wording. -/

namespace SqlTriggers

inductive Attribute where
  | table
  | timing
  | events
  | granularity
  | columns
  | security
  | generated
  | compatibility
  | body
  deriving DecidableEq, Repr

def Attribute.label : Attribute → String
  | .table => "table"
  | .timing => "timing"
  | .events => "events"
  | .granularity => "granularity"
  | .columns => "columns"
  | .security => "security"
  | .generated => "generated"
  | .compatibility => "compatibility"
  | .body => "body"

inductive NameFault where
  | empty
  | badCharacter
  | leadingDigit
  | tooLong
  | tooManyParts
  | badPart
  | notOneToken
  deriving DecidableEq, Repr

inductive IntegerFault where
  | empty
  | invalidDigit
  | tooLarge
  deriving DecidableEq, Repr

inductive FormatFault where
  | badJson
  | badVersion (line : Nat) (text : String) (fault : IntegerFault)
  | badDeclaration (line : Nat)
  deriving DecidableEq, Repr

inductive Error where
  | missingField (field : Attribute)
  | invalidTiming (value : String)
  | invalidEvent (value : String)
  | invalidGranularity (value : String)
  | emptyEvents (table : String)
  | invalidIdentifier (parameter value : String) (fault : NameFault)
  | columnsWithoutUpdate (trigger : String)
  | unresolvedPlaceholder (placeholder condition : String)
  | groupMemberOverride (group : String) (field : Attribute)
  | emptyGroupMember (group : String)
  | unknownCompatibility (version : UInt32)
  | duplicateName (table name : String)
  | bodyOnGroup (group : String)
  | notASingleTrigger (name : String)
  | unsupportedFeature (engine : Engine) (feature : Feature) (trigger : String)
  | nestedGroup (engine : Engine) (group : String)
  | duplicateSlot (engine : Engine) (slot : Slot) (triggers : List String)
  | serialization (fault : FormatFault)
  | execution (statement reason : String)
  | outOfOrderMigration (version latest : UInt64)
  deriving DecidableEq, Repr

inductive Stage where
  | declaration
  | generation
  | serialization
  | execution
  deriving DecidableEq, Repr

def printable (s : String) : String :=
  let cs := s.toList
  let cut := if 50 < cs.length then cs.take 50 ++ ['.', '.', '.'] else cs
  String.ofList (cut.flatMap fun c =>
    match c with
    | '\x00' => ['\\', '0']
    | '\n' => ['\\', 'n']
    | '\r' => ['\\', 'r']
    | c => [c])

namespace NameFault

def reason : NameFault → String
  | .empty => "Identifier cannot be empty"
  | .badCharacter => "Identifier must contain only alphanumeric characters and underscores"
  | .leadingDigit => "Identifier cannot start with a digit"
  | .tooLong => "Identifier too long (max 63 characters)"
  | .tooManyParts => "Table name may have at most one schema qualifier"
  | .badPart => "Each part of a table name must be a plain identifier"
  | .notOneToken => "Principal must be a single non-empty token"

def quoted : NameFault → String → String
  | .tooLong, s =>
    String.ofList (s.toList.take 20) ++ "... (" ++ toString s.utf8ByteSize ++ " chars)"
  | .notOneToken, s => s
  | _, s => printable s

end NameFault

def IntegerFault.reason : IntegerFault → String
  | .empty => "cannot parse integer from empty string"
  | .invalidDigit => "invalid digit found in string"
  | .tooLarge => "number too large to fit in target type"

def FormatFault.reason : FormatFault → String
  | .badJson => "JSON serialization error"
  | .badVersion line text fault =>
    "line " ++ toString line ++ ": invalid dump version '" ++ text ++ "': " ++ fault.reason
  | .badDeclaration line => "line " ++ toString line ++ ": invalid trigger declaration"

namespace Error

def stage : Error → Stage
  | .unsupportedFeature .. | .nestedGroup .. | .duplicateSlot .. => .generation
  | .serialization .. => .serialization
  | .execution .. | .outOfOrderMigration .. => .execution
  | _ => .declaration

def sqlstate : Error → String
  | .missingField .. => "42601"
  | .invalidTiming .. => "22023"
  | .invalidEvent .. => "22023"
  | .invalidGranularity .. => "22023"
  | .emptyEvents .. => "42601"
  | .invalidIdentifier .. => "42602"
  | .columnsWithoutUpdate .. => "42P17"
  | .unresolvedPlaceholder .. => "42704"
  | .groupMemberOverride .. => "42P17"
  | .emptyGroupMember .. => "42P17"
  | .unknownCompatibility .. => "22023"
  | .duplicateName .. => "42710"
  | .bodyOnGroup .. => "42P17"
  | .notASingleTrigger .. => "42809"
  | .unsupportedFeature .. => "0A000"
  | .nestedGroup .. => "0A000"
  | .duplicateSlot .. => "42710"
  | .serialization .. => "22P02"
  | .execution .. => "XX000"
  | .outOfOrderMigration .. => "55000"

def message : Error → String
  | .missingField field =>
    "Trigger declaration is missing required field '" ++ field.label ++ "'"
  | .invalidTiming value =>
    "Invalid trigger timing '" ++ value ++ "' (expected before or after)"
  | .invalidEvent value =>
    "Invalid trigger event '" ++ value ++ "' (expected insert, update, delete or truncate)"
  | .invalidGranularity value =>
    "Invalid trigger granularity '" ++ value ++ "' (expected row or statement)"
  | .emptyEvents table => "Trigger on '" ++ table ++ "' must react to at least one event"
  | .invalidIdentifier parameter value fault =>
    "Invalid " ++ parameter ++ " '" ++ fault.quoted value ++ "': " ++ fault.reason
  | .columnsWithoutUpdate trigger =>
    "Trigger '" ++ trigger ++ "' lists UPDATE OF columns but does not react to UPDATE"
  | .unresolvedPlaceholder placeholder condition =>
    "Unresolved placeholder '\x7b" ++ placeholder ++ "\x7d' in condition: " ++ condition
  | .groupMemberOverride group field =>
    "Group member of '" ++ group ++ "' may not change shared attribute '" ++ field.label ++ "'"
  | .emptyGroupMember group => "Group member of '" ++ group ++ "' has an empty body"
  | .unknownCompatibility version =>
    "Unknown compatibility version " ++ toString version ++ " (newest supported is " ++
      toString newestCompatibility ++ ")"
  | .duplicateName table name =>
    "Trigger '" ++ name ++ "' is declared more than once on '" ++ table ++ "'"
  | .bodyOnGroup group =>
    "Trigger group '" ++ group ++ "' cannot have a body; put statements in its branches"
  | .notASingleTrigger name =>
    "Declaration '" ++ name ++ "' is a trigger group, not a single trigger"
  | .unsupportedFeature engine feature trigger =>
    engine.label ++ " does not support " ++ feature.label ++ " (trigger '" ++ trigger ++ "')"
  | .nestedGroup engine group =>
    engine.label ++ " cannot merge nested trigger groups (group '" ++ group ++ "')"
  | .duplicateSlot engine slot triggers =>
    engine.label ++ " allows one trigger per table/timing/event; " ++ slot.label ++
      " is used by " ++ ", ".intercalate triggers ++ "; declare them in one group"
  | .serialization fault => "Serialization error: " ++ fault.reason
  | .execution statement reason =>
    "Failed to execute DDL: " ++ reason ++ "\nStatement: " ++
      String.ofList (statement.toList.take 100)
  | .outOfOrderMigration version latest =>
    "Migration " ++ toString version ++ " is not newer than the latest applied migration " ++
      toString latest

end Error

end SqlTriggers
