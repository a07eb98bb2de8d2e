import SqlTriggers.Error
import SqlTriggers.Text.Word

/-! Names are written into statements as they are, so each is checked first. -/

namespace SqlTriggers

open Text

def identifierLimit : Nat := 63

def identifierFault? (cs : List Char) : Option NameFault :=
  match cs with
  | [] => some .empty
  | c :: _ =>
    if !cs.all isIdentChar then some .badCharacter
    else if c.isDigit then some .leadingDigit
    else if identifierLimit < cs.length then some .tooLong
    else none

def tableNameFault? (cs : List Char) : Option NameFault :=
  let parts := cs.splitOn '.'
  if 2 < parts.length then some .tooManyParts
  else if parts.all fun p => (identifierFault? p).isNone then none
  else some .badPart

def checkIdentifier (parameter name : String) : Except Error Unit :=
  match identifierFault? name.toList with
  | some fault => .error (.invalidIdentifier parameter name fault)
  | none => .ok ()

def checkTableName (name : String) : Except Error Unit :=
  match tableNameFault? name.toList with
  | some fault => .error (.invalidIdentifier "table" name fault)
  | none => .ok ()

def checkColumnName (name : String) : Except Error Unit :=
  checkIdentifier "column" name

def checkPrincipal (account : String) : Except Error Unit :=
  if account.isEmpty || account.toList.any isBlank then
    .error (.invalidIdentifier "security principal" account .notOneToken)
  else .ok ()

end SqlTriggers
