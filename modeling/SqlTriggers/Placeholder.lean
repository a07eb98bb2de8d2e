import SqlTriggers.Error
import SqlTriggers.OrderedMap
import SqlTriggers.Text.Word

/-! Conditions with holes. A hole is an ASCII identifier in braces; every other brace is text. -/

namespace SqlTriggers

open Text

abbrev Bindings := OrderedMap String String

namespace Placeholder

inductive Piece where
  | char (c : Char)
  | hole (name : List Char)
  deriving DecidableEq, Repr

def holeName? (cs : List Char) : Option (List Char) :=
  match cs.takeWhile isIdentChar with
  | [] => none
  | c :: name =>
    if isIdentStart c && (cs.drop (name.length + 1)).head? = some '}' then some (c :: name)
    else none

def piecesFrom : Nat → List Char → List Piece
  | _, [] => []
  | skip + 1, _ :: cs => piecesFrom skip cs
  | 0, c :: cs =>
    match if c = '{' then holeName? cs else none with
    | some name => .hole name :: piecesFrom (name.length + 1) cs
    | none => .char c :: piecesFrom 0 cs

def pieces (cs : List Char) : List Piece :=
  piecesFrom 0 cs

def Piece.unbound? (bindings : Bindings) : Piece → Option String
  | .char _ => none
  | .hole name =>
    if bindings.contains (String.ofList name) then none else some (String.ofList name)

def Piece.fill (bindings : Bindings) : Piece → List Char
  | .char c => [c]
  | .hole name => ((bindings.get? (String.ofList name)).getD "").toList

end Placeholder

open Placeholder in
/-- Puts the bound value into every hole and trims the result. A value is never scanned again. -/
def fillHoles (condition : String) (bindings : Bindings) : Except Error String :=
  let ps := pieces condition.toList
  match ps.findSome? (Piece.unbound? bindings) with
  | some name => .error (.unresolvedPlaceholder name condition)
  | none => .ok (String.ofList (trim (ps.flatMap (Piece.fill bindings))))

end SqlTriggers
