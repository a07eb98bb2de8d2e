import SqlTriggers.Json.Value

/-! JSON text, on one line or indented. -/

namespace SqlTriggers.Json

def quoted (literal : List Char) : List Char :=
  '"' :: literal ++ ['"']

def boolText : Bool → List Char
  | true => "true".toList
  | false => "false".toList

mutual

def compact : Json → List Char
  | null => "null".toList
  | bool b => boolText b
  | number literal => literal
  | string literal => quoted literal
  | array items => '[' :: compactItems items ++ [']']
  | object members => '{' :: compactMembers members ++ ['}']

def compactItems : List Json → List Char
  | [] => []
  | [j] => j.compact
  | j :: js => j.compact ++ ',' :: compactItems js

def compactMembers : List (List Char × Json) → List Char
  | [] => []
  | [(k, j)] => quoted k ++ ':' :: j.compact
  | (k, j) :: ms => quoted k ++ ':' :: j.compact ++ ',' :: compactMembers ms

end

def newline (depth : Nat) : List Char :=
  '\n' :: List.replicate (2 * depth) ' '

mutual

def pretty (depth : Nat) : Json → List Char
  | null => "null".toList
  | bool b => boolText b
  | number literal => literal
  | string literal => quoted literal
  | array [] => ['[', ']']
  | array (j :: js) =>
    '[' :: newline (depth + 1) ++ pretty (depth + 1) j ++ prettyItems (depth + 1) js ++
      newline depth ++ [']']
  | object [] => ['{', '}']
  | object ((k, j) :: ms) =>
    '{' :: newline (depth + 1) ++ quoted k ++ ':' :: ' ' :: pretty (depth + 1) j ++
      prettyMembers (depth + 1) ms ++ newline depth ++ ['}']

def prettyItems (depth : Nat) : List Json → List Char
  | [] => []
  | j :: js => ',' :: newline depth ++ pretty depth j ++ prettyItems depth js

def prettyMembers (depth : Nat) : List (List Char × Json) → List Char
  | [] => []
  | (k, j) :: ms =>
    ',' :: newline depth ++ quoted k ++ ':' :: ' ' :: pretty depth j ++ prettyMembers depth ms

end

def compactText (j : Json) : String :=
  String.ofList j.compact

def prettyText (j : Json) : String :=
  String.ofList (j.pretty 0)

end SqlTriggers.Json
