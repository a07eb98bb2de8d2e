import SqlTriggers.Text.Word

/-! The shapes of statement that a catalog understands. -/

namespace SqlTriggers

open Text

inductive CatalogStatement where
  | createFunction (name : List Char)
  | createTrigger (name : List Char)
  | dropTrigger (name : List Char)
  | dropFunction (name : List Char)
  deriving DecidableEq, Repr

namespace CatalogStatement

def afterKeywordGap (k : String) (cs : List Char) : Option (List Char) :=
  (afterKeyword k.toList cs).bind afterGap

def afterKeywords : List String → List Char → Option (List Char)
  | [], cs => some cs
  | k :: ks, cs => (afterKeywordGap k cs).bind (afterKeywords ks)

def optionally (after : List Char → Option (List Char)) (cs : List Char) : List Char :=
  (after cs).getD cs

def isRoutineChar (c : Char) : Bool :=
  isWordChar c || c = '.'

def takeWord (cs : List Char) : Option (List Char × List Char) :=
  takeRun isWordChar cs

def takeRoutine (cs : List Char) : Option (List Char × List Char) :=
  takeRun isRoutineChar cs

def atEnd (cs : List Char) : Bool :=
  let cs := trimStart cs
  cs = [] || cs = [';']

/-- `CREATE [OR REPLACE] FUNCTION name (` -/
def createFunction? (cs : List Char) : Option CatalogStatement := do
  let cs ← afterKeywordGap "CREATE" cs
  let cs := optionally (afterKeywords ["OR", "REPLACE"]) cs
  let cs ← afterKeywordGap "FUNCTION" cs
  let (name, cs) ← takeRoutine cs
  let _ ← afterChar '(' (trimStart cs)
  return createFunction name

def afterDefiner (cs : List Char) : Option (List Char) := do
  let cs ← afterKeyword "DEFINER".toList cs
  let cs ← afterChar '=' (trimStart cs)
  let (_, cs) ← takeRun (fun c => !isBlank c) (trimStart cs)
  afterGap cs

/-- `CREATE [DEFINER = account] TRIGGER name BEFORE|AFTER` -/
def createTrigger? (cs : List Char) : Option CatalogStatement := do
  let cs ← afterKeywordGap "CREATE" cs
  let cs := optionally afterDefiner cs
  let cs ← afterKeywordGap "TRIGGER" cs
  let (name, cs) ← takeWord cs
  let cs ← afterGap cs
  let _ ← (afterKeywordGap "BEFORE" cs).or (afterKeywordGap "AFTER" cs)
  return createTrigger name

def afterOn (cs : List Char) : Option (List Char) := do
  let cs ← afterGap cs
  let cs ← afterKeywordGap "ON" cs
  let (_, cs) ← takeRoutine cs
  return cs

/-- `DROP TRIGGER IF EXISTS name [ON table] [;]` -/
def dropTrigger? (cs : List Char) : Option CatalogStatement := do
  let cs ← afterKeywords ["DROP", "TRIGGER", "IF", "EXISTS"] cs
  let (name, cs) ← takeWord cs
  if atEnd (optionally afterOn cs) then some (dropTrigger name) else none

/-- `DROP FUNCTION IF EXISTS name ( ) [;]` -/
def dropFunction? (cs : List Char) : Option CatalogStatement := do
  let cs ← afterKeywords ["DROP", "FUNCTION", "IF", "EXISTS"] cs
  let (name, cs) ← takeRoutine cs
  let cs ← afterChar '(' (trimStart cs)
  let cs ← afterChar ')' (trimStart cs)
  if atEnd cs then some (dropFunction name) else none

def read? (cs : List Char) : Option CatalogStatement :=
  (createFunction? cs).or <| (createTrigger? cs).or <| (dropTrigger? cs).or <| dropFunction? cs

def calledHere? (cs : List Char) : Option (List Char) := do
  let cs ← afterKeywordGap "EXECUTE" cs
  let cs ← (afterKeywordGap "FUNCTION" cs).or (afterKeywordGap "PROCEDURE" cs)
  let (name, cs) ← takeRoutine cs
  let _ ← afterChar '(' (trimStart cs)
  return name

def called? : List Char → Option (List Char)
  | [] => none
  | c :: cs => (calledHere? (c :: cs)).or (called? cs)

end CatalogStatement

end SqlTriggers
