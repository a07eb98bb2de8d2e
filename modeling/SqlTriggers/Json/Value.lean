import SqlTriggers.Json.Text

/-! JSON as a syntax tree. Strings and numbers are kept as they are written: what a reader skips
need not stand for anything. -/

namespace SqlTriggers

inductive Json where
  | null
  | bool (b : Bool)
  | number (literal : List Char)
  | string (literal : List Char)
  | array (items : List Json)
  | object (members : List (List Char × Json))

namespace Json

def ofString (s : String) : Json :=
  string (escape s.toList)

def ofNat (n : Nat) : Json :=
  number (toString n).toList

def ofList {α : Type} (f : α → Json) (xs : List α) : Json :=
  array (xs.map f)

def ofMembers (ms : List (String × Json)) : Json :=
  object (ms.map fun m => (m.1.toList, m.2))

def text? : Json → Option String
  | string literal => (unescape? literal).map String.ofList
  | _ => none

def bool? : Json → Option Bool
  | bool b => some b
  | _ => none

def digitsValue? : List Char → Option Nat
  | [] => none
  | cs =>
    if cs.all Char.isDigit then some (cs.foldl (fun n c => n * 10 + (c.toNat - 48)) 0) else none

def nat? : Json → Option Nat
  | number literal => digitsValue? literal
  | _ => none

def uint32? (j : Json) : Option UInt32 := do
  let n ← j.nat?
  if n < UInt32.size then some (UInt32.ofNat n) else none

def uint64? (j : Json) : Option UInt64 := do
  let n ← j.nat?
  if n < UInt64.size then some (UInt64.ofNat n) else none

def list? {α : Type} (f : Json → Option α) : Json → Option (List α)
  | array items => items.mapM f
  | _ => none

def nullable? {α : Type} (f : Json → Option α) : Json → Option (Option α)
  | null => some none
  | j => (f j).map some

def word? : Json → Option String
  | object [(k, null)] => (unescape? k).map String.ofList
  | j => j.text?

def members? : Json → Option (List (String × Json))
  | object ms => ms.mapM fun m => (unescape? m.1).map fun k => (String.ofList k, m.2)
  | _ => none

/-- The fields of a record. They are the members of an object, in any order and each at most once,
or the items of an array, in the order of `names`. A `closed` record has no other members. -/
def fields? (names : List String) (closed : Bool) : Json → Option (List (String × Json))
  | array items => if items.length ≤ names.length then some (names.zip items) else none
  | j => do
    let ms ← j.members?
    if closed && !ms.all (fun m => names.contains m.1) then none
    else
      let known := ms.filter fun m => names.contains m.1
      if (known.map (·.1)).Nodup then some known else none

def field? {α : Type} (fs : List (String × Json)) (name : String) (f : Json → Option α) :
    Option α :=
  (fs.lookup name).bind f

def fieldOr? {α : Type} (fs : List (String × Json)) (name : String) (f : Json → Option α)
    (default : α) : Option α :=
  match fs.lookup name with
  | some j => f j
  | none => some default

mutual

def readable : Json → Bool
  | string literal => (unescape? literal).isSome
  | array items => readableItems items
  | object members => readableMembers members
  | _ => true

def readableItems : List Json → Bool
  | [] => true
  | j :: js => j.readable && readableItems js

def readableMembers : List (List Char × Json) → Bool
  | [] => true
  | (k, j) :: ms => (unescape? k).isSome && j.readable && readableMembers ms

end

end Json

end SqlTriggers
