import SqlTriggers.Json.Value

/-! Reading JSON text. -/

namespace SqlTriggers.Json

open Text (hexUnit?)

def isGap (c : Char) : Bool :=
  c = ' ' || c = '\t' || c = '\n' || c = '\r'

def skipGap (cs : List Char) : List Char :=
  cs.dropWhile isGap

def readLiteral : List Char → Option (List Char × List Char)
  | [] => none
  | '"' :: cs => some ([], cs)
  | '\\' :: 'u' :: a :: b :: c :: d :: cs =>
    if (hexUnit? a b c d).isSome then
      (readLiteral cs).map fun (l, r) => ('\\' :: 'u' :: a :: b :: c :: d :: l, r)
    else none
  | '\\' :: e :: cs =>
    if (unescapeLetter? e).isSome then (readLiteral cs).map fun (l, r) => ('\\' :: e :: l, r)
    else none
  | c :: cs =>
    if c = '\\' || c.toNat < 32 then none else (readLiteral cs).map fun (l, r) => (c :: l, r)

def readDigits (cs : List Char) : Option (List Char × List Char) :=
  match cs.takeWhile Char.isDigit with
  | [] => none
  | ds => some (ds, cs.dropWhile Char.isDigit)

def readSign : List Char → List Char × List Char
  | '-' :: cs => (['-'], cs)
  | cs => ([], cs)

def readWhole : List Char → Option (List Char × List Char)
  | '0' :: cs => some (['0'], cs)
  | cs => readDigits cs

def readFraction : List Char → Option (List Char × List Char)
  | '.' :: cs => (readDigits cs).map fun (ds, r) => ('.' :: ds, r)
  | cs => some ([], cs)

def isExponentMark (c : Char) : Bool := c = 'e' || c = 'E'

def isSign (c : Char) : Bool := c = '+' || c = '-'

def readExponent : List Char → Option (List Char × List Char)
  | [] => some ([], [])
  | e :: cs =>
    if isExponentMark e then
      match cs with
      | s :: cs' =>
        if isSign s then (readDigits cs').map fun (ds, r) => (e :: s :: ds, r)
        else (readDigits cs).map fun (ds, r) => (e :: ds, r)
      | [] => none
    else some ([], e :: cs)

def readNumber (cs : List Char) : Option (List Char × List Char) := do
  let (sign, cs) := readSign cs
  let (whole, cs) ← readWhole cs
  let (fraction, cs) ← readFraction cs
  let (exponent, cs) ← readExponent cs
  return (sign ++ whole ++ fraction ++ exponent, cs)

def afterWord : List Char → List Char → Option (List Char)
  | [], cs => some cs
  | _ :: _, [] => none
  | w :: ws, c :: cs => if c = w then afterWord ws cs else none

def readScalar (cs : List Char) : Option (Json × List Char) :=
  match cs with
  | 'n' :: _ => (afterWord "null".toList cs).map fun r => (null, r)
  | 't' :: _ => (afterWord "true".toList cs).map fun r => (bool true, r)
  | 'f' :: _ => (afterWord "false".toList cs).map fun r => (bool false, r)
  | _ => (readNumber cs).map fun (l, r) => (number l, r)

mutual

def readValue : Nat → List Char → Option (Json × List Char)
  | 0, _ => none
  | fuel + 1, cs =>
    match skipGap cs with
    | '"' :: cs => (readLiteral cs).map fun (l, r) => (string l, r)
    | '[' :: cs =>
      match skipGap cs with
      | ']' :: cs => some (array [], cs)
      | cs => (readItems fuel cs).map fun (js, r) => (array js, r)
    | '{' :: cs =>
      match skipGap cs with
      | '}' :: cs => some (object [], cs)
      | cs => (readMembers fuel cs).map fun (ms, r) => (object ms, r)
    | cs => readScalar cs

def readItems : Nat → List Char → Option (List Json × List Char)
  | 0, _ => none
  | fuel + 1, cs => do
    let (j, cs) ← readValue fuel cs
    match skipGap cs with
    | ',' :: cs => (readItems fuel cs).map fun (js, r) => (j :: js, r)
    | ']' :: cs => some ([j], cs)
    | _ => none

def readMembers : Nat → List Char → Option (List (List Char × Json) × List Char)
  | 0, _ => none
  | fuel + 1, cs =>
    match skipGap cs with
    | '"' :: cs => do
      let (k, cs) ← readLiteral cs
      match skipGap cs with
      | ':' :: cs => do
        let (j, cs) ← readValue fuel cs
        match skipGap cs with
        | ',' :: cs => (readMembers fuel cs).map fun (ms, r) => ((k, j) :: ms, r)
        | '}' :: cs => some ([(k, j)], cs)
        | _ => none
      | _ => none
    | _ => none

end

/-- The value that a text writes, with nothing but white space around it. Every two steps take a
character, so the text bounds the depth. -/
def read? (s : String) : Option Json :=
  let cs := s.toList
  match readValue (2 * cs.length + 2) cs with
  | some (j, rest) => if (skipGap rest).isEmpty then some j else none
  | none => none

end SqlTriggers.Json
