/-! White space in the sense of Unicode's `White_Space` property, and trimming by it. -/

namespace SqlTriggers.Text

def isBlank (c : Char) : Bool :=
  let n := c.toNat
  (9 ≤ n && n ≤ 13) || n = 32 || n = 0x85 || n = 0xA0 || n = 0x1680 ||
    (0x2000 ≤ n && n ≤ 0x200A) || n = 0x2028 || n = 0x2029 || n = 0x202F || n = 0x205F || n = 0x3000

def dropEndWhile (p : Char → Bool) : List Char → List Char
  | [] => []
  | c :: cs =>
    match dropEndWhile p cs with
    | [] => if p c then [] else [c]
    | kept => c :: kept

def trimStart (cs : List Char) : List Char :=
  cs.dropWhile isBlank

def trimEnd (cs : List Char) : List Char :=
  dropEndWhile isBlank cs

def trim (cs : List Char) : List Char :=
  trimEnd (trimStart cs)

def isBlankText (cs : List Char) : Bool :=
  cs.all isBlank

end SqlTriggers.Text

namespace SqlTriggers

def trimmed (s : String) : String :=
  String.ofList (Text.trim s.toList)

end SqlTriggers
