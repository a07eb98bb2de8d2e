import SqlTriggers.Text.Digits

/-! What stands between the quotes of a JSON string, and the text that it stands for. -/

namespace SqlTriggers.Json

open Text (hexDigit hexUnit?)

def escapeChar (c : Char) : List Char :=
  match c with
  | '"' => ['\\', '"']
  | '\\' => ['\\', '\\']
  | '\x08' => ['\\', 'b']
  | '\x0c' => ['\\', 'f']
  | '\n' => ['\\', 'n']
  | '\r' => ['\\', 'r']
  | '\t' => ['\\', 't']
  | c =>
    if c.toNat < 32 then ['\\', 'u', '0', '0', hexDigit (c.toNat / 16), hexDigit (c.toNat % 16)]
    else [c]

def escape (cs : List Char) : List Char :=
  cs.flatMap escapeChar

def unescapeLetter? : Char → Option Char
  | '"' => some '"'
  | '\\' => some '\\'
  | '/' => some '/'
  | 'b' => some '\x08'
  | 'f' => some '\x0c'
  | 'n' => some '\n'
  | 'r' => some '\r'
  | 't' => some '\t'
  | _ => none

def isHighSurrogate (n : Nat) : Bool := 0xD800 ≤ n && n < 0xDC00

def isLowSurrogate (n : Nat) : Bool := 0xDC00 ≤ n && n < 0xE000

/-- The text of a string literal behind the high surrogate `pending`, if any. A surrogate without
its other half stands for nothing, so that such a literal has no text. -/
def unescapeFrom? : Option Nat → List Char → Option (List Char)
  | none, [] => some []
  | some _, [] => none
  | pending, '\\' :: 'u' :: a :: b :: c :: d :: rest => do
    let n ← hexUnit? a b c d
    match pending with
    | none =>
      if isHighSurrogate n then unescapeFrom? (some n) rest
      else if isLowSurrogate n then none
      else (unescapeFrom? none rest).map (Char.ofNat n :: ·)
    | some high =>
      if isLowSurrogate n then
        let code := 0x10000 + (high - 0xD800) * 0x400 + (n - 0xDC00)
        (unescapeFrom? none rest).map (Char.ofNat code :: ·)
      else none
  | some _, _ => none
  | none, '\\' :: c :: rest => do
    let c ← unescapeLetter? c
    (unescapeFrom? none rest).map (c :: ·)
  | none, c :: rest => if c = '\\' then none else (unescapeFrom? none rest).map (c :: ·)

def unescape? (cs : List Char) : Option (List Char) :=
  unescapeFrom? none cs

end SqlTriggers.Json
