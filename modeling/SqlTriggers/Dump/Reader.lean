import SqlTriggers.Error
import SqlTriggers.Text.Lines
import SqlTriggers.Trigger.Json

/-! Reading a dump back. The header and the declarations carry meaning. A block of raw text goes on
to the next empty line, and only its name is kept. -/

namespace SqlTriggers

open Text

def dumpHeader : String := "-- trigger schema"
def versionMark : String := "-- version:"
def declarationPrefix : String := "create_trigger "
def rawPrefix : String := "-- manual trigger:"

structure Dump where
  version : Option UInt64
  triggers : List Trigger
  raw : List String
  deriving DecidableEq, Repr

namespace Dump

def empty : Dump := ⟨none, [], []⟩

def parseDigits (n : Nat) : List Char → Except IntegerFault Nat
  | [] => .ok n
  | c :: cs =>
    if !c.isDigit then .error .invalidDigit
    else
      let m := n * 10 + (c.toNat - 48)
      if UInt64.size ≤ m then .error .tooLarge else parseDigits m cs

def parseVersion (cs : List Char) : Except IntegerFault UInt64 :=
  match cs with
  | [] => .error .empty
  | ['+'] => .error .invalidDigit
  | '+' :: ds => (parseDigits 0 ds).map UInt64.ofNat
  | ds => (parseDigits 0 ds).map UInt64.ofNat

def behind? (front : String) (cs : List Char) : Option (List Char) :=
  if front.toList.isPrefixOf cs then some (cs.drop front.length) else none

inductive Line where
  | blank
  | version (text : List Char)
  | declaration (json : List Char)
  | raw (name : List Char)
  | other
  deriving DecidableEq, Repr

def Line.read (cs : List Char) : Line :=
  if cs.isEmpty then .blank
  else match behind? versionMark cs with
    | some text => .version (trim text)
    | none =>
      match behind? declarationPrefix cs with
      | some json => .declaration json
      | none =>
        match behind? rawPrefix cs with
        | some name => .raw (trim name)
        | none => .other

def readLines (n : Nat) (inBlock : Bool) (d : Dump) : List (List Char) →
    Except Error Dump
  | [] => .ok d
  | l :: ls =>
    match Line.read (trimEnd l), inBlock with
    | .blank, _ => readLines (n + 1) false d ls
    | _, true => readLines (n + 1) true d ls
    | .version text, false =>
      match parseVersion text with
      | .ok v => readLines (n + 1) false { d with version := some v } ls
      | .error fault => .error (.serialization (.badVersion n (String.ofList text) fault))
    | .declaration json, false =>
      match Trigger.read? (String.ofList json) with
      | some t => readLines (n + 1) false { d with triggers := d.triggers ++ [t] } ls
      | none => .error (.serialization (.badDeclaration n))
    | .raw name, false =>
      readLines (n + 1) true { d with raw := d.raw ++ [String.ofList name] } ls
    | .other, false => readLines (n + 1) false d ls

def read (s : String) : Except Error Dump :=
  readLines 1 false .empty (lines s.toList)

end Dump

end SqlTriggers
