import Mathlib.Data.List.Forall2
import SqlTriggers.Proofs.Dump.Contents

/-! The ends of a dump's lines. How a line is ended, and what white space is left there, is not read. -/

namespace SqlTriggers

open Text

def Trailed (l m : List Char) : Prop :=
  ∃ blanks, m = l ++ blanks ∧ ∀ c ∈ blanks, isBlank c = true ∧ c ≠ '\n'

/-- The same text but for white space at the ends of its lines. -/
def Frayed (s r : String) : Prop := List.Forall₂ Trailed (rows s) (rows r)

instance (l m : List Char) : Decidable (Trailed l m) :=
  decidable_of_iff (l <+: m ∧ (m.drop l.length).all (fun c => isBlank c && c != '\n') = true) (by
    simp only [List.all_eq_true, Bool.and_eq_true, bne_iff_ne]
    constructor
    · rintro ⟨⟨blanks, rfl⟩, hblanks⟩
      exact ⟨blanks, rfl, by simpa using hblanks⟩
    · rintro ⟨blanks, rfl, hblanks⟩
      exact ⟨List.prefix_append l blanks, by simpa using hblanks⟩)

instance (s r : String) : Decidable (Frayed s r) :=
  inferInstanceAs (Decidable (List.Forall₂ Trailed (rows s) (rows r)))

def withReturn (c : Char) : List Char := if c = '\n' then ['\r', '\n'] else [c]

def returned (s : String) : String := String.ofList (s.toList.flatMap withReturn)

lemma trailed_self (l : List Char) : Trailed l l := ⟨[], by simp⟩

lemma Trailed.cons {l m : List Char} (c : Char) (h : Trailed l m) : Trailed (c :: l) (c :: m) := by
  obtain ⟨blanks, rfl, hblanks⟩ := h
  exact ⟨blanks, rfl, hblanks⟩

lemma Trailed.trimEnd_eq {l m : List Char} (h : Trailed l m) : trimEnd m = trimEnd l := by
  obtain ⟨blanks, rfl, hblanks⟩ := h
  exact dropEndWhile_append isBlank l fun c hc => (hblanks c hc).1

lemma trailed_flatMap_withReturn (cs : List Char) :
    List.Forall₂ Trailed (cs.splitOn '\n') ((cs.flatMap withReturn).splitOn '\n') := by
  induction cs with
  | nil => exact .cons (trailed_self []) .nil
  | cons c cs ih =>
    rw [List.flatMap_cons, withReturn]
    by_cases hc : c = '\n'
    · have hreturn : Trailed [] ['\r'] :=
        ⟨['\r'], rfl, List.forall_mem_singleton.mpr (by decide)⟩
      rw [if_pos hc, hc, splitOn_newline_cons, List.cons_append, List.singleton_append,
        splitOn_cons_of_ne (by decide) (splitOn_newline_cons _)]
      exact .cons hreturn ih
    · obtain ⟨l, ls, hl⟩ := exists_splitOn_eq_cons cs
      obtain ⟨m, ms, hm⟩ := exists_splitOn_eq_cons (cs.flatMap withReturn)
      rw [hl, hm] at ih
      obtain ⟨hfirst, hrest⟩ := List.forall₂_cons.mp ih
      rw [if_neg hc, List.singleton_append, splitOn_cons_of_ne hc hl, splitOn_cons_of_ne hc hm]
      exact .cons (hfirst.cons c) hrest

lemma frayed_returned (s : String) : Frayed s (returned s) := by
  rw [Frayed, rows, rows, returned, String.toList_ofList]
  exact trailed_flatMap_withReturn s.toList

lemma Frayed.map_trimEnd_eq {s r : String} (h : Frayed s r) :
    (rows r).map trimEnd = (rows s).map trimEnd := by
  have hrows : ∀ {ls ms : List (List Char)}, List.Forall₂ Trailed ls ms →
      ms.map trimEnd = ls.map trimEnd := by
    intro ls ms hlm
    induction hlm with
    | nil => rfl
    | cons hfirst _ ih => rw [List.map_cons, List.map_cons, hfirst.trimEnd_eq, ih]
  exact hrows h

namespace Dump

lemma readLines_append_empty (n : Nat) (inBlock : Bool) (d : Dump) (ls : List (List Char)) :
    readLines n inBlock d (ls ++ [[]]) = readLines n inBlock d ls := by
  induction ls generalizing n inBlock d with
  | nil => exact readLines_blank n d [] inBlock
  | cons l ls ih => simp only [List.cons_append, readLines, ih]

lemma read_eq (s : String) : read s = readLines 1 false .empty ((rows s).map trimEnd) := by
  obtain ⟨last, hlast, hrows⟩ := map_trimEnd_splitOn s.toList
  rw [read, ← readLines_trimEnd, rows, hrows]
  rcases hlast with rfl | rfl
  · rw [List.append_nil]
  · exact (readLines_append_empty 1 false .empty _).symm

lemma read_of_frayed {s r : String} (h : Frayed s r) : read r = read s := by
  rw [read_eq, h.map_trimEnd_eq, ← read_eq]

end Dump

/-- A text and what it becomes by white space at the ends of its lines, carriage returns among it, are
read alike, to the same dump or to the same error, and do the same as the dump before. Any fault is
found in the same text at the same row. -/
theorem read_frayed (s : String) :
    (∀ r, Frayed s r → Dump.read r = Dump.read s ∧
      (∀ (d : Dumper) (snapshot : Snapshot),
        d.dump snapshot (some r) = d.dump snapshot (some s)) ∧
      (rows r).map trimEnd = (rows s).map trimEnd) ∧
    Frayed s (returned s) := by
  refine ⟨fun r h => ?_, frayed_returned s⟩
  have hread := Dump.read_of_frayed h
  refine ⟨hread, fun d snapshot => ?_, h.map_trimEnd_eq⟩
  rw [Dumper.dump, Dumper.dump, hread]

def auditText : String :=
  "-- version: 7\n\n-- manual trigger: audit\nCREATE TRIGGER audit\n-- version: x"

def auditTextFrayed : String :=
  "-- version: 7 \t\r\n\x0c\r\n-- manual trigger: audit\u2003\nCREATE TRIGGER audit\x0b\r\n" ++
    "-- version: x\u00a0\r"

theorem read_frayed_audit :
    Frayed auditText auditTextFrayed ∧
    Dump.read auditTextFrayed = .ok ⟨some 7, [], ["audit"]⟩ ∧
    (∀ (d : Dumper) (snapshot : Snapshot),
      d.dump snapshot (some auditTextFrayed) = d.dump snapshot (some auditText)) ∧
    Frayed "\ncreate_trigger \x7b" "\u0085\ncreate_trigger \x7b\r" ∧
    Dump.read "\u0085\ncreate_trigger \x7b\r" = .error (.serialization (.badDeclaration 2)) ∧
    Dump.read (returned "\ncreate_trigger \x7b") =
      .error (.serialization (.badDeclaration 2)) := by
  have hfrayed : Frayed auditText auditTextFrayed := by decide +kernel
  have hbroken : Frayed "\ncreate_trigger \x7b" "\u0085\ncreate_trigger \x7b\r" := by decide +kernel
  have hread : Dump.read auditText = .ok ⟨some 7, [], ["audit"]⟩ := by decide +kernel
  have herror : Dump.read "\ncreate_trigger \x7b" = .error (.serialization (.badDeclaration 2)) := by
    decide +kernel
  obtain ⟨haudit, -⟩ := read_frayed auditText
  obtain ⟨hlast, hreturned⟩ := read_frayed "\ncreate_trigger \x7b"
  exact ⟨hfrayed, (haudit _ hfrayed).1.trans hread, (haudit _ hfrayed).2.1, hbroken,
    (hlast _ hbroken).1.trans herror, (hlast _ hreturned).1.trans herror⟩

end SqlTriggers
