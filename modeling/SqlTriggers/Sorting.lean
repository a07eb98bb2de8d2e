/-! Stable sorting of a list by a key. -/

namespace SqlTriggers

variable {α κ : Type} [Ord κ]

def insertOn (key : α → κ) (x : α) : List α → List α
  | [] => [x]
  | y :: ys =>
    match compare (key x) (key y) with
    | .gt => y :: insertOn key x ys
    | _ => x :: y :: ys

def sortOn (key : α → κ) (xs : List α) : List α :=
  xs.foldr (insertOn key) []

end SqlTriggers
