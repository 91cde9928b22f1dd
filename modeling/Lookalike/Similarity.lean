import Lookalike.Python.Features

/-! ### Similarity

The similarity of two pieces of program is a weighted mean of three parts: how many distinct
structure tokens and how many distinct control flow tokens they share, and how close their
complexities are. -/

namespace Lookalike

open Python

/-- The share of the common texts among all texts of two lists, repetitions aside. Two empty lists
share all. -/
def jaccard (a b : List String) : Float :=
  let a := TextSet.ofList a
  let b := TextSet.ofList b
  if a.items.isEmpty && b.items.isEmpty then 1.0
  else
    let common := (a.items.filter b.contains).length
    Float.ofNat common / Float.ofNat (a.size + b.size - common)

/-- The distance of two numbers. -/
def gap (a b : Nat) : Nat :=
  (a - b) + (b - a)

/-- How close two complexities are: one if they are equal, and less the farther they are. -/
def closeness (a b : Nat) : Float :=
  1.0 / (1.0 + 0.1 * Float.ofNat (gap a b))

/-- A number moved into the interval from zero to one. -/
def clampUnit (x : Float) : Float :=
  if x < 0.0 then 0.0 else if 1.0 < x then 1.0 else x

/-- The similarity of two pieces of program by their features. -/
def similarity (a b : Features) : Float :=
  let shape := jaccard a.structureTokens b.structureTokens
  let complexity := closeness a.complexity b.complexity
  let controlFlow := jaccard a.controlFlow b.controlFlow
  clampUnit ((5.0 * shape + 2.0 * complexity + 3.0 * controlFlow) / 10.0)

end Lookalike
