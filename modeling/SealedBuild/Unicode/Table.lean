import SealedBuild.Text.Pieces

/-!
# Tables of character properties

A property of characters is written as text: for a set, the gaps between its ranges and the lengths
of the ranges; for a partition, the label and the length of each run. Numbers are hexadecimal.
Membership is decided by bisection.
-/

namespace SealedBuild.Unicode

open SealedBuild.Text

/-- The value of a hexadecimal digit; other characters count as zero. -/
def hexDigit (c : Char) : Nat :=
  if '0' ≤ c ∧ c ≤ '9' then c.toNat - '0'.toNat
  else if 'a' ≤ c ∧ c ≤ 'f' then c.toNat - 'a'.toNat + 10
  else if 'A' ≤ c ∧ c ≤ 'F' then c.toNat - 'A'.toNat + 10
  else 0

/-- The value of a hexadecimal numeral. -/
def hexValue (digits : List Char) : Nat :=
  digits.foldl (fun value c => 16 * value + hexDigit c) 0

/-- The words of lines, which blanks separate. -/
def words (lines : List String) : List (List Char) :=
  lines.flatMap fun line => cutAt ' ' line.toList

/-- The number of entries at the front of `xs` that start at or before `n`, found by bisection:
entries before `low` start at or before `n`, entries from `high` on start after it. -/
def bisect (start : Nat → Nat) (n low high : Nat) : Nat :=
  if low < high then
    let middle := (low + high) / 2
    if start middle ≤ n then bisect start n (middle + 1) high else bisect start n low middle
  else low
termination_by high - low

/-- A set of characters, as ascending ranges of code points with both ends included. -/
structure CharTable where
  ranges : Array (Nat × Nat)

namespace CharTable

/-- Reads the ranges: a word `gap` stands for one character, `gap+more` for a longer range, and a
gap is counted from the end of the range before. -/
def decodeRanges : Nat → List (List Char) → List (Nat × Nat)
  | _, [] => []
  | previous, word :: rest =>
    match cutAt '+' word with
    | [gap, more] =>
      let first := previous + hexValue gap
      let last := first + hexValue more
      (first, last) :: decodeRanges last rest
    | _ =>
      let first := previous + hexValue word
      (first, first) :: decodeRanges first rest

/-- Reads a set of characters. -/
def decode (lines : List String) : CharTable :=
  ⟨(decodeRanges 0 (words lines)).toArray⟩

/-- Whether a character is in the set. -/
def contains (table : CharTable) (c : Char) : Bool :=
  let n := c.toNat
  let ranges := table.ranges
  let before := bisect (fun i => (ranges[i]?.getD (0, 0)).1) n 0 ranges.size
  match ranges[before - 1]? with
  | some (first, last) => decide (first ≤ n ∧ n ≤ last)
  | none => false

end CharTable

/-- A partition of the code points into labelled runs, given by the first code point and the label
of each run. -/
structure Partition where
  runs : Array (Nat × String)

namespace Partition

/-- Reads the runs: each word is a label and a length. -/
def decodeRuns : Nat → List (List Char) → List (Nat × String)
  | _, [] => []
  | first, word :: rest =>
    match cutAt ':' word with
    | [label, length] => (first, String.ofList label) :: decodeRuns (first + hexValue length) rest
    | _ => decodeRuns first rest

/-- Reads a partition. -/
def decode (lines : List String) : Partition :=
  ⟨(decodeRuns 0 (words lines)).toArray⟩

/-- The label of the run that holds a character. -/
def label (partition : Partition) (c : Char) : String :=
  let runs := partition.runs
  let before := bisect (fun i => (runs[i]?.getD (0, "")).1) c.toNat 0 runs.size
  (runs[before - 1]?.getD (0, "")).2

/-- The number of ranges that the runs with the wanted labels make up. -/
def countRanges (partition : Partition) (isWanted : String → Bool) : Nat :=
  let labels := (partition.runs.map (·.2)).toList
  let starts := fun before label => isWanted label && !isWanted before
  (List.zipWith starts ("" :: labels) labels).count true

end Partition

end SealedBuild.Unicode
