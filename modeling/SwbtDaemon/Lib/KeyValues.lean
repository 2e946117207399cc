import SwbtDaemon.Lib.Lines

/-!
# Lines of keys and values

A text with a line for each key: the key, a mark, the value and a separator. Where no key holds one
of the two signs and no value the separator, the text is read back.
-/

namespace KeyValues

variable {α : Type*} [DecidableEq α] (mark sep : α)

/-- The line of a key and its value. -/
def line (pair : List α × List α) : List α := pair.1 ++ mark :: pair.2 ++ [sep]

/-- The lines of keys and values. -/
def write (pairs : List (List α × List α)) : List α := (pairs.map (line mark sep)).flatten

/-- A line without its separator, split at the first mark. -/
def readLine (body : List α) : List α × List α :=
  (body.takeWhile (· ≠ mark), (body.dropWhile (· ≠ mark)).tail)

/-- The keys and values of a text. -/
def read (text : List α) : List (List α × List α) :=
  (Lines.completeLines sep text).map fun line => readLine mark line.dropLast

/-- A key and a value that can be told apart in a text. -/
structure Plain (pair : List α × List α) : Prop where
  mark_key : mark ∉ pair.1
  sep_key : sep ∉ pair.1
  sep_value : sep ∉ pair.2

variable {mark sep}

end KeyValues
