import SwbtDaemon.Daemon.Config

/-!
# A text for every TOML value

A form in which all values of the configuration files can be written and read back. It is not that
of TOML: it stands for the library where a text is needed that no file of the daemon holds.
-/

namespace Swbt.TomlTree

/-! ## Numbers and texts -/

/-- A number: as many ones, and a zero. -/
def putNat (n : Nat) : List UInt8 := List.replicate n 1 ++ [0]

def takeNat : List UInt8 → Nat × List UInt8
  | [] => (0, [])
  | c :: cs => if c = 1 then ((takeNat cs).1 + 1, (takeNat cs).2) else (0, cs)

@[simp] theorem takeNat_putNat (n : Nat) (cs : List UInt8) : takeNat (putNat n ++ cs) = (n, cs) := by
  induction n with
  | zero => rfl
  | succ n ih =>
    have hcons : putNat (n + 1) ++ cs = 1 :: (putNat n ++ cs) := rfl
    rw [hcons, takeNat, if_pos rfl, ih]

/-- A text behind its length. -/
def putText (text : List UInt8) : List UInt8 := putNat text.length ++ text

def takeText (cs : List UInt8) : List UInt8 × List UInt8 :=
  ((takeNat cs).2.take (takeNat cs).1, (takeNat cs).2.drop (takeNat cs).1)

@[simp] theorem takeText_putText (text cs : List UInt8) : takeText (putText text ++ cs) = (text, cs) := by
  rw [takeText, putText, List.append_assoc, takeNat_putNat, List.take_left, List.drop_left]

/-! ## Values -/

mutual

/-- A value: its kind, the number of its parts and the parts. -/
def putTree : TomlTree → List UInt8
  | .table entries => 2 :: (putNat entries.length ++ putEntries entries)
  | .integer (.ofNat n) => 3 :: putNat n
  | .integer (.negSucc n) => 4 :: putNat n
  | .string text => 5 :: putText text

def putEntries : List (List UInt8 × TomlTree) → List UInt8
  | [] => []
  | (key, value) :: entries => putText key ++ (putTree value ++ putEntries entries)

end

mutual

def takeTree : Nat → List UInt8 → Option (TomlTree × List UInt8)
  | 0, _ => none
  | _ + 1, [] => none
  | fuel + 1, kind :: cs =>
    if kind = 2 then
      (takeEntries fuel (takeNat cs).1 (takeNat cs).2).map fun r => (.table r.1, r.2)
    else if kind = 3 then some (.integer (.ofNat (takeNat cs).1), (takeNat cs).2)
    else if kind = 4 then some (.integer (.negSucc (takeNat cs).1), (takeNat cs).2)
    else if kind = 5 then some (.string (takeText cs).1, (takeText cs).2)
    else none

def takeEntries : Nat → Nat → List UInt8 → Option (List (List UInt8 × TomlTree) × List UInt8)
  | 0, _, _ => none
  | _ + 1, 0, cs => some ([], cs)
  | fuel + 1, n + 1, cs => do
    let value ← takeTree fuel (takeText cs).2
    let rest ← takeEntries fuel n value.2
    some (((takeText cs).1, value.1) :: rest.1, rest.2)

end

mutual

theorem takeTree_putTree (value : TomlTree) {fuel : Nat} (h : (putTree value).length < fuel)
    (cs : List UInt8) : takeTree fuel (putTree value ++ cs) = some (value, cs) := by
  obtain ⟨fuel, rfl⟩ := Nat.exists_eq_succ_of_ne_zero (Nat.ne_of_gt (Nat.zero_lt_of_lt h))
  match value with
  | .table entries =>
    simp only [putTree, List.length_cons, List.length_append] at h
    rw [putTree, List.cons_append, takeTree, if_pos rfl, List.append_assoc, takeNat_putNat,
      takeEntries_putEntries entries (by omega)]
    rfl
  | .integer (.ofNat n) =>
    rw [putTree, List.cons_append, takeTree, if_neg (by decide), if_pos rfl, takeNat_putNat]
  | .integer (.negSucc n) =>
    rw [putTree, List.cons_append, takeTree, if_neg (by decide), if_neg (by decide), if_pos rfl,
      takeNat_putNat]
  | .string text =>
    rw [putTree, List.cons_append, takeTree, if_neg (by decide), if_neg (by decide),
      if_neg (by decide), if_pos rfl, takeText_putText]

theorem takeEntries_putEntries (entries : List (List UInt8 × TomlTree)) {fuel : Nat}
    (h : (putEntries entries).length < fuel) (cs : List UInt8) :
    takeEntries fuel entries.length (putEntries entries ++ cs) = some (entries, cs) := by
  obtain ⟨fuel, rfl⟩ := Nat.exists_eq_succ_of_ne_zero (Nat.ne_of_gt (Nat.zero_lt_of_lt h))
  match entries with
  | [] => rfl
  | (key, value) :: entries =>
    simp only [putEntries, putText, putNat, List.length_append, List.length_singleton] at h
    rw [List.length_cons, takeEntries, putEntries, List.append_assoc, List.append_assoc,
      takeText_putText, takeTree_putTree value (by omega), Option.bind_eq_bind, Option.bind_some,
      takeEntries_putEntries entries (by omega), Option.bind_eq_bind, Option.bind_some]

end

end Swbt.TomlTree
