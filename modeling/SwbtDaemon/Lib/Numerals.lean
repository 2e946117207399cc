import SwbtDaemon.Lib.CString

/-!
# Numerals

Which texts the conversions of the C library read, and what they make of them: white space, a sign,
for base sixteen the mark `0x`, and digits. For the unsigned conversions the numeral is the whole
text; behind the one that `strtoll` reads any text may follow.
-/

namespace CString

/-! ## Digits -/

/-- The characters are digits of base `base`. -/
def Digits (base : Nat) (ds : List UInt8) : Prop := ∀ c ∈ ds, (digitOf base c).isSome = true

/-- The number that digits spell behind the number `acc`. -/
def numberOnto (base acc : Nat) (ds : List UInt8) : Nat :=
  ds.foldl (fun n c => n * base + (digitOf base c).getD 0) acc

/-- The number that digits spell. -/
def number (base : Nat) (ds : List UInt8) : Nat := numberOnto base 0 ds

/-- The text does not start with a digit. -/
def Stops (base : Nat) (text : List UInt8) : Prop := ∀ c ∈ text.head?, digitOf base c = none

theorem stops_nil (base : Nat) : Stops base [] := by simp [Stops]

theorem readDigits_of_stops {base : Nat} {rest : List UInt8} (h : Stops base rest) (acc : Nat) :
    readDigits base acc rest = (acc, rest) := by
  cases rest with
  | nil => rfl
  | cons c cs => rw [readDigits, h c rfl]

/-- Digits are read as far as they go. -/
theorem readDigits_append {base : Nat} {ds rest : List UInt8} (hds : Digits base ds)
    (hrest : Stops base rest) (acc : Nat) :
    readDigits base acc (ds ++ rest) = (numberOnto base acc ds, rest) := by
  induction ds generalizing acc with
  | nil => exact readDigits_of_stops hrest acc
  | cons d ds ih =>
    obtain ⟨hd, hds⟩ := List.forall_mem_cons.mp hds
    obtain ⟨n, hn⟩ := Option.isSome_iff_exists.mp hd
    rw [List.cons_append, readDigits, hn]
    show readDigits base (acc * base + n) (ds ++ rest) = _
    rw [ih hds, numberOnto, numberOnto, List.foldl_cons, hn, Option.getD_some]

/-- Every text is digits and a rest that does not start with one. -/
theorem exists_digits (base : Nat) (s : List UInt8) :
    ∃ ds rest, s = ds ++ rest ∧ Digits base ds ∧ Stops base rest := by
  induction s with
  | nil => exact ⟨[], [], rfl, by simp [Digits], stops_nil base⟩
  | cons c cs ih =>
    cases hc : digitOf base c with
    | none =>
      refine ⟨[], c :: cs, rfl, by simp [Digits], fun b hb => ?_⟩
      obtain rfl : c = b := by simpa using hb
      exact hc
    | some d =>
      obtain ⟨ds, rest, rfl, hds, hrest⟩ := ih
      refine ⟨c :: ds, rest, rfl, List.forall_mem_cons.mpr ⟨?_, hds⟩, hrest⟩
      rw [hc, Option.isSome_some]

/-- A digit is smaller than its base. -/
theorem digitOf_lt {base : Nat} {c : UInt8} {d : Nat} (h : digitOf base c = some d) : d < base := by
  have hfilter := Option.filter_eq_some_iff.mp h
  exact of_decide_eq_true hfilter.2

theorem numberOnto_lt {base : Nat} {ds : List UInt8} (h : Digits base ds) {acc bound : Nat}
    (hacc : acc < bound) : numberOnto base acc ds < bound * base ^ ds.length := by
  induction ds generalizing acc bound with
  | nil => simpa [numberOnto] using hacc
  | cons c ds ih =>
    obtain ⟨hc, hds⟩ := List.forall_mem_cons.mp h
    obtain ⟨d, hd⟩ := Option.isSome_iff_exists.mp hc
    have hlt := digitOf_lt hd
    have hstep : acc * base + d < bound * base := by
      have hle : (acc + 1) * base ≤ bound * base := Nat.mul_le_mul_right base hacc
      rw [Nat.add_mul, Nat.one_mul] at hle
      omega
    have hrest := ih hds hstep
    rw [numberOnto, List.foldl_cons, hd, Option.getD_some, List.length_cons, Nat.pow_succ',
      ← Nat.mul_assoc]
    exact hrest

/-- A number with `n` digits is below the `n`-th power of its base. -/
theorem number_lt {base : Nat} {ds : List UInt8} (h : Digits base ds) :
    number base ds < base ^ ds.length := by
  have hlt := numberOnto_lt h Nat.zero_lt_one
  rwa [Nat.one_mul] at hlt

/-- A digit is no white space, no sign and no `x`. -/
theorem plain_of_digit {base : Nat} {c : UInt8} (h : (digitOf base c).isSome = true) :
    isspace c = false ∧ c ≠ 0x2D ∧ c ≠ 0x2B ∧ c ≠ 0x78 ∧ c ≠ 0x58 := by
  obtain ⟨d, hd⟩ := Option.isSome_iff_exists.mp h
  have hvalue : (digitValue c).isSome = true := by
    rw [(Option.filter_eq_some_iff.mp hd).1, Option.isSome_some]
  have hbounds : (0x30 ≤ c.toNat ∧ c.toNat ≤ 0x39) ∨ (0x61 ≤ c.toNat ∧ c.toNat ≤ 0x66) ∨
      (0x41 ≤ c.toNat ∧ c.toNat ≤ 0x46) := by
    unfold digitValue at hvalue
    simp only [Bool.and_eq_true, decide_eq_true_eq, UInt8.le_iff_toNat_le] at hvalue
    split at hvalue
    · exact .inl ‹_›
    · split at hvalue
      · exact .inr (.inl ‹_›)
      · split at hvalue
        · exact .inr (.inr ‹_›)
        · cases hvalue
  have hne : ∀ b : UInt8, b.toNat ≠ c.toNat → c ≠ b := by
    intro b hb hcb
    exact hb (congrArg UInt8.toNat hcb).symm
  refine ⟨?_, hne _ ?_, hne _ ?_, hne _ ?_, hne _ ?_⟩
  · simp only [isspace, UInt8.le_iff_toNat_le, Bool.or_eq_false_iff, Bool.and_eq_false_iff,
      decide_eq_false_iff_not, beq_eq_false_iff_ne]
    refine ⟨hne _ ?_, .inr ?_⟩
    · show 0x20 ≠ c.toNat
      omega
    · show ¬ c.toNat ≤ 0x0D
      omega
  · show 0x2D ≠ c.toNat
    omega
  · show 0x2B ≠ c.toNat
    omega
  · show 0x78 ≠ c.toNat
    omega
  · show 0x58 ≠ c.toNat
    omega

/-! ## Signs -/

/-- The sign of a numeral. -/
inductive Sign where
  | none
  | plus
  | minus
deriving DecidableEq, Repr

namespace Sign

/-- How a sign is written. -/
def text : Sign → List UInt8
  | .none => []
  | .plus => [0x2B]
  | .minus => [0x2D]

/-- The integer that a sign and a number stand for. -/
def apply (sign : Sign) (n : Nat) : Int :=
  match sign with
  | .minus => -(n : Int)
  | _ => n

/-- What an unsigned conversion to `width` bits makes of a sign and a number. -/
def convert (sign : Sign) (width n : Nat) : Converted Nat :=
  if n ≥ 2 ^ width then ⟨2 ^ width - 1, true, []⟩
  else if sign = .minus then ⟨(2 ^ width - n) % 2 ^ width, false, []⟩
  else ⟨n, false, []⟩

end Sign

/-- The sign of a text whose digits follow it. -/
theorem readSign_text (sign : Sign) {cs : List UInt8}
    (h : ∀ c ∈ cs.head?, c ≠ 0x2D ∧ c ≠ 0x2B) :
    readSign (sign.text ++ cs) = (decide (sign = .minus), cs) := by
  cases sign with
  | plus => rfl
  | minus => rfl
  | none =>
    cases cs with
    | nil => rfl
    | cons c cs =>
      obtain ⟨hminus, hplus⟩ := h c rfl
      show readSign (c :: cs) = _
      unfold readSign
      split
      · next h => exact absurd (List.cons.inj h).1 hminus
      · next h => exact absurd (List.cons.inj h).1 hplus
      · rfl

theorem exists_sign (s : List UInt8) :
    ∃ sign cs, s = Sign.text sign ++ cs ∧ readSign s = (decide (sign = .minus), cs) := by
  unfold readSign
  split
  · next cs => exact ⟨.minus, cs, rfl, rfl⟩
  · next cs => exact ⟨.plus, cs, rfl, rfl⟩
  · exact ⟨.none, s, rfl, rfl⟩

/-- White space, and the text that the skip of it leaves. -/
theorem exists_space (s : List UInt8) :
    ∃ space, (∀ c ∈ space, isspace c = true) ∧ s = space ++ skipSpace s :=
  ⟨s.takeWhile isspace, fun _ hc => List.mem_takeWhile_imp hc, List.takeWhile_append_dropWhile.symm⟩

/-- A numeral starts behind its white space. -/
theorem skipSpace_signed {space : List UInt8} (hspace : ∀ c ∈ space, isspace c = true)
    (sign : Sign) {cs : List UInt8} (h : ∀ c ∈ cs.head?, isspace c = false) :
    skipSpace (space ++ (sign.text ++ cs)) = sign.text ++ cs := by
  rw [skipSpace_append hspace]
  cases sign with
  | plus => exact skipSpace_cons (by decide) cs
  | minus => exact skipSpace_cons (by decide) cs
  | none =>
    cases cs with
    | nil => rfl
    | cons c cs => exact skipSpace_cons (h c rfl) cs

/-! ## Base ten -/

/-- What base ten reads to the end. -/
theorem strtoul10_numeral (width : Nat) {space ds : List UInt8}
    (hspace : ∀ c ∈ space, isspace c = true) (sign : Sign) (hds : Digits 10 ds) (hne : ds ≠ []) :
    strtoul10 width (space ++ (sign.text ++ ds)) = some (sign.convert width (number 10 ds)) := by
  cases ds with
  | nil => exact absurd rfl hne
  | cons d ds =>
    have hd := hds d List.mem_cons_self
    have hplain := plain_of_digit hd
    have hread := readDigits_append hds (stops_nil 10) 0
    rw [List.append_nil] at hread
    unfold strtoul10
    rw [skipSpace_signed hspace sign (by simpa using hplain.1),
      readSign_text sign (by simpa using ⟨hplain.2.1, hplain.2.2.1⟩)]
    dsimp only
    rw [if_pos hd, hread]
    dsimp only
    unfold Sign.convert
    simp only [decide_eq_true_eq, apply_ite some]
    rfl

/-- The result of `strtoll` on an integer in decimal digits. -/
def convert (value : Int) (rest : List UInt8) : Converted Int :=
  if value > 2 ^ 63 - 1 then ⟨2 ^ 63 - 1, true, rest⟩
  else if value < -2 ^ 63 then ⟨-2 ^ 63, true, rest⟩
  else ⟨value, false, rest⟩

/-- What `strtoll` makes of a numeral, whatever follows it. -/
theorem strtoll_numeral {space ds rest : List UInt8} (hspace : ∀ c ∈ space, isspace c = true)
    (sign : Sign) (hds : Digits 10 ds) (hne : ds ≠ []) (hrest : Stops 10 rest) :
    strtoll (space ++ (sign.text ++ (ds ++ rest))) =
      some (convert (sign.apply (number 10 ds)) rest) := by
  cases ds with
  | nil => exact absurd rfl hne
  | cons d ds =>
    have hd := hds d List.mem_cons_self
    have hplain := plain_of_digit hd
    have hread : readDigits 10 0 (d :: ds ++ rest) = (number 10 (d :: ds), rest) :=
      readDigits_append hds hrest 0
    have happly : (if decide (sign = .minus) = true then -(number 10 (d :: ds) : Int)
        else number 10 (d :: ds)) = sign.apply (number 10 (d :: ds)) := by
      cases sign <;> rfl
    unfold strtoll
    rw [skipSpace_signed hspace sign (by simpa using hplain.1),
      readSign_text sign (by simpa using ⟨hplain.2.1, hplain.2.2.1⟩)]
    rw [List.cons_append] at hread ⊢
    dsimp only
    rw [if_pos hd, hread]
    dsimp only
    rw [happly, convert, apply_ite some, apply_ite some]

/-- Only numerals are converted. -/
theorem exists_numeral {s : List UInt8} {r : Converted Int} (h : strtoll s = some r) :
    ∃ space sign ds, (∀ c ∈ space, isspace c = true) ∧ Digits 10 ds ∧ ds ≠ [] ∧
      Stops 10 r.rest ∧ s = space ++ (Sign.text sign ++ (ds ++ r.rest)) := by
  obtain ⟨space, hspace, hs⟩ := exists_space s
  obtain ⟨sign, signless, hsign, hread⟩ := exists_sign (skipSpace s)
  obtain ⟨ds, rest, rfl, hds, hstops⟩ := exists_digits 10 signless
  have hne : ds ≠ [] := by
    rintro rfl
    unfold strtoll at h
    rw [hread] at h
    cases rest with
    | nil => cases h
    | cons c cs =>
      have hc : ¬ (digitOf 10 c).isSome = true := by simp [hstops c rfl]
      simp only [List.nil_append, if_neg hc] at h
      cases h
  rw [hs, hsign, strtoll_numeral hspace sign hds hne hstops] at h
  have hrest : r.rest = rest := by
    rw [← Option.some.inj h]
    unfold convert
    split_ifs <;> rfl
  exact ⟨space, sign, ds, hspace, hds, hne, hrest ▸ hstops, by rw [hrest, ← hsign]; exact hs⟩

/-! ## Base sixteen -/

/-- The mark that may stand before the digits of base sixteen. -/
def HexMark (mark : List UInt8) : Prop := mark = [] ∨ mark = [0x30, 0x78] ∨ mark = [0x30, 0x58]

/-- A text that base sixteen reads to the end, with its sign and its digits. -/
structure HexNumeral (s : List UInt8) (sign : Sign) (ds : List UInt8) : Prop where
  digits : Digits 16 ds
  ne_nil : ds ≠ []
  spelled : ∃ space mark, (∀ c ∈ space, isspace c = true) ∧ HexMark mark ∧
    s = space ++ (sign.text ++ (mark ++ ds))

/-- The mark is skipped. -/
theorem skipHexPrefix_mark {mark ds : List UInt8} (hmark : HexMark mark) (hds : Digits 16 ds)
    (hne : ds ≠ []) : skipHexPrefix (mark ++ ds) = ds := by
  cases ds with
  | nil => exact absurd rfl hne
  | cons d ds =>
    have hd := hds d List.mem_cons_self
    rcases hmark with rfl | rfl | rfl
    · show skipHexPrefix (d :: ds) = d :: ds
      unfold skipHexPrefix
      split
      · next x c cs h =>
        -- the second character is a digit, so it is no mark
        have hx : x ∈ d :: ds := by
          rw [h]
          simp
        have hplain := plain_of_digit (hds x hx)
        rw [if_neg]
        simp [hplain.2.2.2.1, hplain.2.2.2.2]
      · rfl
    · show skipHexPrefix (0x30 :: 0x78 :: d :: ds) = d :: ds
      unfold skipHexPrefix
      simp [hd]
    · show skipHexPrefix (0x30 :: 0x58 :: d :: ds) = d :: ds
      unfold skipHexPrefix
      simp [hd]

theorem exists_mark (s : List UInt8) :
    ∃ mark, HexMark mark ∧ s = mark ++ skipHexPrefix s := by
  unfold skipHexPrefix
  split
  · next x c cs =>
    by_cases hx : ((x == 0x78 || x == 0x58) && (digitOf 16 c).isSome) = true
    · rw [if_pos hx]
      rw [Bool.and_eq_true, Bool.or_eq_true, beq_iff_eq, beq_iff_eq] at hx
      rcases hx.1 with rfl | rfl
      · exact ⟨[0x30, 0x78], .inr (.inl rfl), rfl⟩
      · exact ⟨[0x30, 0x58], .inr (.inr rfl), rfl⟩
    · rw [if_neg hx]
      exact ⟨[], .inl rfl, rfl⟩
  · exact ⟨[], .inl rfl, rfl⟩

/-- What base sixteen makes of a numeral. -/
theorem strtoul16_numeral (width : Nat) {s ds : List UInt8} {sign : Sign}
    (h : HexNumeral s sign ds) :
    strtoul16 width s = some (sign.convert width (number 16 ds)) := by
  obtain ⟨hds, hne, space, mark, hspace, hmark, rfl⟩ := h
  have hskip := skipHexPrefix_mark hmark hds hne
  have hread := readDigits_append hds (stops_nil 16) 0
  rw [List.append_nil] at hread
  -- the mark or, without one, the first digit stands behind the sign
  have hhead : ∀ c ∈ (mark ++ ds).head?, isspace c = false ∧ c ≠ 0x2D ∧ c ≠ 0x2B := by
    intro c hc
    rcases hmark with rfl | rfl | rfl
    · have hplain := plain_of_digit (hds c (List.mem_of_mem_head? hc))
      exact ⟨hplain.1, hplain.2.1, hplain.2.2.1⟩
    · obtain rfl : 0x30 = c := by simpa using hc
      decide
    · obtain rfl : 0x30 = c := by simpa using hc
      decide
  unfold strtoul16
  rw [skipSpace_signed hspace sign fun c hc => (hhead c hc).1,
    readSign_text sign fun c hc => (hhead c hc).2]
  dsimp only
  rw [hskip]
  cases ds with
  | nil => exact absurd rfl hne
  | cons d ds =>
    dsimp only
    rw [if_pos (hds d List.mem_cons_self), hread]
    dsimp only
    unfold Sign.convert
    simp only [decide_eq_true_eq, apply_ite some]
    rfl

/-- Only numerals are read to the end. -/
theorem exists_hexNumeral {width : Nat} {s : List UInt8} {r : Converted Nat}
    (h : strtoul16 width s = some r) (hrest : r.rest = []) : ∃ sign ds, HexNumeral s sign ds := by
  obtain ⟨space, hspace, hs⟩ := exists_space s
  obtain ⟨sign, signless, hsign, hread⟩ := exists_sign (skipSpace s)
  obtain ⟨mark, hmark, hmarked⟩ := exists_mark signless
  obtain ⟨ds, rest, htext, hds, hstops⟩ := exists_digits 16 (skipHexPrefix signless)
  have hdigits := readDigits_append hds hstops 0
  unfold strtoul16 at h
  rw [hread] at h
  dsimp only at h
  cases hchars : skipHexPrefix signless with
  | nil =>
    rw [hchars] at h
    cases h
  | cons c cs =>
    rw [hchars] at h htext
    dsimp only at h
    split at h
    · next hc =>
      rw [htext, hdigits] at h
      dsimp only at h
      have hend : rest = [] := by
        split at h
        · obtain rfl := Option.some.inj h
          exact hrest
        · split at h
          · obtain rfl := Option.some.inj h
            exact hrest
          · obtain rfl := Option.some.inj h
            exact hrest
      subst hend
      rw [List.append_nil] at htext
      refine ⟨sign, ds, hds, ?_, space, mark, hspace, hmark, ?_⟩
      · rintro rfl
        cases htext
      · rw [← htext, ← hchars, ← hmarked, ← hsign]
        exact hs
    · cases h

end CString
