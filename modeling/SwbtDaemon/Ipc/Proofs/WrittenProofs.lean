import SwbtDaemon.Ipc.Proofs.DecodeProofs
import SwbtDaemon.Lib.Written

/-!
# Proofs: reading back a printed object

The lookup in an object that a format string has printed finds the first member with the name, and
the readers return what was printed there.
-/

namespace Swbt.Ipc

open CString Json Braces Written

section Lookup

variable (key : List UInt8)

theorem neutral_comma : Neutral 0x2C := ⟨by decide, by decide, by decide⟩

theorem neutral_colon : Neutral 0x3A := ⟨by decide, by decide, by decide⟩

/-- A printed value is stepped over. -/
theorem findLoop_written_value {v : Written.Value} (h : v.Legal) {cs : List UInt8}
    (hcolon : NoColon cs) :
    findLoop key (.outside 1) (v.bytes ++ cs) = findLoop key (.outside 1) cs := by
  cases v with
  | string text =>
    rw [Written.Value.bytes, List.cons_append, List.append_assoc]
    change findLoop key (.outside 1) (0x22 :: (text ++ 0x22 :: cs)) = _
    rw [findLoop_unescaped key (unescaped_of_plain h)]
    split
    · next after hafter => exact absurd hafter (hcolon after)
    · rfl
  | bare text => exact findLoop_neutral key (fun b hb => neutral_bare (h.2 b hb)) 1 cs
  | object body =>
    obtain ⟨⟨last, hbody, -⟩, -⟩ := h
    rw [Written.Value.bytes, List.cons_append, List.append_assoc, findLoop_open,
      findLoop_balanced key (balanced_of_body hbody) 0]
    exact findLoop_close key 0 cs

/-- What follows a member: a comma or the end of the object. -/
theorem follows_more (rest : List Member) (cs : List UInt8) :
    Follows (moreBytes rest ++ 0x7D :: cs) := by
  cases rest with
  | nil => exact ⟨cs, Or.inr (skipSpace_cons (by decide) cs)⟩
  | cons m rest => exact ⟨_, Or.inl (skipSpace_cons (by decide) _)⟩

theorem skipSpace_written {v : Written.Value} (h : v.Legal) (cs : List UInt8) :
    skipSpace (v.bytes ++ cs) = v.bytes ++ cs := by
  cases v with
  | string text => exact skipSpace_cons (by decide) _
  | object body => exact skipSpace_cons (by decide) _
  | bare text =>
    obtain ⟨b, bs, rfl⟩ := List.exists_cons_of_ne_nil h.1
    exact skipSpace_cons (isspace_bare (h.2 b List.mem_cons_self)) _

/-- The lookup finds a text that starts with the printed value. -/
def FindsWritten (found : Option (List UInt8)) : Option Written.Value → Prop
  | none => found = none
  | some value => ∃ after, found = some (value.bytes ++ after) ∧ Follows after

theorem findLoop_written_member {m : Member} (h : m.Legal) {rest : List Member}
    {cs : List UInt8} :
    findLoop key (.outside 1) (m.bytes ++ (moreBytes rest ++ 0x7D :: cs)) =
      if m.name = key then some (m.value.bytes ++ (moreBytes rest ++ 0x7D :: cs))
      else findLoop key (.outside 1) (moreBytes rest ++ 0x7D :: cs) := by
  have htext : m.bytes ++ (moreBytes rest ++ 0x7D :: cs) =
      0x22 :: (m.name ++ 0x22 :: (0x3A :: (m.value.bytes ++ (moreBytes rest ++ 0x7D :: cs)))) := by
    simp [Member.bytes]
  rw [htext, findLoop_unescaped key (unescaped_of_plain h.1), skipSpace_cons (by decide),
    findLoop_byte key neutral_colon,
    findLoop_written_value key h.2 (noColon_of_follows (follows_more rest cs))]
  simp only [skipSpace_written h.2]

theorem moreBytes_cons_end (m : Member) (rest : List Member) (cs : List UInt8) :
    moreBytes (m :: rest) ++ 0x7D :: cs = 0x2C :: (m.bytes ++ (moreBytes rest ++ 0x7D :: cs)) := by
  simp [moreBytes]

theorem findLoop_more {rest : List Member} (h : ∀ m ∈ rest, m.Legal) (cs : List UInt8) :
    FindsWritten (findLoop key (.outside 1) (moreBytes rest ++ 0x7D :: cs))
      (Written.find? key rest) := by
  induction rest with
  | nil => exact findLoop_end key cs
  | cons m rest ih =>
    rw [moreBytes_cons_end, findLoop_byte key neutral_comma,
      findLoop_written_member key (h m List.mem_cons_self), Written.find?, List.find?_cons]
    by_cases hname : m.name = key
    · rw [if_pos hname, beq_iff_eq.2 hname]
      exact ⟨_, rfl, follows_more rest cs⟩
    · rw [if_neg hname, beq_eq_false_iff_ne.2 hname]
      exact ih fun m' hm' => h m' (List.mem_cons_of_mem _ hm')

/-- The lookup in a printed object. -/
theorem findKeyValue_written {first : Member} {rest : List Member} (hfirst : first.Legal)
    (h : ∀ m ∈ rest, m.Legal) (cs : List UInt8) :
    FindsWritten (findKeyValue (0x7B :: (bodyBytes first rest ++ 0x7D :: cs)) key)
      (Written.find? key (first :: rest)) := by
  rw [findKeyValue_open, bodyBytes, List.append_assoc, findLoop_written_member key hfirst,
    Written.find?, List.find?_cons]
  by_cases hname : first.name = key
  · rw [if_pos hname, beq_iff_eq.2 hname]
    exact ⟨_, rfl, follows_more rest cs⟩
  · rw [if_neg hname, beq_eq_false_iff_ne.2 hname]
    exact findLoop_more key h cs

/-- The lookup stops at the second member, whatever follows it. -/
theorem findKeyValue_second {first second : Member} (hfirst : first.Legal)
    (hsecond : second.Legal) (hne : first.name ≠ key) (heq : second.name = key)
    (rest : List Member) (cs : List UInt8) :
    findKeyValue (0x7B :: (bodyBytes first (second :: rest) ++ 0x7D :: cs)) key =
      some (second.value.bytes ++ (moreBytes rest ++ 0x7D :: cs)) := by
  rw [findKeyValue_open, bodyBytes, List.append_assoc, findLoop_written_member key hfirst,
    if_neg hne, moreBytes_cons_end, findLoop_byte key neutral_comma,
    findLoop_written_member key hsecond, if_pos heq]

end Lookup

/-! ## Reading a printed value -/

theorem readString_written {text : List UInt8} (h : ∀ b ∈ text, PlainByte b) {after : List UInt8}
    (hafter : Follows after) {n : Nat} (hlen : text.length < n) :
    readString (some ((Written.Value.string text).bytes ++ after)) n = .value text := by
  have htext : (Written.Value.string text).bytes ++ after = 0x22 :: (text ++ 0x22 :: after) := by
    simp [Written.Value.bytes]
  have hloop := readStringLoop_plain h (k := 0) (Nat.zero_lt_of_lt hlen) after
  rw [if_pos (by omega)] at hloop
  rw [htext, readString, hloop]
  simp only [valueEnds_of_follows hafter, if_true]

/-- A printed integer is read back when it is one of 64 bits. -/
theorem readI64_printSigned (i : Int) {after : List UInt8} (hafter : Follows after) :
    readI64 (some (printSigned i ++ after)) =
      if -2 ^ 63 ≤ i ∧ i ≤ 2 ^ 63 - 1 then .value i else .invalid := by
  obtain ⟨d, ds, hbytes, hvalue⟩ := printUnsigned_digits i.natAbs
  have htext : printSigned i ++ after =
      (if decide (i < 0) = true then [0x2D] else []) ++ ((d :: ds).map digitByte ++ after) := by
    unfold printSigned
    rw [hbytes]
    by_cases hneg : i < 0
    · rw [if_pos hneg, if_pos (decide_eq_true hneg)]
      rfl
    · rw [if_neg hneg, if_neg (by simpa using hneg)]
      rfl
  have hint : (if decide (i < 0) = true then -(decimal (d :: ds) : Int) else decimal (d :: ds)) =
      i := by
    rw [hvalue]
    by_cases hneg : i < 0
    · rw [if_pos (decide_eq_true hneg)]
      omega
    · rw [if_neg (by simpa using hneg)]
      omega
  have hread := strtoll_digits (decide (i < 0)) d ds (stops_of_follows hafter)
  rw [hint, ← htext] at hread
  rw [readI64_convert i after _ hread]
  simp only [valueEnds_of_follows hafter, true_and]

theorem printSigned_natCast (n : Nat) : printSigned n = printUnsigned n := by
  unfold printSigned
  rw [if_neg (by omega)]
  rfl

theorem readI64_printUnsigned (n : Nat) {after : List UInt8} (hafter : Follows after) :
    readI64 (some (printUnsigned n ++ after)) =
      if n ≤ 2 ^ 63 - 1 then .value (n : Int) else .invalid := by
  rw [← printSigned_natCast, readI64_printSigned n hafter]
  by_cases hn : n ≤ 2 ^ 63 - 1
  · rw [if_pos (by omega), if_pos hn]
  · rw [if_neg (by omega), if_neg hn]

section Members

variable {first : Member} {rest : List Member} (hfirst : first.Legal)
  (h : ∀ m ∈ rest, m.Legal) (cs : List UInt8) {key : List UInt8}

include hfirst h

theorem getString_written_absent (hfind : Written.find? key (first :: rest) = none) (n : Nat) :
    getString (0x7B :: (bodyBytes first rest ++ 0x7D :: cs)) key n = .absent := by
  have hfound := findKeyValue_written key hfirst h cs
  rw [hfind] at hfound
  rw [getString, hfound]
  rfl

theorem getString_written {text : List UInt8}
    (hfind : Written.find? key (first :: rest) = some (.string text))
    (hplain : ∀ b ∈ text, PlainByte b) {n : Nat} (hlen : text.length < n) :
    getString (0x7B :: (bodyBytes first rest ++ 0x7D :: cs)) key n = .value text := by
  have hfound := findKeyValue_written key hfirst h cs
  rw [hfind] at hfound
  obtain ⟨after, hfound, hafter⟩ := hfound
  rw [getString, hfound]
  exact readString_written hplain hafter hlen

theorem getI64_written_signed {i : Int}
    (hfind : Written.find? key (first :: rest) = some (.bare (printSigned i))) :
    getI64 (0x7B :: (bodyBytes first rest ++ 0x7D :: cs)) key =
      if -2 ^ 63 ≤ i ∧ i ≤ 2 ^ 63 - 1 then .value i else .invalid := by
  have hfound := findKeyValue_written key hfirst h cs
  rw [hfind] at hfound
  obtain ⟨after, hfound, hafter⟩ := hfound
  rw [getI64, hfound]
  exact readI64_printSigned i hafter

theorem getI64_written {n : Nat}
    (hfind : Written.find? key (first :: rest) = some (.bare (printUnsigned n))) :
    getI64 (0x7B :: (bodyBytes first rest ++ 0x7D :: cs)) key =
      if n ≤ 2 ^ 63 - 1 then .value (n : Int) else .invalid := by
  have hfound := findKeyValue_written key hfirst h cs
  rw [hfind] at hfound
  obtain ⟨after, hfound, hafter⟩ := hfound
  rw [getI64, hfound]
  exact readI64_printUnsigned n hafter

theorem isCompleteObject_written (hlen : (bodyBytes first rest).length + 2 ≤ jsonLineMax)
    (hcs : ∀ b ∈ cs, isspace b = true) :
    isCompleteObject (0x7B :: (bodyBytes first rest ++ 0x7D :: cs)) = true := by
  refine isCompleteObject_of_braced ⟨[], 0x7B :: (bodyBytes first rest ++ [0x7D]), cs, ?_,
    braced_of_fills (fills_bodyBytes hfirst h), ?_, fun b hb => absurd hb List.not_mem_nil, hcs⟩
  · simp
  · simp only [List.length_cons, List.length_append, List.length_nil]
    omega

end Members

end Swbt.Ipc
