import SwbtDaemon.Lib.Braces

/-!
# Objects as a writer prints them

A program that writes an object by a format string puts down names, numbers, strings and nested
objects one after the other, without white space. The texts of its strings may be any bytes that
need no escape, so that such an object need not be one of JSON; it is a braced text all the same.
-/

namespace Written

open CString Json Braces

/-- A value as it is printed. -/
inductive Value where
  | string (text : List UInt8)
  | bare (text : List UInt8)
  /-- A nested object, given by the text between its braces. -/
  | object (body : List UInt8)
deriving DecidableEq, Repr

def Value.bytes : Value → List UInt8
  | .string text => 0x22 :: (text ++ [0x22])
  | .bare text => text
  | .object body => 0x7B :: (body ++ [0x7D])

/-- `body` may stand between the braces of an object. -/
def Fills (body : List UInt8) : Prop := ∃ last, Body 0x7B body last ∧ last ≠ 0x2C

/-- The value is printed as it should be, on one line. -/
def Value.Legal : Value → Prop
  | .string text => ∀ b ∈ text, PlainByte b
  | .bare text => text ≠ [] ∧ ∀ b ∈ text, BareByte b
  | .object body => Fills body ∧ 0x0A ∉ body

/-- A member as it is printed. -/
structure Member where
  name : List UInt8
  value : Value
deriving DecidableEq, Repr

def Member.bytes (m : Member) : List UInt8 := 0x22 :: (m.name ++ 0x22 :: 0x3A :: m.value.bytes)

/-- Name and value are printed as they should be. -/
def Member.Legal (m : Member) : Prop := (∀ b ∈ m.name, PlainByte b) ∧ m.value.Legal

/-- Members after the first one, each after a comma. -/
def moreBytes (rest : List Member) : List UInt8 := rest.flatMap fun m => 0x2C :: m.bytes

/-- The text between the braces of an object with at least one member. -/
def bodyBytes (first : Member) (rest : List Member) : List UInt8 := first.bytes ++ moreBytes rest

/-- The value of the first member with the name `key`. -/
def find? (key : List UInt8) (members : List Member) : Option Value :=
  (members.find? fun m => m.name == key).map Member.value

/-! ## Printed objects are braced -/

theorem complete_value {v : Value} (h : v.Legal) : Complete v.bytes := by
  intro last
  cases v with
  | string text => exact ⟨0x22, .string (content_of_plain h) .nil, by decide, by decide⟩
  | bare text => exact complete_bare h.1 h.2 last
  | object body =>
    obtain ⟨⟨inner, hbody, hcomma⟩, -⟩ := h
    exact ⟨0x7D, .group hbody hcomma .nil, by decide, by decide⟩

theorem complete_member {m : Member} (h : m.Legal) : Complete m.bytes := by
  intro last
  obtain ⟨last', hvalue, hlast⟩ := complete_value h.2 0x3A
  exact ⟨last', .string (content_of_plain h.1) (.other other_bracket.2.2 hvalue), hlast⟩

theorem body_more {rest : List Member} (h : ∀ m ∈ rest, m.Legal) {last : UInt8}
    (hcomma : last ≠ 0x2C) (hopen : last ≠ 0x7B) :
    ∃ last', Body last (moreBytes rest) last' ∧ last' ≠ 0x2C := by
  induction rest generalizing last with
  | nil => exact ⟨last, .nil, hcomma⟩
  | cons m rest ih =>
    obtain ⟨last₁, hm, hcomma₁, hopen₁⟩ := complete_member (h m List.mem_cons_self) 0x2C
    obtain ⟨last', hrest, hlast⟩ :=
      ih (fun m' hm' => h m' (List.mem_cons_of_mem _ hm')) hcomma₁ hopen₁
    exact ⟨last', .comma hcomma hopen (hm.append hrest), hlast⟩

/-- What is printed between braces may stand there. -/
theorem fills_bodyBytes {first : Member} {rest : List Member} (hfirst : first.Legal)
    (h : ∀ m ∈ rest, m.Legal) : Fills (bodyBytes first rest) := by
  obtain ⟨last₁, hbody, hcomma, hopen⟩ := complete_member hfirst 0x7B
  obtain ⟨last, hrest, hlast⟩ := body_more h hcomma hopen
  exact ⟨last, hbody.append hrest, hlast⟩

theorem braced_of_fills {body : List UInt8} (h : Fills body) :
    Braced (0x7B :: (body ++ [0x7D])) := by
  obtain ⟨last, hbody, hlast⟩ := h
  exact ⟨body, last, rfl, hbody, hlast⟩

/-! ## What is printed stands on one line -/

theorem newline_not_mem_plain {text : List UInt8} (h : ∀ b ∈ text, PlainByte b) :
    (0x0A : UInt8) ∉ text := fun hmem => absurd (h _ hmem).1 (by decide)

theorem newline_not_mem_bare {text : List UInt8} (h : ∀ b ∈ text, BareByte b) :
    (0x0A : UInt8) ∉ text := fun hmem => by
  have hbare := h _ hmem
  simp [BareByte] at hbare

theorem newline_not_mem_value {v : Value} (h : v.Legal) : (0x0A : UInt8) ∉ v.bytes := by
  cases v with
  | string text =>
    have htext : (0x0A : UInt8) ∉ text := newline_not_mem_plain h
    simp [Value.bytes, htext]
  | bare text => exact newline_not_mem_bare h.2
  | object body => simp [Value.bytes, h.2]

theorem newline_not_mem_member {m : Member} (h : m.Legal) : (0x0A : UInt8) ∉ m.bytes := by
  have hname := newline_not_mem_plain h.1
  have hvalue := newline_not_mem_value h.2
  simp [Member.bytes, hname, hvalue]

theorem newline_not_mem_body {first : Member} {rest : List Member} (hfirst : first.Legal)
    (h : ∀ m ∈ rest, m.Legal) : (0x0A : UInt8) ∉ bodyBytes first rest := by
  intro hmem
  rcases List.mem_append.1 hmem with hmem | hmem
  · exact newline_not_mem_member hfirst hmem
  · obtain ⟨m, hm, hmem⟩ := List.mem_flatMap.1 hmem
    rcases List.mem_cons.1 hmem with hcomma | hmem
    · exact absurd hcomma (by decide)
    · exact newline_not_mem_member (h m hm) hmem

/-- A printed object is a legal value. -/
theorem legal_object {first : Member} {rest : List Member} (hfirst : first.Legal)
    (h : ∀ m ∈ rest, m.Legal) : (Value.object (bodyBytes first rest)).Legal :=
  ⟨fills_bodyBytes hfirst h, newline_not_mem_body hfirst h⟩

/-! ## Numbers as they are printed -/

theorem digitChar_byte (d : Fin 10) : (Nat.digitChar d.val).toNat.toUInt8 = digitByte d := by
  revert d
  decide

/-- An unsigned number is printed as its decimal digits. -/
theorem printUnsigned_digits (n : Nat) :
    ∃ d ds, printUnsigned n = (d :: ds).map digitByte ∧ decimal (d :: ds) = n := by
  induction n using Nat.strong_induction_on with
  | _ n ih =>
    unfold printUnsigned
    by_cases hlt : n < 10
    · refine ⟨⟨n, hlt⟩, [], ?_, ?_⟩
      · rw [Nat.toDigits_of_lt_base hlt]
        exact congrArg (fun b => [b]) (digitChar_byte ⟨n, hlt⟩)
      · simp [decimal]
    · obtain ⟨d, ds, hbytes, hvalue⟩ := ih (n / 10) (by omega)
      have hlast : n % 10 < 10 := Nat.mod_lt _ (by decide)
      refine ⟨d, ds ++ [⟨n % 10, hlast⟩], ?_, ?_⟩
      · rw [Nat.toDigits_of_base_le (by decide) (Nat.le_of_not_lt hlt), List.map_append]
        unfold printUnsigned at hbytes
        rw [hbytes, ← List.cons_append, List.map_append]
        exact congrArg (fun b => List.map digitByte (d :: ds) ++ [b]) (digitChar_byte ⟨_, hlast⟩)
      · unfold decimal at hvalue ⊢
        rw [← List.cons_append, List.foldl_append, hvalue]
        simp only [List.foldl_cons, List.foldl_nil]
        omega

theorem legal_printUnsigned (n : Nat) : (Value.bare (printUnsigned n)).Legal := by
  obtain ⟨d, ds, hbytes, -⟩ := printUnsigned_digits n
  rw [hbytes]
  exact ⟨by simp, bare_digits (d :: ds)⟩

theorem legal_printSigned (n : Int) : (Value.bare (printSigned n)).Legal := by
  have hdigits := legal_printUnsigned n.natAbs
  unfold printSigned
  split
  · refine ⟨by simp, fun b hb => ?_⟩
    rcases List.mem_cons.1 hb with rfl | hb
    · exact Or.inr (Or.inr (Or.inr (Or.inr (Or.inl rfl))))
    · exact hdigits.2 b hb
  · exact hdigits

theorem printUnsigned_length_le {n k : Nat} (hk : 0 < k) (h : n < 10 ^ k) :
    (printUnsigned n).length ≤ k := by
  unfold printUnsigned
  rw [List.length_map]
  exact (Nat.length_toDigits_le_iff (by decide) hk).2 h

end Written
