import Mathlib.Data.List.Basic

/-!
# JSON texts

The grammar of JSON as a concrete syntax tree: a tree holds everything that a text is made of,
its white space, the escapes of its strings and the digits of its numbers, and `bytes` writes the
text down in UTF-8. A text is well formed when it is the text of some tree.
-/

namespace Json

/-! ## Tokens -/

/-- A white space character. -/
inductive Space where
  | space
  | tab
  | newline
  | carriageReturn
deriving DecidableEq, Repr

/-- The byte of a white space character. -/
def Space.byte : Space → UInt8
  | .space => 0x20
  | .tab => 0x09
  | .newline => 0x0A
  | .carriageReturn => 0x0D

/-- The text of white space. -/
def wsBytes (ws : List Space) : List UInt8 := ws.map Space.byte

/-- A hexadecimal digit in one of its spellings. -/
structure HexDigit where
  value : Fin 16
  upper : Bool
deriving DecidableEq, Repr

def HexDigit.byte (d : HexDigit) : UInt8 :=
  if d.value.val < 10 then (0x30 + d.value.val).toUInt8
  else if d.upper then (0x41 + (d.value.val - 10)).toUInt8
  else (0x61 + (d.value.val - 10)).toUInt8

/-- The character after the backslash of a short escape. -/
inductive Escape where
  | quote
  | backslash
  | slash
  | backspace
  | formFeed
  | newline
  | carriageReturn
  | tab
deriving DecidableEq, Repr

/-- How a short escape is written after its backslash. -/
def Escape.letter : Escape → UInt8
  | .quote => 0x22
  | .backslash => 0x5C
  | .slash => 0x2F
  | .backspace => 0x62
  | .formFeed => 0x66
  | .newline => 0x6E
  | .carriageReturn => 0x72
  | .tab => 0x74

/-- The character that a short escape stands for. -/
def Escape.denotes : Escape → UInt8
  | .quote => 0x22
  | .backslash => 0x5C
  | .slash => 0x2F
  | .backspace => 0x08
  | .formFeed => 0x0C
  | .newline => 0x0A
  | .carriageReturn => 0x0D
  | .tab => 0x09

/-- The characters that stand for themselves in a string. -/
def Unescaped (c : Char) : Prop := 0x20 ≤ c.val ∧ c.val ≠ 0x22 ∧ c.val ≠ 0x5C

instance decidableUnescaped (c : Char) : Decidable (Unescaped c) := inferInstanceAs (Decidable (_ ∧ _ ∧ _))

/-- One character of a string, as it is written. -/
inductive StringItem where
  | char (c : Char) (h : Unescaped c)
  | escape (e : Escape)
  | unicode (d₁ d₂ d₃ d₄ : HexDigit)
deriving DecidableEq

def StringItem.bytes : StringItem → List UInt8
  | .char c _ => String.utf8EncodeChar c
  | .escape e => [0x5C, e.letter]
  | .unicode d₁ d₂ d₃ d₄ => [0x5C, 0x75, d₁.byte, d₂.byte, d₃.byte, d₄.byte]

/-- The text between the quotes of a string. -/
def contentBytes (items : List StringItem) : List UInt8 := items.flatMap StringItem.bytes

/-- The text of a string. -/
def stringBytes (items : List StringItem) : List UInt8 :=
  [0x22] ++ contentBytes items ++ [0x22]

/-- No escape is written in a string. -/
def isPlain (items : List StringItem) : Bool :=
  items.all fun
    | .char _ _ => true
    | _ => false

/-- A string without escapes: the characters of `s` that need none. -/
def literal (s : String) : List StringItem :=
  s.toList.filterMap fun c => if h : Unescaped c then some (.char c h) else none

/-- The UTF-16 code unit of four hexadecimal digits. -/
def codeUnit (d₁ d₂ d₃ d₄ : HexDigit) : Nat :=
  ((d₁.value.val * 16 + d₂.value.val) * 16 + d₃.value.val) * 16 + d₄.value.val

/-- The UTF-8 text of a code point, where a lone surrogate is replaced. -/
def encodePoint (n : Nat) : List UInt8 :=
  if 0xD800 ≤ n ∧ n ≤ 0xDFFF then String.utf8EncodeChar (Char.ofNat 0xFFFD)
  else String.utf8EncodeChar (Char.ofNat n)

/-- The string that the items stand for, in UTF-8. -/
def decoded : List StringItem → List UInt8
  | [] => []
  | .char c _ :: items => String.utf8EncodeChar c ++ decoded items
  | .escape e :: items => e.denotes :: decoded items
  | .unicode d₁ d₂ d₃ d₄ :: .unicode e₁ e₂ e₃ e₄ :: items =>
    let high := codeUnit d₁ d₂ d₃ d₄
    let low := codeUnit e₁ e₂ e₃ e₄
    if (0xD800 ≤ high ∧ high ≤ 0xDBFF) ∧ (0xDC00 ≤ low ∧ low ≤ 0xDFFF) then
      encodePoint (0x10000 + (high - 0xD800) * 0x400 + (low - 0xDC00)) ++ decoded items
    else encodePoint high ++ decoded (.unicode e₁ e₂ e₃ e₄ :: items)
  | .unicode d₁ d₂ d₃ d₄ :: items => encodePoint (codeUnit d₁ d₂ d₃ d₄) ++ decoded items

/-! ## Numbers -/

def digitByte (d : Fin 10) : UInt8 := (0x30 + d.val).toUInt8

/-- An integer part: zero, or digits of which the first is `first + 1`. -/
inductive IntPart where
  | zero
  | positive (first : Fin 9) (rest : List (Fin 10))
deriving DecidableEq, Repr

def IntPart.digits : IntPart → List (Fin 10)
  | .zero => [0]
  | .positive first rest => first.succ :: rest

/-- One digit or more. -/
structure Digits where
  first : Fin 10
  rest : List (Fin 10)
deriving DecidableEq, Repr

def Digits.bytes (ds : Digits) : List UInt8 := (ds.first :: ds.rest).map digitByte

/-- An exponent: the case of its letter, its sign (a plus or a minus) if it has one, its digits. -/
structure Exponent where
  upper : Bool
  minus : Option Bool
  digits : Digits
deriving DecidableEq, Repr

def Exponent.sign (e : Exponent) : List UInt8 :=
  match e.minus with
  | none => []
  | some false => [0x2B]
  | some true => [0x2D]

def Exponent.bytes (e : Exponent) : List UInt8 :=
  (if e.upper then 0x45 else 0x65) :: (e.sign ++ e.digits.bytes)

/-- A number as it is written. -/
structure Number where
  negative : Bool
  int : IntPart
  fraction : Option Digits
  exponent : Option Exponent
deriving DecidableEq, Repr

/-- The text of the fraction and of the exponent. -/
def Number.tail (n : Number) : List UInt8 :=
  match n.fraction, n.exponent with
  | none, none => []
  | none, some e => e.bytes
  | some ds, none => 0x2E :: ds.bytes
  | some ds, some e => 0x2E :: (ds.bytes ++ e.bytes)

def Number.bytes (n : Number) : List UInt8 :=
  (if n.negative then [0x2D] else []) ++ n.int.digits.map digitByte ++ n.tail

/-- The value of decimal digits. -/
def decimal (digits : List (Fin 10)) : Nat := digits.foldl (fun acc d => acc * 10 + d.val) 0

/-- The value of a number that is written as an integer. -/
def Number.toInt? (n : Number) : Option Int :=
  match n.fraction, n.exponent with
  | none, none =>
    some (if n.negative then -(decimal n.int.digits : Int) else decimal n.int.digits)
  | _, _ => none

/-! ## Values -/

mutual

/-- A value as it is written. -/
inductive Value where
  | null
  | true
  | false
  | number (n : Number)
  | string (items : List StringItem)
  /-- `ws` follows the bracket. -/
  | array (ws : List Space) (elems : Elems)
  /-- `ws` follows the brace. -/
  | object (ws : List Space) (members : Members)

/-- The elements of an array, each with the white space around it. -/
inductive Elems where
  | nil
  | cons (before : List Space) (value : Value) (after : List Space) (rest : Elems)

/-- The members of an object, each with the white space around its name and its value. -/
inductive Members where
  | nil
  | cons (before : List Space) (name : List StringItem) (afterName beforeValue : List Space)
      (value : Value) (after : List Space) (rest : Members)

end

/-- A member without white space. -/
def Members.member (name : String) (value : Value) (rest : Members) : Members :=
  .cons [] (literal name) [] [] value [] rest

/-- The comma between an element and the rest. -/
def Elems.comma : Elems → List UInt8
  | .nil => []
  | .cons .. => [0x2C]

/-- The comma between a member and the rest. -/
def Members.comma : Members → List UInt8
  | .nil => []
  | .cons .. => [0x2C]

/-- The text of a literal name. -/
def nullBytes : List UInt8 := [0x6E, 0x75, 0x6C, 0x6C]

def trueBytes : List UInt8 := [0x74, 0x72, 0x75, 0x65]

def falseBytes : List UInt8 := [0x66, 0x61, 0x6C, 0x73, 0x65]

mutual

/-- The text of a value. -/
def Value.bytes : Value → List UInt8
  | .null => nullBytes
  | .true => trueBytes
  | .false => falseBytes
  | .number n => n.bytes
  | .string items => stringBytes items
  | .array ws elems => [0x5B] ++ wsBytes ws ++ elems.bytes ++ [0x5D]
  | .object ws members => [0x7B] ++ wsBytes ws ++ members.bytes ++ [0x7D]

def Elems.bytes : Elems → List UInt8
  | .nil => []
  | .cons before value after rest =>
    wsBytes before ++ value.bytes ++ wsBytes after ++ rest.comma ++ rest.bytes

def Members.bytes : Members → List UInt8
  | .nil => []
  | .cons before name afterName beforeValue value after rest =>
    wsBytes before ++ stringBytes name ++ wsBytes afterName ++ [0x3A] ++ wsBytes beforeValue ++
      value.bytes ++ wsBytes after ++ rest.comma ++ rest.bytes

end

/-- The text of an object with white space around it. -/
def objectText (leading ws : List Space) (members : Members) (trailing : List Space) :
    List UInt8 :=
  wsBytes leading ++ ((Value.object ws members).bytes ++ wsBytes trailing)

/-- `text` is a well-formed object with white space around it. -/
def IsObject (text : List UInt8) : Prop :=
  ∃ leading ws members trailing, text = objectText leading ws members trailing

mutual

/-- No escape is written in the strings of a value outside of its objects. -/
def Value.isPlain : Value → Bool
  | .string items => Json.isPlain items
  | .array _ elems => elems.isPlain
  | _ => true

def Elems.isPlain : Elems → Bool
  | .nil => true
  | .cons _ value _ rest => value.isPlain && rest.isPlain

end

/-- No escape is written in the strings of the members outside of their objects. -/
def Members.isPlain : Members → Bool
  | .nil => true
  | .cons _ name _ _ value _ rest => Json.isPlain name && value.isPlain && rest.isPlain

/-- The value of the first member with the name `key`. -/
def Members.find? (key : List UInt8) : Members → Option Value
  | .nil => none
  | .cons _ name _ _ value _ rest => if decoded name = key then some value else rest.find? key

/-! ## The bytes of a text -/

/-- A byte that stands for itself in a string. -/
def PlainByte (b : UInt8) : Prop := 0x20 ≤ b ∧ b ≠ 0x22 ∧ b ≠ 0x5C

theorem plainByte_of_high {n : Nat} (hlow : 0x80 ≤ n) (hhigh : n < 256) :
    PlainByte (UInt8.ofNat n) := by
  have hn : (UInt8.ofNat n).toNat = n := by
    rw [UInt8.toNat_ofNat']
    exact Nat.mod_eq_of_lt hhigh
  refine ⟨?_, ?_, ?_⟩
  · rw [UInt8.le_iff_toNat_le, hn]
    exact Nat.le_trans (by decide) hlow
  · intro hb
    rw [hb] at hn
    exact absurd (hn ▸ hlow) (by decide)
  · intro hb
    rw [hb] at hn
    exact absurd (hn ▸ hlow) (by decide)

/-- In UTF-8 a character beyond ASCII has no ASCII byte. -/
theorem utf8_plainByte {c : Char} (h : Unescaped c) :
    ∀ b ∈ String.utf8EncodeChar c, PlainByte b := by
  obtain ⟨hlow, hquote, hback⟩ := h
  have hlow : 0x20 ≤ c.val.toNat := UInt32.le_iff_toNat_le.1 hlow
  have hquote : c.val.toNat ≠ 0x22 := fun heq => hquote (UInt32.toNat_inj.1 heq)
  have hback : c.val.toNat ≠ 0x5C := fun heq => hback (UInt32.toNat_inj.1 heq)
  unfold String.utf8EncodeChar
  dsimp only
  split_ifs with h₁ h₂ h₃
  · intro b hb
    obtain rfl := List.mem_singleton.1 hb
    have hn : (UInt8.ofNat c.val.toNat).toNat = c.val.toNat := by
      rw [UInt8.toNat_ofNat']
      omega
    refine ⟨?_, ?_, ?_⟩
    · rw [UInt8.le_iff_toNat_le, hn]
      exact hlow
    · intro heq
      rw [heq] at hn
      exact hquote hn.symm
    · intro heq
      rw [heq] at hn
      exact hback hn.symm
  all_goals
    intro b hb
    simp only [List.mem_cons, List.not_mem_nil, or_false] at hb
    rcases hb with rfl | rfl | rfl | rfl <;> exact plainByte_of_high (by omega) (by omega)

theorem plain_hexDigit (d : HexDigit) : PlainByte d.byte := by
  obtain ⟨value, upper⟩ := d
  revert value upper
  unfold PlainByte HexDigit.byte
  decide

theorem contentBytes_cons (item : StringItem) (items : List StringItem) :
    contentBytes (item :: items) = item.bytes ++ contentBytes items := rfl

theorem plain_contentBytes {items : List StringItem} (h : isPlain items = true) :
    ∀ b ∈ contentBytes items, PlainByte b := by
  intro b hb
  obtain ⟨item, hitem, hb⟩ := List.mem_flatMap.1 hb
  have hchar := List.all_eq_true.1 h item hitem
  cases item with
  | char c hc => exact utf8_plainByte hc b hb
  | escape e => simp at hchar
  | unicode d₁ d₂ d₃ d₄ => simp at hchar

/-- A string without escapes stands for its content. -/
theorem decoded_of_plain {items : List StringItem} (h : isPlain items = true) :
    decoded items = contentBytes items := by
  induction items with
  | nil => rfl
  | cons item items ih =>
    have hall := List.all_eq_true.1 h
    have hrest : isPlain items = true :=
      List.all_eq_true.2 fun i hi => hall i (List.mem_cons_of_mem _ hi)
    have hchar := hall item List.mem_cons_self
    cases item with
    | char c hc =>
      rw [decoded, ih hrest]
      rfl
    | escape e => simp at hchar
    | unicode d₁ d₂ d₃ d₄ => simp at hchar

/-- The first escape of a string is its first backslash. -/
theorem exists_backslash {items : List StringItem} (h : isPlain items = false) :
    ∃ before after, contentBytes items = before ++ 0x5C :: after ∧ ∀ b ∈ before, PlainByte b := by
  induction items with
  | nil => simp [isPlain] at h
  | cons item items ih =>
    cases item with
    | char c hc =>
      have hrest : isPlain items = false := by simpa [isPlain] using h
      obtain ⟨before, after, hcontent, hbefore⟩ := ih hrest
      refine ⟨String.utf8EncodeChar c ++ before, after, ?_, ?_⟩
      · rw [contentBytes_cons, hcontent, List.append_assoc]
        rfl
      · intro b hb
        rcases List.mem_append.1 hb with hchar | hb
        · exact utf8_plainByte hc b hchar
        · exact hbefore b hb
    | escape e => exact ⟨[], _, rfl, fun b hb => absurd hb List.not_mem_nil⟩
    | unicode d₁ d₂ d₃ d₄ => exact ⟨[], _, rfl, fun b hb => absurd hb List.not_mem_nil⟩

/-- An object starts with a brace, and a quote or another brace follows. -/
theorem second_byte_of_isObject {b : UInt8} {bs : List UInt8} (h : IsObject (0x7B :: b :: bs)) :
    b ∈ [0x20, 0x09, 0x0A, 0x0D, 0x22, 0x7D] := by
  obtain ⟨leading, ws, members, trailing, htext⟩ := h
  have hspace : ∀ s : Space, s.byte ∈ [0x20, 0x09, 0x0A, 0x0D, 0x22, 0x7D] := by
    intro s
    cases s <;> decide
  cases leading with
  | cons s leading =>
    have hbrace : 0x7B = s.byte := (List.cons.inj htext).1
    cases s <;> exact absurd hbrace (by decide)
  | nil =>
    have hrest : b :: bs = wsBytes ws ++ (members.bytes ++ ([0x7D] ++ wsBytes trailing)) := by
      simpa [objectText, Value.bytes, wsBytes] using htext
    cases ws with
    | cons s ws =>
      rw [(List.cons.inj hrest).1]
      exact hspace s
    | nil =>
      cases members with
      | nil =>
        rw [(List.cons.inj hrest).1]
        decide
      | cons before name afterName beforeValue value after rest =>
        cases before with
        | cons s before =>
          rw [Members.bytes] at hrest
          rw [(List.cons.inj hrest).1]
          exact hspace s
        | nil =>
          rw [Members.bytes] at hrest
          rw [(List.cons.inj hrest).1]
          decide

/-- A byte of a number or of a literal name. -/
def BareByte (b : UInt8) : Prop :=
  (0x30 ≤ b.toNat ∧ b.toNat ≤ 0x39) ∨ (0x41 ≤ b.toNat ∧ b.toNat ≤ 0x5A) ∨
    (0x61 ≤ b.toNat ∧ b.toNat ≤ 0x7A) ∨ b.toNat = 0x2B ∨ b.toNat = 0x2D ∨ b.toNat = 0x2E

theorem digitByte_toNat (d : Fin 10) : (digitByte d).toNat = 0x30 + d.val := by
  unfold digitByte
  rw [Nat.toUInt8_eq, UInt8.toNat_ofNat']
  omega

theorem bare_digitByte (d : Fin 10) : BareByte (digitByte d) := by
  have hd := digitByte_toNat d
  exact Or.inl ⟨by omega, by omega⟩

theorem bare_digits (ds : List (Fin 10)) : ∀ b ∈ ds.map digitByte, BareByte b := by
  intro b hb
  obtain ⟨d, -, rfl⟩ := List.mem_map.1 hb
  exact bare_digitByte d

theorem bare_exponent (e : Exponent) : ∀ b ∈ e.bytes, BareByte b := by
  intro b hb
  rcases List.mem_cons.1 hb with rfl | hb
  · cases e.upper
    · exact Or.inr (Or.inr (Or.inl (by decide)))
    · exact Or.inr (Or.inl (by decide))
  · rcases List.mem_append.1 hb with hsign | hdigits
    · unfold Exponent.sign at hsign
      split at hsign
      · exact absurd hsign List.not_mem_nil
      · rw [List.mem_singleton.1 hsign]
        exact Or.inr (Or.inr (Or.inr (Or.inl rfl)))
      · rw [List.mem_singleton.1 hsign]
        exact Or.inr (Or.inr (Or.inr (Or.inr (Or.inl rfl))))
    · exact bare_digits _ b hdigits

theorem bare_tail (n : Number) : ∀ b ∈ n.tail, BareByte b := by
  have hpoint : BareByte 0x2E := Or.inr (Or.inr (Or.inr (Or.inr (Or.inr rfl))))
  intro b hb
  unfold Number.tail at hb
  split at hb
  · exact absurd hb List.not_mem_nil
  · exact bare_exponent _ b hb
  · rcases List.mem_cons.1 hb with rfl | hb
    · exact hpoint
    · exact bare_digits _ b hb
  · rcases List.mem_cons.1 hb with rfl | hb
    · exact hpoint
    · rcases List.mem_append.1 hb with hb | hb
      · exact bare_digits _ b hb
      · exact bare_exponent _ b hb

theorem bare_number (n : Number) : ∀ b ∈ n.bytes, BareByte b := by
  intro b hb
  rcases List.mem_append.1 hb with hb | hb
  · rcases List.mem_append.1 hb with hb | hb
    · split at hb
      · rw [List.mem_singleton.1 hb]
        exact Or.inr (Or.inr (Or.inr (Or.inr (Or.inl rfl))))
      · exact absurd hb List.not_mem_nil
    · exact bare_digits _ b hb
  · exact bare_tail n b hb

theorem number_ne_nil (n : Number) : n.bytes ≠ [] := by
  unfold Number.bytes
  cases n.int <;> simp [IntPart.digits]

theorem number_head (n : Number) : ∃ b bs, n.bytes = b :: bs ∧ BareByte b := by
  obtain ⟨b, bs, hbytes⟩ := List.exists_cons_of_ne_nil (number_ne_nil n)
  have hmem : b ∈ n.bytes := by
    rw [hbytes]
    exact List.mem_cons_self
  exact ⟨b, bs, hbytes, bare_number n b hmem⟩

theorem bare_null : ∀ b ∈ nullBytes, BareByte b := by
  simp [nullBytes, BareByte]

theorem bare_true : ∀ b ∈ trueBytes, BareByte b := by
  simp [trueBytes, BareByte]

theorem bare_false : ∀ b ∈ falseBytes, BareByte b := by
  simp [falseBytes, BareByte]

end Json
