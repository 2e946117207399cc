import SwbtDaemon.Ipc.Json
import SwbtDaemon.Lib.Braces
import SwbtDaemon.Lib.Numerals

/-!
# The fields of a raw text

What can be read in a text that need not be JSON. A field stands between the outer braces: its name
is a string without escapes, with a colon after it. Other strings, other bytes and whole groups of
braces may stand before it in any order.
-/

namespace Swbt.Ipc

open CString Json Braces

/-- White space. -/
def Spaces (bs : List UInt8) : Prop := ∀ b ∈ bs, isspace b = true

/-- A byte outside of strings that the scanners step over: neither a quote nor a brace. -/
def Neutral (b : UInt8) : Prop := b ≠ 0x7B ∧ b ≠ 0x7D ∧ b ≠ 0x22

/-- The text between two quotes has no escape. -/
def Unescaped (text : List UInt8) : Prop := ∀ b ∈ text, b ≠ 0x22 ∧ b ≠ 0x5C

/-- After white space comes a colon. -/
def ColonFollows (text : List UInt8) : Prop :=
  ∃ ws after, Spaces ws ∧ text = ws ++ 0x3A :: after

/-- A text whose strings are closed and whose braces match. -/
inductive Balanced : List UInt8 → Prop where
  | nil : Balanced []
  | byte {b : UInt8} {bs : List UInt8} (h : Neutral b) (rest : Balanced bs) : Balanced (b :: bs)
  | string {content bs : List UInt8} (h : Content content) (rest : Balanced bs) :
      Balanced (0x22 :: (content ++ 0x22 :: bs))
  | group {inner bs : List UInt8} (h : Balanced inner) (rest : Balanced bs) :
      Balanced (0x7B :: (inner ++ 0x7D :: bs))

/-- `MemberText key text value`: between the outer braces stands `text`, and `value` is what
follows the first name `key` in it. No escape stands outside of braces before it. -/
inductive MemberText (key : List UInt8) : List UInt8 → List UInt8 → Prop where
  | found {before after value : List UInt8} (hbefore : Spaces before) (hafter : Spaces after)
      (hvalue : ∀ b ∈ value.head?, isspace b = false) :
      MemberText key (0x22 :: (key ++ 0x22 :: (before ++ 0x3A :: (after ++ value)))) value
  | byte {b : UInt8} {text value : List UInt8} (h : Neutral b)
      (rest : MemberText key text value) : MemberText key (b :: text) value
  | string {content text value : List UInt8} (h : Unescaped content)
      (hother : content = key → ¬ColonFollows text) (rest : MemberText key text value) :
      MemberText key (0x22 :: (content ++ 0x22 :: text)) value
  | group {inner text value : List UInt8} (h : Balanced inner)
      (rest : MemberText key text value) :
      MemberText key (0x7B :: (inner ++ 0x7D :: text)) value

/-- `value` is what follows the name `key` in a text that starts with a brace. -/
def FieldText (line key value : List UInt8) : Prop :=
  ∃ ws text, Spaces ws ∧ line = ws ++ 0x7B :: text ∧ MemberText key text value

/-! ## Values -/

/-- After white space the value has ended: at a comma, at a closing bracket or with the text. -/
def ValueEnds (text : List UInt8) : Prop :=
  ∃ ws rest, Spaces ws ∧ text = ws ++ rest ∧ ∀ b ∈ rest.head?, b = 0x2C ∨ b = 0x7D ∨ b = 0x5D

/-- `value` starts with the string `text`, which fits into a buffer of `jsonStringMax` bytes. -/
def StringText (value text : List UInt8) : Prop :=
  ∃ rest, value = 0x22 :: (text ++ 0x22 :: rest) ∧ (∀ b ∈ text, PlainByte b) ∧
    text.length < jsonStringMax ∧ ValueEnds rest

/-- `value` starts with a decimal numeral of the 64-bit integer `n`. -/
def IntegerText (value : List UInt8) (n : Int) : Prop :=
  ∃ ws sign digits rest, value = ws ++ (Sign.text sign ++ (digits ++ rest)) ∧ Spaces ws ∧
    Digits 10 digits ∧ digits ≠ [] ∧ n = sign.apply (number 10 digits) ∧ -2 ^ 63 ≤ n ∧
    n ≤ 2 ^ 63 - 1 ∧ ValueEnds rest

/-- The string `text` is spelled behind the name `key`. -/
def SpellsString (line key text : List UInt8) : Prop :=
  ∃ value, FieldText line key value ∧ StringText value text

/-- The integer `n` is spelled behind the name `key`. -/
def SpellsInteger (line key : List UInt8) (n : Int) : Prop :=
  ∃ value, FieldText line key value ∧ IntegerText value n

/-- There is no name `key`. -/
def LacksField (line key : List UInt8) : Prop := ∀ value, ¬FieldText line key value

/-! ## Requests -/

/-- The fields of a state are spelled behind its brace. -/
structure SpellsState (text : List UInt8) : Prop where
  buttons : ∃ n, SpellsInteger text (bytes "buttons") n ∧ 0 ≤ n ∧ n ≤ 0xFFFFFFFF ∧
    n.toNat.toUInt32 &&& ~~~definedButtonMask = 0
  sticks : ∀ key ∈ [bytes "lx", bytes "ly", bytes "rx", bytes "ry"],
    ∃ n, SpellsInteger text key n ∧ 0 ≤ n ∧ n ≤ stickMax
  motion : ∀ key ∈ [bytes "accel_x", bytes "accel_y", bytes "accel_z", bytes "gyro_x",
      bytes "gyro_y", bytes "gyro_z"],
    ∃ n, SpellsInteger text key n ∧ -32768 ≤ n ∧ n ≤ 32767

/-- A state and, unless there is none, a sequence that is not negative. -/
structure SpellsUpdate (line : List UInt8) : Prop where
  state : ∃ text, FieldText line (bytes "state") (0x7B :: text) ∧ SpellsState (0x7B :: text)
  sequence : LacksField line (bytes "seq") ∨ ∃ n, SpellsInteger line (bytes "seq") n ∧ 0 ≤ n

/-- A request of the protocol is spelled between whatever else stands in the text. -/
structure SpellsRequest (line : List UInt8) : Prop where
  requestId : LacksField line (bytes "request_id") ∨
    ∃ text, SpellsString line (bytes "request_id") text
  version : SpellsInteger line (bytes "v") 1
  type : (∃ type ∈ [bytes "hello", bytes "acquire", bytes "release", bytes "get_status"],
      SpellsString line (bytes "type") type) ∨
    SpellsString line (bytes "type") (bytes "set_state") ∧ SpellsUpdate line

end Swbt.Ipc
