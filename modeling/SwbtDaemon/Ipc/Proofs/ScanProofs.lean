import SwbtDaemon.Ipc.RawText
import SwbtDaemon.Ipc.Reference

/-!
# The scanners on JSON texts

What `findKeyValue` and `isCompleteObject` do on the text of a syntax tree. Neither of them knows
arrays, and the lookup takes every string at depth one for a possible name; the lemmas follow the
grammar and say where the scan stands after each part of a text.
-/

namespace Swbt.Ipc

open CString Json Braces Reference

/-! ## White space -/

theorem skipSpace_ws (ws : List Space) (cs : List UInt8) :
    skipSpace (wsBytes ws ++ cs) = skipSpace cs :=
  skipSpace_append (isspace_ws ws) cs

theorem neutral_space {b : UInt8} (h : isspace b = true) : Neutral b := by
  refine ⟨?_, ?_, ?_⟩ <;>
  · rintro rfl
    exact absurd h (by decide)

theorem neutral_ws (ws : List Space) : ∀ b ∈ wsBytes ws, Neutral b := by
  intro b hb
  exact neutral_space (isspace_ws ws b hb)

theorem neutral_bare {b : UInt8} (h : BareByte b) : Neutral b := by
  refine ⟨?_, ?_, ?_⟩ <;> exact bare_ne h (by simp [BareByte])

/-- The text of a value starts with a byte that is no white space. -/
theorem skipSpace_value (v : Value) (cs : List UInt8) :
    skipSpace (v.bytes ++ cs) = v.bytes ++ cs := by
  cases v with
  | null => exact skipSpace_cons (by decide) _
  | true => exact skipSpace_cons (by decide) _
  | false => exact skipSpace_cons (by decide) _
  | number n =>
    obtain ⟨b, bs, hbytes, hbare⟩ := number_head n
    rw [Value.bytes, hbytes]
    exact skipSpace_cons (isspace_bare hbare) _
  | string items => exact skipSpace_cons (by decide) _
  | array ws elems =>
    rw [Value.bytes]
    exact skipSpace_cons (by decide) _
  | object ws members =>
    rw [Value.bytes]
    exact skipSpace_cons (by decide) _

/-! ## The lookup outside of strings and inside of them -/

/-- The lookup outside of strings at depth `d`. -/
def FindScan.outside (d : Nat) : FindScan := ⟨false, false, true, d, 0⟩

/-- The lookup inside of a string at depth `d`. -/
def FindScan.inside (d : Nat) : FindScan := ⟨true, false, true, d, 0⟩

section Lookup

variable (key : List UInt8)

theorem findLoop_neutral {bs : List UInt8} (h : ∀ b ∈ bs, Neutral b) (d : Nat)
    (cs : List UInt8) :
    findLoop key (.outside d) (bs ++ cs) = findLoop key (.outside d) cs := by
  induction bs with
  | nil => rfl
  | cons b bs ih =>
    obtain ⟨hopen, hclose, hquote⟩ := h b List.mem_cons_self
    have hrest := ih fun b hb => h b (List.mem_cons_of_mem _ hb)
    rw [List.cons_append, findLoop]
    simp only [FindScan.outside, Nat.lt_irrefl, gt_iff_lt, if_false, hopen, hclose, hquote,
      Bool.false_eq_true, ne_eq, not_false_eq_true, if_true]
    exact hrest

theorem findLoop_byte {b : UInt8} (h : Neutral b) (d : Nat) (cs : List UInt8) :
    findLoop key (.outside d) (b :: cs) = findLoop key (.outside d) cs := by
  have hbyte : ∀ b' ∈ [b], Neutral b' := by
    intro b' hb
    rw [List.mem_singleton.1 hb]
    exact h
  exact findLoop_neutral key hbyte d cs

theorem findLoop_ws (ws : List Space) (d : Nat) (cs : List UInt8) :
    findLoop key (.outside d) (wsBytes ws ++ cs) = findLoop key (.outside d) cs :=
  findLoop_neutral key (neutral_ws ws) d cs

theorem findLoop_open (d : Nat) (cs : List UInt8) :
    findLoop key (.outside d) (0x7B :: cs) = findLoop key (.outside (d + 1)) cs := rfl

theorem findLoop_close (d : Nat) (cs : List UInt8) :
    findLoop key (.outside (d + 2)) (0x7D :: cs) = findLoop key (.outside (d + 1)) cs := rfl

theorem findLoop_end (cs : List UInt8) : findLoop key (.outside 1) (0x7D :: cs) = none := rfl

theorem findLoop_plain {b : UInt8} (hquote : b ≠ 0x22) (hback : b ≠ 0x5C) (d : Nat)
    (cs : List UInt8) : findLoop key (.inside d) (b :: cs) = findLoop key (.inside d) cs := by
  rw [findLoop]
  simp only [FindScan.inside, Nat.lt_irrefl, gt_iff_lt, if_false, hquote, hback,
    Bool.false_eq_true, if_true]

theorem findLoop_escaped (d : Nat) (b : UInt8) (cs : List UInt8) :
    findLoop key (.inside d) (0x5C :: b :: cs) = findLoop key (.inside d) cs := rfl

/-- Past the content of a string the lookup stands behind its closing quote. -/
theorem findLoop_content {content : List UInt8} (h : Content content) (d : Nat)
    (cs : List UInt8) :
    findLoop key (.inside d) (content ++ 0x22 :: cs) = findLoop key (.outside d) cs := by
  induction h with
  | nil => rfl
  | plain hquote hback _ ih =>
    rw [List.cons_append, findLoop_plain key hquote hback]
    exact ih
  | escape b _ ih =>
    rw [List.cons_append, List.cons_append, findLoop_escaped]
    exact ih

/-- What stands in a nested object is stepped over, whatever its text. -/
theorem findLoop_balanced {bs : List UInt8} (h : Balanced bs) (d : Nat) (cs : List UInt8) :
    findLoop key (.outside (d + 2)) (bs ++ cs) = findLoop key (.outside (d + 2)) cs := by
  induction h generalizing d cs with
  | nil => rfl
  | byte hbyte _ ih => rw [List.cons_append, findLoop_byte key hbyte, ih]
  | @string content bs hcontent _ ih =>
    have hquote : findLoop key (.outside (d + 2)) (0x22 :: (content ++ 0x22 :: (bs ++ cs))) =
        findLoop key (.inside (d + 2)) (content ++ 0x22 :: (bs ++ cs)) := rfl
    rw [List.cons_append, List.append_assoc, List.cons_append, hquote,
      findLoop_content key hcontent, ih]
  | group _ _ ihInner ih =>
    rw [List.cons_append, List.append_assoc, List.cons_append, findLoop_open, ihInner (d + 1),
      findLoop_close, ih]

/-- The texts between the braces of the completeness check are balanced. -/
theorem balanced_of_body {last last' : UInt8} {bs : List UInt8} (h : Body last bs last') :
    Balanced bs := by
  induction h with
  | nil => exact .nil
  | space hspace _ ih => exact .byte (neutral_space hspace) ih
  | other hother _ ih => exact .byte ⟨hother.notOpen, hother.notClose, hother.notQuote⟩ ih
  | comma _ _ _ ih => exact .byte ⟨by decide, by decide, by decide⟩ ih
  | string hcontent _ ih => exact .string hcontent ih
  | group _ _ _ ihBody ih => exact .group ihBody ih

/-! ## Strings at depth one -/

theorem unescaped_of_plain {bs : List UInt8} (h : ∀ b ∈ bs, PlainByte b) : Unescaped bs :=
  fun b hb => (h b hb).2

theorem keyText_unescaped {bs : List UInt8} (h : Unescaped bs) {c : UInt8}
    (hc : c = 0x22 ∨ c = 0x5C) (cs : List UInt8) : keyText (bs ++ c :: cs) = bs := by
  unfold keyText
  rw [List.takeWhile_append_of_pos]
  · rw [List.takeWhile_cons_of_neg, List.append_nil]
    rcases hc with rfl | rfl <;> decide
  · intro b hb
    obtain ⟨hquote, hback⟩ := h b hb
    simp [hquote, hback]

/-- After a probed string that is not the key the loop jumps behind its closing quote. -/
theorem findLoop_skip (bs : List UInt8) (d : Nat) (cs : List UInt8) :
    findLoop key ⟨false, false, true, d, bs.length⟩ (bs ++ cs) =
      findLoop key (.outside d) cs := by
  induction bs with
  | nil => rfl
  | cons b bs ih => exact ih

/-- A text without escapes between quotes at depth one: it is the key when a colon follows, and it
is stepped over otherwise. -/
theorem findLoop_unescaped {text : List UInt8} (h : Unescaped text) (cs : List UInt8) :
    findLoop key (.outside 1) (0x22 :: (text ++ 0x22 :: cs)) =
      match skipSpace cs with
      | 0x3A :: after =>
        if text = key then some (skipSpace after) else findLoop key (.outside 1) cs
      | _ => findLoop key (.outside 1) cs := by
  have hname : keyText (text ++ 0x22 :: cs) = text := keyText_unescaped h (Or.inl rfl) cs
  have hskip : findLoop key ⟨false, false, true, 1, text.length + 1⟩ (text ++ 0x22 :: cs) =
      findLoop key (.outside 1) cs := by
    have h := findLoop_skip key (text ++ [0x22]) 1 cs
    rw [List.length_append, List.append_assoc] at h
    exact h
  rw [findLoop]
  simp only [FindScan.outside, hname, List.drop_left]
  rw [hskip]
  rfl

theorem findLoop_plain_string {items : List StringItem} (h : Json.isPlain items = true)
    (cs : List UInt8) :
    findLoop key (.outside 1) (stringBytes items ++ cs) =
      match skipSpace cs with
      | 0x3A :: after =>
        if decoded items = key then some (skipSpace after) else findLoop key (.outside 1) cs
      | _ => findLoop key (.outside 1) cs := by
  have htext : stringBytes items ++ cs = 0x22 :: (contentBytes items ++ 0x22 :: cs) := by
    simp [stringBytes]
  rw [htext, decoded_of_plain h]
  exact findLoop_unescaped key (unescaped_of_plain (plain_contentBytes h)) cs

/-- The first escape of a string at depth one ends the lookup. -/
theorem findLoop_escaped_string {items : List StringItem} (h : Json.isPlain items = false)
    (cs : List UInt8) : findLoop key (.outside 1) (stringBytes items ++ cs) = none := by
  obtain ⟨before, after, hcontent, hbefore⟩ := exists_backslash h
  have htext : stringBytes items ++ cs = 0x22 :: (before ++ 0x5C :: (after ++ 0x22 :: cs)) := by
    simp [stringBytes, hcontent]
  rw [htext, findLoop]
  simp only [FindScan.outside, keyText_unescaped (unescaped_of_plain hbefore) (Or.inr rfl),
    List.drop_left]
  rfl

/-! ## Values and members at depth one -/

/-- No colon follows, so a string before it is no name. -/
def NoColon (cs : List UInt8) : Prop := ∀ after, skipSpace cs ≠ 0x3A :: after

theorem noColon_ws {ws : List Space} {c : UInt8} {cs : List UInt8} (hspace : isspace c = false)
    (hcolon : c ≠ 0x3A) : NoColon (wsBytes ws ++ c :: cs) := by
  intro after h
  rw [skipSpace_ws, skipSpace_cons hspace] at h
  exact hcolon (List.cons.inj h).1

theorem findLoop_string {items : List StringItem} {cs : List UInt8} (h : NoColon cs) :
    findLoop key (.outside 1) (stringBytes items ++ cs) =
      if Json.isPlain items then findLoop key (.outside 1) cs else none := by
  cases hplain : Json.isPlain items with
  | false => rw [findLoop_escaped_string key hplain]; rfl
  | true =>
    rw [findLoop_plain_string key hplain]
    split
    · next after hafter => exact absurd hafter (h after)
    · rfl

theorem findLoop_name {items : List StringItem} (h : Json.isPlain items = true)
    (ws : List Space) (cs : List UInt8) :
    findLoop key (.outside 1) (stringBytes items ++ (wsBytes ws ++ 0x3A :: cs)) =
      if decoded items = key then some (skipSpace cs) else findLoop key (.outside 1) cs := by
  have hskip : findLoop key (.outside 1) (wsBytes ws ++ 0x3A :: cs) =
      findLoop key (.outside 1) cs := by
    rw [findLoop_ws, findLoop_byte key ⟨by decide, by decide, by decide⟩]
  rw [findLoop_plain_string key h, skipSpace_ws, skipSpace_cons (by decide), hskip]
  rfl

mutual

/-- A value at depth one is stepped over unless it has an escape outside of its objects. -/
theorem findLoop_value (v : Value) (cs : List UInt8) (h : NoColon cs) :
    findLoop key (.outside 1) (v.bytes ++ cs) =
      if v.isPlain then findLoop key (.outside 1) cs else none := by
  cases v with
  | null => exact findLoop_neutral key (fun b hb => neutral_bare (bare_null b hb)) _ cs
  | true => exact findLoop_neutral key (fun b hb => neutral_bare (bare_true b hb)) _ cs
  | false => exact findLoop_neutral key (fun b hb => neutral_bare (bare_false b hb)) _ cs
  | number n => exact findLoop_neutral key (fun b hb => neutral_bare (bare_number n b hb)) _ cs
  | string items => exact findLoop_string key h
  | array ws elems =>
    simp only [Value.bytes, List.append_assoc, List.cons_append, List.nil_append]
    rw [findLoop_byte key ⟨by decide, by decide, by decide⟩, findLoop_ws,
      findLoop_elems elems cs, Value.isPlain]
  | object ws members =>
    simp only [Value.bytes, List.append_assoc, List.cons_append, List.nil_append]
    obtain ⟨last, hbody, -⟩ := body_members members 0x7B (fun _ => by decide)
    rw [findLoop_open, findLoop_ws, findLoop_balanced key (balanced_of_body hbody) 0,
      findLoop_close]
    rfl

theorem findLoop_elems (elems : Elems) (cs : List UInt8) :
    findLoop key (.outside 1) (elems.bytes ++ 0x5D :: cs) =
      if elems.isPlain then findLoop key (.outside 1) cs else none := by
  cases elems with
  | nil => exact findLoop_byte key ⟨by decide, by decide, by decide⟩ 1 cs
  | cons before value after rest =>
    simp only [Elems.bytes, List.append_assoc]
    have hcomma : ∀ b ∈ rest.comma, Neutral b := by
      cases rest <;> simp [Elems.comma, Neutral]
    have hcolon : NoColon (wsBytes after ++ (rest.comma ++ (rest.bytes ++ 0x5D :: cs))) := by
      cases rest with
      | nil => exact noColon_ws (by decide) (by decide)
      | cons => exact noColon_ws (by decide) (by decide)
    rw [findLoop_ws, findLoop_value value _ hcolon, Elems.isPlain]
    cases value.isPlain with
    | false => rfl
    | true =>
      rw [findLoop_ws, findLoop_neutral key hcomma, Bool.true_and]
      exact findLoop_elems rest cs

end

/-- What follows the value of a member: a comma or the closing brace. -/
def Follows (after : List UInt8) : Prop :=
  ∃ cs, skipSpace after = 0x2C :: cs ∨ skipSpace after = 0x7D :: cs

/-- The lookup finds a text that starts with `value`. -/
def FindsValue (found : Option (List UInt8)) : Option Value → Prop
  | none => found = none
  | some value => ∃ after, found = some (value.bytes ++ after) ∧ Follows after

theorem follows_member (ws : List Space) (rest : Members) (cs : List UInt8) :
    Follows (wsBytes ws ++ (rest.comma ++ (rest.bytes ++ 0x7D :: cs))) := by
  cases rest with
  | nil =>
    refine ⟨cs, Or.inr ?_⟩
    rw [skipSpace_ws]
    exact skipSpace_cons (by decide) cs
  | cons before name afterName beforeValue value after rest =>
    refine ⟨(Members.cons before name afterName beforeValue value after rest).bytes ++ 0x7D :: cs,
      Or.inl ?_⟩
    rw [skipSpace_ws]
    exact skipSpace_cons (by decide) _

theorem noColon_of_follows {after : List UInt8} (h : Follows after) : NoColon after := by
  intro cs hcolon
  obtain ⟨t, ht | ht⟩ := h
  · rw [ht] at hcolon
    exact absurd (List.cons.inj hcolon).1 (by decide)
  · rw [ht] at hcolon
    exact absurd (List.cons.inj hcolon).1 (by decide)

theorem findLoop_members (members : Members) (cs : List UInt8) :
    FindsValue (findLoop key (.outside 1) (members.bytes ++ 0x7D :: cs))
      (scanMembers key members) := by
  match members with
  | .nil => exact findLoop_end key cs
  | .cons before name afterName beforeValue value after rest =>
    have hcomma : ∀ b ∈ rest.comma, Neutral b := by
      cases rest <;> simp [Members.comma, Neutral]
    have hfollows := follows_member after rest cs
    simp only [Members.bytes, List.append_assoc, List.cons_append, List.nil_append]
    rw [findLoop_ws, scanMembers]
    cases hplain : Json.isPlain name with
    | false =>
      rw [findLoop_escaped_string key hplain]
      rfl
    | true =>
      rw [findLoop_name key hplain, if_pos rfl]
      by_cases hkey : decoded name = key
      · rw [if_pos hkey, if_pos hkey, skipSpace_ws, skipSpace_value]
        exact ⟨_, rfl, hfollows⟩
      · rw [if_neg hkey, if_neg hkey, findLoop_ws,
          findLoop_value key value _ (noColon_of_follows hfollows)]
        cases value.isPlain with
        | false => rfl
        | true =>
          rw [if_pos rfl, if_pos rfl, findLoop_ws, findLoop_neutral key hcomma]
          exact findLoop_members rest cs

theorem findKeyValue_leading {ws : List UInt8} (h : Spaces ws) (cs : List UInt8) :
    findKeyValue (ws ++ cs) key = findKeyValue cs key := by
  unfold findKeyValue
  induction ws with
  | nil => rfl
  | cons b ws ih =>
    obtain ⟨hopen, hclose, hquote⟩ := neutral_space (h b List.mem_cons_self)
    rw [List.cons_append, findLoop]
    simp only [Nat.lt_irrefl, gt_iff_lt, if_false, hopen, hclose, hquote, Bool.false_eq_true,
      ne_eq, not_false_eq_true, if_true]
    exact ih fun b hb => h b (List.mem_cons_of_mem _ hb)

/-- Behind the first brace the lookup stands at depth one. -/
theorem findKeyValue_open (cs : List UInt8) :
    findKeyValue (0x7B :: cs) key = findLoop key (.outside 1) cs := rfl

/-- The lookup in the text of an object, whatever follows the object. -/
theorem findKeyValue_object (leading ws : List Space) (members : Members) (cs : List UInt8) :
    FindsValue (findKeyValue (wsBytes leading ++ ((Value.object ws members).bytes ++ cs)) key)
      (scanMembers key members) := by
  have hopen : findKeyValue ((Value.object ws members).bytes ++ cs) key =
      findLoop key (.outside 1) (members.bytes ++ 0x7D :: cs) := by
    simp only [Value.bytes, List.append_assoc, List.cons_append, List.nil_append]
    rw [findKeyValue_open, findLoop_ws]
  rw [findKeyValue_leading key (isspace_ws leading), hopen]
  exact findLoop_members key members cs

end Lookup

/-- Without escapes the lookup is the first member with the name. -/
theorem scanMembers_of_plain {key : List UInt8} {members : Members}
    (h : members.isPlain = true) : scanMembers key members = members.find? key := by
  match members with
  | .nil => rfl
  | .cons _ name _ _ value _ rest =>
    simp only [Members.isPlain, Bool.and_eq_true] at h
    obtain ⟨⟨hname, hvalue⟩, hrest⟩ := h
    rw [scanMembers, Members.find?, if_pos hname, if_pos hvalue, scanMembers_of_plain hrest]

theorem find_isPlain {key : List UInt8} {members : Members} {value : Value}
    (h : members.isPlain = true) (hfind : members.find? key = some value) :
    value.isPlain = true := by
  match members with
  | .nil => exact absurd hfind (by simp [Members.find?])
  | .cons _ name _ _ v _ rest =>
    simp only [Members.isPlain, Bool.and_eq_true] at h
    obtain ⟨⟨-, hvalue⟩, hrest⟩ := h
    rw [Members.find?] at hfind
    split at hfind
    · obtain rfl := Option.some.inj hfind
      exact hvalue
    · exact find_isPlain hrest hfind

end Swbt.Ipc
