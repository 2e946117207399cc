import SwbtDaemon.Lib.CString
import SwbtDaemon.Lib.Json

/-!
# Texts with nested braces

The texts that a scanner accepts which knows nothing of JSON but its quotes, its braces and its
commas: strings are closed, braces nest, no comma follows an opening brace or another comma and
none precedes a closing brace. Everything else may be any text. The JSON objects are among them.
-/

namespace Braces

open CString Json

/-- The text between two quotes: a backslash takes the byte after it along. -/
inductive Content : List UInt8 → Prop where
  | nil : Content []
  | plain {b : UInt8} {bs : List UInt8} (hquote : b ≠ 0x22) (hback : b ≠ 0x5C)
      (rest : Content bs) : Content (b :: bs)
  | escape (b : UInt8) {bs : List UInt8} (rest : Content bs) : Content (0x5C :: b :: bs)

/-- A byte that is neither white space nor one that the scanner knows. -/
structure Other (b : UInt8) : Prop where
  notQuote : b ≠ 0x22
  notOpen : b ≠ 0x7B
  notClose : b ≠ 0x7D
  notComma : b ≠ 0x2C
  notSpace : isspace b = false

/-- `Body last text last'`: `text` may stand between braces after the byte `last` and ends with the
byte `last'`, where white space and the inside of strings do not count. -/
inductive Body : UInt8 → List UInt8 → UInt8 → Prop where
  | nil {last : UInt8} : Body last [] last
  | space {last last' b : UInt8} {bs : List UInt8} (h : isspace b = true)
      (rest : Body last bs last') : Body last (b :: bs) last'
  | other {last last' b : UInt8} {bs : List UInt8} (h : Other b) (rest : Body b bs last') :
      Body last (b :: bs) last'
  | comma {last last' : UInt8} {bs : List UInt8} (hcomma : last ≠ 0x2C) (hopen : last ≠ 0x7B)
      (rest : Body 0x2C bs last') : Body last (0x2C :: bs) last'
  | string {last last' : UInt8} {content bs : List UInt8} (h : Content content)
      (rest : Body 0x22 bs last') : Body last (0x22 :: (content ++ 0x22 :: bs)) last'
  | group {last last' inner : UInt8} {content bs : List UInt8} (h : Body 0x7B content inner)
      (hcomma : inner ≠ 0x2C) (rest : Body 0x7D bs last') :
      Body last (0x7B :: (content ++ 0x7D :: bs)) last'

/-- `text` is one pair of braces with what stands between them. -/
def Braced (text : List UInt8) : Prop :=
  ∃ content last, text = 0x7B :: (content ++ [0x7D]) ∧ Body 0x7B content last ∧ last ≠ 0x2C

theorem Body.append {a b c : UInt8} {xs ys : List UInt8} (h : Body a xs b) (h' : Body b ys c) :
    Body a (xs ++ ys) c := by
  induction h with
  | nil => exact h'
  | space hspace _ ih => exact .space hspace (ih h')
  | other hother _ ih => exact .other hother (ih h')
  | comma hcomma hopen _ ih => exact .comma hcomma hopen (ih h')
  | string hcontent _ ih =>
    rw [List.cons_append, List.append_assoc]
    exact .string hcontent (ih h')
  | group hbody hcomma _ _ ih =>
    rw [List.cons_append, List.append_assoc]
    exact .group hbody hcomma (ih h')

theorem Content.append {xs ys : List UInt8} (h : Content xs) (h' : Content ys) :
    Content (xs ++ ys) := by
  induction h with
  | nil => exact h'
  | plain hquote hback _ ih => exact .plain hquote hback ih
  | escape b _ ih => exact .escape b ih

/-! ## JSON texts -/

theorem content_of_plain {bs : List UInt8} (h : ∀ b ∈ bs, PlainByte b) : Content bs := by
  induction bs with
  | nil => exact .nil
  | cons b bs ih =>
    obtain ⟨-, hquote, hback⟩ := h b List.mem_cons_self
    exact .plain hquote hback (ih fun b hb => h b (List.mem_cons_of_mem _ hb))

theorem content_item (item : StringItem) : Content item.bytes := by
  cases item with
  | char c hc => exact content_of_plain (utf8_plainByte hc)
  | escape e => exact .escape e.letter .nil
  | unicode d₁ d₂ d₃ d₄ =>
    refine .escape 0x75 (content_of_plain ?_)
    intro b hb
    simp only [List.mem_cons, List.not_mem_nil, or_false] at hb
    rcases hb with rfl | rfl | rfl | rfl <;> exact plain_hexDigit _

theorem content_contentBytes (items : List StringItem) : Content (contentBytes items) := by
  induction items with
  | nil => exact .nil
  | cons item items ih => exact (content_item item).append ih

theorem isspace_byte (s : Space) : isspace s.byte = true := by
  cases s <;> decide

theorem isspace_ws (ws : List Space) : ∀ b ∈ wsBytes ws, isspace b = true := by
  intro b hb
  obtain ⟨s, -, rfl⟩ := List.mem_map.1 hb
  exact isspace_byte s

theorem bare_ne {b c : UInt8} (h : BareByte b) (hc : ¬BareByte c) : b ≠ c := by
  rintro rfl
  exact hc h

theorem isspace_bare {b : UInt8} (h : BareByte b) : isspace b = false := by
  simp only [isspace, UInt8.le_iff_toNat_le, Bool.or_eq_false_iff, Bool.and_eq_false_iff,
    decide_eq_false_iff_not, beq_eq_false_iff_ne]
  have h09 : (0x09 : UInt8).toNat = 0x09 := rfl
  have h0D : (0x0D : UInt8).toNat = 0x0D := rfl
  refine ⟨bare_ne h (by simp [BareByte]), Or.inr ?_⟩
  unfold BareByte at h
  omega

theorem other_bare {b : UInt8} (h : BareByte b) : Other b := by
  refine ⟨?_, ?_, ?_, ?_, isspace_bare h⟩ <;> exact bare_ne h (by simp [BareByte])

theorem body_ws (ws : List Space) (last : UInt8) : Body last (wsBytes ws) last := by
  induction ws with
  | nil => exact .nil
  | cons s ws ih => exact .space (isspace_byte s) ih

theorem body_string (items : List StringItem) (last : UInt8) :
    Body last (stringBytes items) 0x22 := by
  have h : Body last (0x22 :: (contentBytes items ++ [0x22])) 0x22 :=
    .string (content_contentBytes items) .nil
  exact h

/-- `text` may stand after any byte, and a comma may follow it. -/
def Complete (text : List UInt8) : Prop :=
  ∀ last, ∃ last', Body last text last' ∧ last' ≠ 0x2C ∧ last' ≠ 0x7B

theorem complete_bare {bs : List UInt8} (hne : bs ≠ []) (h : ∀ b ∈ bs, BareByte b) :
    Complete bs := by
  induction bs with
  | nil => exact absurd rfl hne
  | cons b bs ih =>
    intro last
    have hbare := h b List.mem_cons_self
    by_cases hnil : bs = []
    · subst hnil
      exact ⟨b, .other (other_bare hbare) .nil, (other_bare hbare).notComma,
        (other_bare hbare).notOpen⟩
    · obtain ⟨last', hbody, hlast⟩ := ih hnil (fun b hb => h b (List.mem_cons_of_mem _ hb)) b
      exact ⟨last', .other (other_bare hbare) hbody, hlast⟩

theorem other_bracket : Other 0x5B ∧ Other 0x5D ∧ Other 0x3A := by
  refine ⟨⟨?_, ?_, ?_, ?_, ?_⟩, ⟨?_, ?_, ?_, ?_, ?_⟩, ⟨?_, ?_, ?_, ?_, ?_⟩⟩ <;> decide

mutual

/-- The text of a JSON value may stand after any byte. -/
theorem complete_value (v : Value) : Complete v.bytes := by
  cases v with
  | null => exact complete_bare (by decide) bare_null
  | true => exact complete_bare (by decide) bare_true
  | false => exact complete_bare (by decide) bare_false
  | number n => exact complete_bare (number_ne_nil n) (bare_number n)
  | string items =>
    intro last
    exact ⟨0x22, body_string items last, by decide, by decide⟩
  | array ws elems =>
    intro last
    obtain ⟨hopen, hclose, -⟩ := other_bracket
    obtain ⟨last', helems⟩ := body_elems elems 0x5B
    refine ⟨0x5D, ?_, by decide, by decide⟩
    rw [Value.bytes, List.append_assoc, List.append_assoc]
    exact .other hopen ((body_ws ws _).append (helems.append (.other hclose .nil)))
  | object ws members =>
    intro last
    obtain ⟨last', hmembers, hcomma⟩ := body_members members 0x7B (fun _ => by decide)
    refine ⟨0x7D, ?_, by decide, by decide⟩
    have hgroup : Body last (0x7B :: ((wsBytes ws ++ members.bytes) ++ [0x7D])) 0x7D :=
      .group ((body_ws ws _).append hmembers) hcomma .nil
    exact hgroup

theorem body_elems (elems : Elems) (last : UInt8) : ∃ last', Body last elems.bytes last' := by
  cases elems with
  | nil => exact ⟨last, .nil⟩
  | cons before value after rest =>
    obtain ⟨last₁, hvalue, hcomma, hopen⟩ := complete_value value last
    have hfirst : Body last (wsBytes before ++ value.bytes ++ wsBytes after) last₁ :=
      ((body_ws before last).append hvalue).append (body_ws after last₁)
    cases rest with
    | nil =>
      refine ⟨last₁, ?_⟩
      rw [Elems.bytes, Elems.bytes, Elems.comma, List.append_nil, List.append_nil]
      exact hfirst
    | cons before' value' after' rest' =>
      obtain ⟨last', hrest⟩ := body_elems (.cons before' value' after' rest') 0x2C
      refine ⟨last', ?_⟩
      rw [Elems.bytes, List.append_assoc]
      exact hfirst.append (.comma hcomma hopen hrest)

/-- After members there is no comma left over. -/
theorem body_members (members : Members) (last : UInt8) (h : members = .nil → last ≠ 0x2C) :
    ∃ last', Body last members.bytes last' ∧ last' ≠ 0x2C := by
  cases members with
  | nil => exact ⟨last, .nil, h rfl⟩
  | cons before name afterName beforeValue value after rest =>
    obtain ⟨-, -, hcolon⟩ := other_bracket
    obtain ⟨last₁, hvalue, hcomma, hopen⟩ := complete_value value 0x3A
    have hname : Body last (wsBytes before ++ stringBytes name ++ wsBytes afterName) 0x22 :=
      ((body_ws before last).append (body_string name last)).append (body_ws afterName _)
    have hfirst : Body last (wsBytes before ++ stringBytes name ++ wsBytes afterName ++ [0x3A] ++
        wsBytes beforeValue ++ value.bytes ++ wsBytes after) last₁ :=
      (((hname.append (.other hcolon .nil)).append (body_ws beforeValue _)).append hvalue).append
        (body_ws after _)
    cases rest with
    | nil =>
      refine ⟨last₁, ?_, hcomma⟩
      rw [Members.bytes, Members.bytes, Members.comma, List.append_nil, List.append_nil]
      exact hfirst
    | cons before' name' afterName' beforeValue' value' after' rest' =>
      obtain ⟨last', hrest, hlast⟩ := body_members
        (.cons before' name' afterName' beforeValue' value' after' rest') 0x2C
        (fun hnil => Members.noConfusion hnil)
      refine ⟨last', ?_, hlast⟩
      rw [Members.bytes, List.append_assoc]
      exact hfirst.append (.comma hcomma hopen hrest)

end

/-- JSON objects are among the braced texts. -/
theorem braced_object (ws : List Space) (members : Members) :
    Braced (Value.object ws members).bytes := by
  obtain ⟨last, hmembers, hcomma⟩ := body_members members 0x7B (fun _ => by decide)
  exact ⟨wsBytes ws ++ members.bytes, last, by simp [Value.bytes],
    (body_ws ws _).append hmembers, hcomma⟩

end Braces
