import SwbtDaemon.Lib.Written

/-!
# Searching a text

`strstr`, and what a reader finds that looks for a member in a written object by its text alone. The
quotes around the name and around the value keep it from matching across members.
-/

namespace CString

/-- `strstr`: the text from the first occurrence of the pattern on. -/
def strstr (text pattern : List UInt8) : Option (List UInt8) :=
  if pattern.isPrefixOf text then some text
  else
    match text with
    | [] => none
    | _ :: rest => strstr rest pattern

/-- The pattern is found in the text. -/
def contains (text pattern : List UInt8) : Bool := (strstr text pattern).isSome

theorem strstr_of_isPrefixOf {text pattern : List UInt8} (h : pattern <+: text) :
    strstr text pattern = some text := by
  unfold strstr
  rw [if_pos (List.isPrefixOf_iff_prefix.2 h)]

theorem strstr_cons {c : UInt8} {text pattern : List UInt8} (h : ¬ pattern <+: c :: text) :
    strstr (c :: text) pattern = strstr text pattern := by
  conv_lhs => unfold strstr
  rw [if_neg (mt List.isPrefixOf_iff_prefix.1 h)]

theorem contains_iff {text pattern : List UInt8} :
    contains text pattern = true ↔ pattern <:+: text := by
  unfold contains
  induction text with
  | nil =>
    unfold strstr
    cases pattern <;> simp
  | cons c text ih =>
    by_cases hp : pattern <+: c :: text
    · rw [strstr_of_isPrefixOf hp]
      exact ⟨fun _ => hp.isInfix, fun _ => rfl⟩
    · rw [strstr_cons hp, ih, List.infix_cons_iff, or_iff_right hp]

/-- A pattern does not start in a text without its first byte. -/
theorem strstr_append {before : List UInt8} {c : UInt8} (h : c ∉ before)
    (text pattern : List UInt8) :
    strstr (before ++ text) (c :: pattern) = strstr text (c :: pattern) := by
  induction before with
  | nil => rfl
  | cons b before ih =>
    rw [List.mem_cons, not_or] at h
    rw [List.cons_append, strstr_cons (fun hp => h.1 (List.cons_prefix_cons.1 hp).1), ih h.2]

/-! ## Quoted texts -/

/-- Two texts up to their first quote. -/
theorem eq_of_prefix_quote {name name' rest rest' : List UInt8} (h : 0x22 ∉ name)
    (h' : 0x22 ∉ name') (hp : name ++ 0x22 :: rest <+: name' ++ 0x22 :: rest') :
    name = name' ∧ rest <+: rest' := by
  induction name generalizing name' with
  | nil =>
    cases name' with
    | nil => exact ⟨rfl, (List.cons_prefix_cons.1 hp).2⟩
    | cons b name' =>
      rw [List.mem_cons, not_or] at h'
      exact absurd (List.cons_prefix_cons.1 hp).1 h'.1
  | cons a name ih =>
    rw [List.mem_cons, not_or] at h
    cases name' with
    | nil => exact absurd (List.cons_prefix_cons.1 hp).1.symm h.1
    | cons b name' =>
      rw [List.mem_cons, not_or] at h'
      rw [List.cons_append, List.cons_append] at hp
      obtain ⟨rfl, htail⟩ := List.cons_prefix_cons.1 hp
      obtain ⟨rfl, hrest⟩ := ih h.2 h'.2 htail
      exact ⟨rfl, hrest⟩

end CString

namespace Written

open CString Json

/-- The start of the text of a member with a string, as a reader may look for it: the name, and
what the text of the string starts with. -/
def pattern (name start : List UInt8) : List UInt8 :=
  0x22 :: (name ++ 0x22 :: 0x3A :: 0x22 :: start)

/-- A name that has neither quotes nor any byte that follows a quoted text. -/
structure SearchName (name : List UInt8) : Prop where
  quote : 0x22 ∉ name
  colon : 0x3A ∉ name
  comma : 0x2C ∉ name
  brace : 0x7D ∉ name

/-- A byte that follows a value. -/
def EndsValue (c : UInt8) : Prop := c = 0x2C ∨ c = 0x7D

section Hiding

variable {name start : List UInt8}

/-- A search does not stop in the member, whatever follows it. -/
def Hides (name start : List UInt8) (m : Member) : Prop :=
  ∀ c text, EndsValue c →
    strstr (m.bytes ++ c :: text) (pattern name start) = strstr (c :: text) (pattern name start)

/-- The search stops at a member with this string. -/
theorem pattern_isPrefixOf (name value text : List UInt8) :
    pattern name (value ++ [0x22]) <+: (Member.mk name (.string value)).bytes ++ text := by
  simp [pattern, Member.bytes, Value.bytes]

theorem string_bytes_append (name value text : List UInt8) :
    (Member.mk name (.string value)).bytes ++ text =
      pattern name [] ++ (value ++ 0x22 :: text) := by
  simp [pattern, Member.bytes, Value.bytes]

/-- A closing quote does not start the pattern. -/
theorem strstr_closing (hname : SearchName name) {c : UInt8} (hc : c = 0x3A ∨ EndsValue c)
    (text : List UInt8) :
    strstr (0x22 :: c :: text) (pattern name start) = strstr (c :: text) (pattern name start) := by
  refine strstr_cons fun hp => ?_
  have hp := (List.cons_prefix_cons.1 hp).2
  cases name with
  | nil =>
    have hquote := (List.cons_prefix_cons.1 hp).1
    rcases hc with rfl | rfl | rfl <;> exact absurd hquote (by decide)
  | cons a name =>
    obtain ⟨rfl, -⟩ := List.cons_prefix_cons.1 hp
    rcases hc with rfl | rfl | rfl
    · exact hname.colon List.mem_cons_self
    · exact hname.comma List.mem_cons_self
    · exact hname.brace List.mem_cons_self

/-- A quoted text is passed when the pattern does not start with it. -/
theorem strstr_quoted (hname : SearchName name) {quoted : List UInt8} (hquoted : 0x22 ∉ quoted)
    {c : UInt8} (hc : c = 0x3A ∨ EndsValue c) {text : List UInt8}
    (hne : ¬ pattern name start <+: 0x22 :: (quoted ++ 0x22 :: c :: text)) :
    strstr (0x22 :: (quoted ++ 0x22 :: c :: text)) (pattern name start) =
      strstr (c :: text) (pattern name start) := by
  have hskip : strstr (quoted ++ 0x22 :: c :: text) (pattern name start) =
      strstr (0x22 :: c :: text) (pattern name start) := strstr_append hquoted _ _
  rw [strstr_cons hne, hskip, strstr_closing hname hc]

/-- A string value is passed. -/
theorem strstr_value (hname : SearchName name) {v : List UInt8} (hv : 0x22 ∉ v) {c : UInt8}
    (hc : EndsValue c) (text : List UInt8) :
    strstr (0x22 :: (v ++ 0x22 :: c :: text)) (pattern name start) =
      strstr (c :: text) (pattern name start) := by
  refine strstr_quoted hname hv (Or.inr hc) fun hp => ?_
  have hrest := (eq_of_prefix_quote hname.quote hv (List.cons_prefix_cons.1 hp).2).2
  have hcolon := (List.cons_prefix_cons.1 hrest).1
  rcases hc with rfl | rfl <;> exact absurd hcolon (by decide)

variable (name start) in
theorem strstr_bare (before : List UInt8) (h : 0x22 ∉ before) (text : List UInt8) :
    strstr (before ++ text) (pattern name start) = strstr text (pattern name start) :=
  strstr_append h text _

/-- A member with a string that the pattern does not start with is passed. -/
theorem hides_of_not_prefix (hname : SearchName name) {m v : List UInt8} (hm : 0x22 ∉ m)
    (hv : 0x22 ∉ v)
    (hne : ∀ text,
      ¬ pattern name start <+: 0x22 :: (m ++ 0x22 :: 0x3A :: 0x22 :: (v ++ 0x22 :: text))) :
    Hides name start ⟨m, .string v⟩ := by
  intro c text hc
  have hbytes : (Member.mk m (.string v)).bytes ++ c :: text =
      0x22 :: (m ++ 0x22 :: 0x3A :: 0x22 :: (v ++ 0x22 :: c :: text)) := by
    simp [Member.bytes, Value.bytes]
  have hcolon : strstr (0x3A :: 0x22 :: (v ++ 0x22 :: c :: text)) (pattern name start) =
      strstr (c :: text) (pattern name start) :=
    (strstr_bare name start [0x3A] (by decide) _).trans (strstr_value hname hv hc text)
  rw [hbytes, strstr_quoted hname hm (Or.inl rfl) (hne _), hcolon]

/-- A member of another name is passed. -/
theorem hides_name (hname : SearchName name) {m v : List UInt8} (hm : 0x22 ∉ m) (hv : 0x22 ∉ v)
    (hne : m ≠ name) : Hides name start ⟨m, .string v⟩ :=
  hides_of_not_prefix hname hm hv fun _ hp =>
    hne (eq_of_prefix_quote hname.quote hm (List.cons_prefix_cons.1 hp).2).1.symm

/-- A member with another string is passed. -/
theorem hides_string (hname : SearchName name) {value : List UInt8} (hvalue : 0x22 ∉ value)
    {m v : List UInt8} (hm : 0x22 ∉ m) (hv : 0x22 ∉ v) (hne : v ≠ value) :
    Hides name (value ++ [0x22]) ⟨m, .string v⟩ := by
  refine hides_of_not_prefix hname hm hv fun text hp => ?_
  obtain ⟨rfl, hrest⟩ := eq_of_prefix_quote hname.quote hm (List.cons_prefix_cons.1 hp).2
  have hrest := (List.cons_prefix_cons.1 (List.cons_prefix_cons.1 hrest).2).2
  exact hne (eq_of_prefix_quote hvalue hv hrest).1.symm

/-- A member with a number or a Boolean is passed. -/
theorem hides_bare (hname : SearchName name) {m b : List UInt8} (hm : 0x22 ∉ m)
    (hb : 0x22 ∉ b) : Hides name start ⟨m, .bare b⟩ := by
  intro c text hc
  have hbytes : (Member.mk m (.bare b)).bytes ++ c :: text =
      0x22 :: (m ++ 0x22 :: 0x3A :: (b ++ c :: text)) := by
    simp [Member.bytes, Value.bytes]
  rw [hbytes, strstr_quoted hname hm (Or.inl rfl) ?_]
  · exact strstr_bare name start (0x3A :: b) (by simp [hb]) _
  intro hp
  have hrest := (eq_of_prefix_quote hname.quote hm (List.cons_prefix_cons.1 hp).2).2
  have hquote := (List.cons_prefix_cons.1 hrest).2
  cases b with
  | nil =>
    have hfirst := (List.cons_prefix_cons.1 hquote).1
    rcases hc with rfl | rfl <;> exact absurd hfirst (by decide)
  | cons d b => exact hb (List.mem_cons.2 (Or.inl (List.cons_prefix_cons.1 hquote).1))

/-- Members that are passed are passed one after the other. -/
theorem strstr_more {rest : List Member} (h : ∀ m ∈ rest, Hides name start m) {c : UInt8}
    (hc : EndsValue c) (text : List UInt8) :
    strstr (moreBytes rest ++ c :: text) (pattern name start) =
      strstr (c :: text) (pattern name start) := by
  induction rest with
  | nil => rfl
  | cons m rest ih =>
    obtain ⟨hm, hrest⟩ := List.forall_mem_cons.1 h
    have hbytes : moreBytes (m :: rest) ++ c :: text =
        [0x2C] ++ (m.bytes ++ (moreBytes rest ++ c :: text)) := by
      simp [moreBytes]
    have hnext : ∃ c' text', EndsValue c' ∧ moreBytes rest ++ c :: text = c' :: text' := by
      cases rest with
      | nil => exact ⟨c, text, hc, rfl⟩
      | cons m' rest => exact ⟨0x2C, _, Or.inl rfl, rfl⟩
    obtain ⟨c', text', hc', hmore⟩ := hnext
    rw [hbytes, strstr_bare name start _ (by decide), hmore, hm c' text' hc', ← hmore, ih hrest]

theorem strstr_body {first : Member} {rest : List Member} (hfirst : Hides name start first)
    (hrest : ∀ m ∈ rest, Hides name start m) {c : UInt8} (hc : EndsValue c) (text : List UInt8) :
    strstr (bodyBytes first rest ++ c :: text) (pattern name start) =
      strstr (c :: text) (pattern name start) := by
  rw [bodyBytes, List.append_assoc]
  cases rest with
  | nil => exact hfirst c text hc
  | cons m rest =>
    have hmore : moreBytes (m :: rest) ++ c :: text =
        0x2C :: (m.bytes ++ (moreBytes rest ++ c :: text)) := by
      simp [moreBytes]
    rw [hmore, hfirst _ _ (Or.inl rfl), ← hmore, strstr_more hrest hc]

/-- A member with a nested object is passed when all members of that are. -/
theorem hides_object (hname : SearchName name) {m : List UInt8} (hm : 0x22 ∉ m)
    {first : Member} {rest : List Member} (hfirst : Hides name start first)
    (hrest : ∀ m ∈ rest, Hides name start m) :
    Hides name start ⟨m, .object (bodyBytes first rest)⟩ := by
  intro c text _
  have hbytes : (Member.mk m (.object (bodyBytes first rest))).bytes ++ c :: text =
      0x22 :: (m ++ 0x22 :: 0x3A :: 0x7B :: (bodyBytes first rest ++ 0x7D :: c :: text)) := by
    simp [Member.bytes, Value.bytes]
  rw [hbytes, strstr_quoted hname hm (Or.inl rfl) ?_]
  · have hopen := strstr_bare name start [0x3A, 0x7B] (by decide)
      (bodyBytes first rest ++ 0x7D :: c :: text)
    refine hopen.trans ?_
    rw [strstr_body hfirst hrest (Or.inr rfl)]
    exact strstr_bare name start [0x7D] (by decide) _
  · intro hp
    have hafter := (eq_of_prefix_quote hname.quote hm (List.cons_prefix_cons.1 hp).2).2
    have hbrace := (List.cons_prefix_cons.1 (List.cons_prefix_cons.1 hafter).2).1
    exact absurd hbrace (by decide)

/-- **A search for a member with a string** fails in an object that has it nowhere. -/
theorem strstr_object {first : Member} {rest : List Member} (hfirst : Hides name start first)
    (hrest : ∀ m ∈ rest, Hides name start m) :
    strstr (0x7B :: (bodyBytes first rest ++ 0x7D :: [0x0A])) (pattern name start) = none := by
  have hopen := strstr_bare name start [0x7B] (by decide)
    (bodyBytes first rest ++ 0x7D :: [0x0A])
  refine hopen.trans ?_
  rw [strstr_body hfirst hrest (Or.inr rfl)]
  rfl

/-- A search stops at the first member that it does not pass. -/
theorem strstr_member {first : Member} {before after : List Member}
    (hfirst : Hides name start first) (hbefore : ∀ m ∈ before, Hides name start m) {m : Member}
    {text : List UInt8} (hm : pattern name start <+: m.bytes ++ (moreBytes after ++ text)) :
    strstr (0x7B :: (bodyBytes first (before ++ m :: after) ++ text)) (pattern name start) =
      some (m.bytes ++ (moreBytes after ++ text)) := by
  have hbytes : bodyBytes first (before ++ m :: after) ++ text =
      bodyBytes first before ++ 0x2C :: (m.bytes ++ (moreBytes after ++ text)) := by
    simp [bodyBytes, moreBytes]
  have hopen := strstr_bare name start [0x7B] (by decide)
    (bodyBytes first (before ++ m :: after) ++ text)
  refine hopen.trans ?_
  rw [hbytes, strstr_body hfirst hbefore (Or.inl rfl)]
  exact (strstr_bare name start [0x2C] (by decide) _).trans (strstr_of_isPrefixOf hm)

end Hiding

/-! ## Members printed from plain texts -/

/-- A member that is printed from plain texts, with none of the names `avoid` for a string. -/
inductive Printed (avoid : List (List UInt8)) : Member → Prop where
  | string {m v : List UInt8} (hm : ∀ b ∈ m, PlainByte b) (hv : ∀ b ∈ v, PlainByte b)
      (havoid : m ∉ avoid) : Printed avoid ⟨m, .string v⟩
  | bare {m v : List UInt8} (hm : ∀ b ∈ m, PlainByte b) (hv : ∀ b ∈ v, BareByte b) :
      Printed avoid ⟨m, .bare v⟩
  | object {m : List UInt8} {first : Member} {rest : List Member} (hm : ∀ b ∈ m, PlainByte b)
      (hfirst : Printed avoid first) (hrest : ∀ m ∈ rest, Printed avoid m) :
      Printed avoid ⟨m, .object (bodyBytes first rest)⟩

theorem quote_not_mem_plain {text : List UInt8} (h : ∀ b ∈ text, PlainByte b) : 0x22 ∉ text :=
  fun hquote => (h _ hquote).2.1 rfl

theorem nul_not_mem_plain {text : List UInt8} (h : ∀ b ∈ text, PlainByte b) : 0 ∉ text :=
  fun hnul => absurd (h _ hnul).1 (by decide)

section Avoiding

variable {avoid : List (List UInt8)} {m : Member}

/-- The search for a string of a name that is avoided passes the member. -/
theorem Printed.hides (h : Printed avoid m) {name start : List UInt8} (hname : SearchName name)
    (havoid : name ∈ avoid) : Hides name start m := by
  induction h with
  | string hm hv hnot =>
    exact hides_name hname (quote_not_mem_plain hm) (quote_not_mem_plain hv)
      (ne_of_mem_of_not_mem havoid hnot).symm
  | bare hm hv =>
    exact hides_bare hname (quote_not_mem_plain hm) fun hquote => absurd (hv _ hquote) (by unfold BareByte; decide)
  | object hm _ _ ihfirst ihrest =>
    exact hides_object hname (quote_not_mem_plain hm) ihfirst ihrest

theorem nul_not_mem_body {first : Member} {rest : List Member} (hfirst : 0 ∉ first.bytes)
    (hrest : ∀ m ∈ rest, 0 ∉ m.bytes) : 0 ∉ bodyBytes first rest := by
  simp only [bodyBytes, moreBytes, List.mem_append, List.mem_flatMap, List.mem_cons, not_or,
    not_exists, not_and]
  exact ⟨hfirst, fun m hm => ⟨by decide, hrest m hm⟩⟩

/-- The member does not end a string. -/
theorem Printed.nul_not_mem (h : Printed avoid m) : 0 ∉ m.bytes := by
  induction h with
  | string hm hv =>
    simp [Member.bytes, Value.bytes, nul_not_mem_plain hm, nul_not_mem_plain hv]
  | @bare m v hm hv =>
    have hbare : 0 ∉ v := fun hnul => absurd (hv 0 hnul) (by unfold BareByte; decide)
    simp [Member.bytes, Value.bytes, nul_not_mem_plain hm, hbare]
  | object hm _ _ ihfirst ihrest =>
    simp [Member.bytes, Value.bytes, nul_not_mem_plain hm, nul_not_mem_body ihfirst ihrest]

end Avoiding

end Written
