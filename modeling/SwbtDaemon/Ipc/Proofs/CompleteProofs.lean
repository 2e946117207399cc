import SwbtDaemon.Ipc.Json
import SwbtDaemon.Lib.Braces

/-!
# The completeness check

`isCompleteObject` accepts the braced texts of at most `jsonLineMax` bytes with white space around
them, and nothing else.
-/

namespace Swbt.Ipc

open CString Braces

/-- The check outside of strings, after `length` bytes. -/
def CompleteScan.outside (length depth : Nat) (last : UInt8) : CompleteScan :=
  ⟨length, depth, false, false, last⟩

/-- The check inside of a string. -/
def CompleteScan.inside (length depth : Nat) (last : UInt8) : CompleteScan :=
  ⟨length, depth, true, false, last⟩

section Loop

variable {n d : Nat} {last : UInt8} {cs : List UInt8}

/-! ## One byte -/

/-- The branches of the loop outside of strings. -/
theorem completeLoop_outside (b : UInt8) (hn : n < jsonLineMax) :
    completeLoop (.outside n d last) (b :: cs) =
      if b = 0x22 then completeLoop (.inside (n + 1) d 0x22) cs
      else if b = 0x7B then completeLoop (.outside (n + 1) (d + 1) 0x7B) cs
      else if b = 0x7D then
        if last = 0x2C then none
        else if (d : Int) - 1 < 0 then none
        else if (d : Int) - 1 = 0 then some cs
        else completeLoop ⟨n + 1, (d : Int) - 1, false, false, 0x7D⟩ cs
      else if b = 0x2C then
        if last = 0x2C ∨ last = 0x7B then none else completeLoop (.outside (n + 1) d 0x2C) cs
      else if !isspace b then completeLoop (.outside (n + 1) d b) cs
      else completeLoop (.outside (n + 1) d last) cs := by
  rw [completeLoop, if_neg (by simpa [CompleteScan.outside] using hn)]
  rfl

/-- The branches of the loop inside of a string. -/
theorem completeLoop_inside (b : UInt8) (hn : n < jsonLineMax) :
    completeLoop (.inside n d last) (b :: cs) =
      if b = 0x5C then completeLoop ⟨n + 1, d, true, true, last⟩ cs
      else if b = 0x22 then completeLoop (.outside (n + 1) d last) cs
      else completeLoop (.inside (n + 1) d last) cs := by
  rw [completeLoop, if_neg (by simpa [CompleteScan.inside] using hn)]
  rfl

/-- The byte after a backslash is taken whatever it is. -/
theorem completeLoop_after_backslash (b : UInt8) (hn : n < jsonLineMax) :
    completeLoop ⟨n, d, true, true, last⟩ (b :: cs) =
      completeLoop (.inside (n + 1) d last) cs := by
  rw [completeLoop, if_neg (by simpa using hn)]
  rfl

theorem completeLoop_quote (hn : n < jsonLineMax) :
    completeLoop (.outside n d last) (0x22 :: cs) = completeLoop (.inside (n + 1) d 0x22) cs := by
  rw [completeLoop_outside _ hn, if_pos rfl]

theorem completeLoop_open (hn : n < jsonLineMax) :
    completeLoop (.outside n d last) (0x7B :: cs) =
      completeLoop (.outside (n + 1) (d + 1) 0x7B) cs := by
  rw [completeLoop_outside _ hn, if_neg (by decide), if_pos rfl]

theorem completeLoop_comma (hn : n < jsonLineMax) :
    completeLoop (.outside n d last) (0x2C :: cs) =
      if last = 0x2C ∨ last = 0x7B then none
      else completeLoop (.outside (n + 1) d 0x2C) cs := by
  rw [completeLoop_outside _ hn, if_neg (by decide), if_neg (by decide), if_neg (by decide),
    if_pos rfl]

/-- A closing brace leaves a nested object, or it ends the check. -/
theorem completeLoop_close (hn : n < jsonLineMax) :
    completeLoop (.outside n (d + 1) last) (0x7D :: cs) =
      if last = 0x2C then none
      else if d = 0 then some cs
      else completeLoop (.outside (n + 1) d 0x7D) cs := by
  have hdepth : ((d + 1 : Nat) : Int) - 1 = d := by omega
  have hneg : ¬ (d : Int) < 0 := by omega
  have hzero : ((d : Int) = 0) = (d = 0) := by
    rw [eq_iff_iff]
    omega
  rw [completeLoop_outside _ hn, if_neg (by decide), if_neg (by decide), if_pos rfl, hdepth,
    if_neg hneg]
  simp only [hzero]
  rfl

theorem completeLoop_space {b : UInt8} (h : isspace b = true) (hn : n < jsonLineMax) :
    completeLoop (.outside n d last) (b :: cs) = completeLoop (.outside (n + 1) d last) cs := by
  have hne : ∀ c : UInt8, isspace c = false → b ≠ c := by
    rintro c hc rfl
    rw [h] at hc
    exact Bool.noConfusion hc
  rw [completeLoop_outside _ hn, if_neg (hne 0x22 (by decide)), if_neg (hne 0x7B (by decide)),
    if_neg (hne 0x7D (by decide)), if_neg (hne 0x2C (by decide)), if_neg (by simp [h])]

theorem completeLoop_other {b : UInt8} (h : Other b) (hn : n < jsonLineMax) :
    completeLoop (.outside n d last) (b :: cs) = completeLoop (.outside (n + 1) d b) cs := by
  rw [completeLoop_outside _ hn, if_neg h.notQuote, if_neg h.notOpen, if_neg h.notClose,
    if_neg h.notComma, if_pos (by simp [h.notSpace])]

theorem completeLoop_end_string (hn : n < jsonLineMax) :
    completeLoop (.inside n d last) (0x22 :: cs) = completeLoop (.outside (n + 1) d last) cs := by
  rw [completeLoop_inside _ hn, if_neg (by decide), if_pos rfl]

theorem completeLoop_plain {b : UInt8} (hquote : b ≠ 0x22) (hback : b ≠ 0x5C)
    (hn : n < jsonLineMax) :
    completeLoop (.inside n d last) (b :: cs) = completeLoop (.inside (n + 1) d last) cs := by
  rw [completeLoop_inside _ hn, if_neg hback, if_neg hquote]

theorem completeLoop_escape {b : UInt8} (hn : n + 1 < jsonLineMax) :
    completeLoop (.inside n d last) (0x5C :: b :: cs) =
      completeLoop (.inside (n + 2) d last) cs := by
  rw [completeLoop_inside _ (Nat.lt_of_succ_lt hn), if_pos rfl, completeLoop_after_backslash _ hn]

/-! ## Braced texts are accepted -/

theorem completeLoop_content {content : List UInt8} (h : Content content)
    (hlen : n + content.length < jsonLineMax) :
    completeLoop (.inside n d last) (content ++ 0x22 :: cs) =
      completeLoop (.outside (n + content.length + 1) d last) cs := by
  induction h generalizing n with
  | nil => exact completeLoop_end_string hlen
  | @plain b bs hquote hback rest ih =>
    rw [List.length_cons] at hlen
    rw [List.cons_append, completeLoop_plain hquote hback (by omega), ih (by omega),
      List.length_cons]
    congr 2
    omega
  | @escape b bs rest ih =>
    rw [List.length_cons, List.length_cons] at hlen
    rw [List.cons_append, List.cons_append, completeLoop_escape (by omega), ih (by omega),
      List.length_cons, List.length_cons]
    congr 2
    omega

theorem completeLoop_body {bs : List UInt8} {last' : UInt8} (h : Body last bs last')
    (hlen : n + bs.length ≤ jsonLineMax) :
    completeLoop (.outside n (d + 1) last) (bs ++ cs) =
      completeLoop (.outside (n + bs.length) (d + 1) last') cs := by
  induction h generalizing n d cs with
  | nil => rfl
  | @space last last' b bs hspace rest ih =>
    rw [List.length_cons] at hlen ⊢
    rw [List.cons_append, completeLoop_space hspace (by omega), ih (by omega)]
    congr 2
    omega
  | @other last last' b bs hother rest ih =>
    rw [List.length_cons] at hlen ⊢
    rw [List.cons_append, completeLoop_other hother (by omega), ih (by omega)]
    congr 2
    omega
  | @comma last last' bs hcomma hopen rest ih =>
    rw [List.length_cons] at hlen ⊢
    rw [List.cons_append, completeLoop_comma (by omega), if_neg (not_or.2 ⟨hcomma, hopen⟩),
      ih (by omega)]
    congr 2
    omega
  | @string last last' content bs hcontent rest ih =>
    simp only [List.length_cons, List.length_append] at hlen ⊢
    rw [List.cons_append, List.append_assoc, List.cons_append, completeLoop_quote (by omega),
      completeLoop_content hcontent (by omega), ih (by omega)]
    congr 2
    omega
  | @group last last' inner content bs hbody hcomma rest ihBody ih =>
    simp only [List.length_cons, List.length_append] at hlen ⊢
    rw [List.cons_append, List.append_assoc, List.cons_append, completeLoop_open (by omega),
      ihBody (by omega), completeLoop_close (by omega), if_neg hcomma,
      if_neg (Nat.succ_ne_zero d), ih (by omega)]
    congr 2
    omega

theorem completeLoop_braced {text : List UInt8} (h : Braced text)
    (hlen : text.length ≤ jsonLineMax) :
    completeLoop ⟨0, 0, false, false, 0⟩ (text ++ cs) = some cs := by
  obtain ⟨content, last, rfl, hbody, hcomma⟩ := h
  simp only [List.length_cons, List.length_append, List.length_nil] at hlen
  have hopen : completeLoop (.outside 0 0 0) (0x7B :: (content ++ 0x7D :: cs)) =
      completeLoop (.outside 1 1 0x7B) (content ++ 0x7D :: cs) := completeLoop_open (by decide)
  have htext : 0x7B :: (content ++ [0x7D]) ++ cs = 0x7B :: (content ++ 0x7D :: cs) := by simp
  rw [htext]
  refine hopen.trans ?_
  rw [completeLoop_body hbody (by omega), completeLoop_close (by omega), if_neg hcomma, if_pos rfl]

end Loop

/-! ## Only braced texts are accepted -/

/-- `cs` closes `k + 1` pairs of braces after the byte `last` and goes on with `rest`. -/
def Closes : Nat → UInt8 → List UInt8 → List UInt8 → Prop
  | 0, last, cs, rest =>
    ∃ bs last', Body last bs last' ∧ last' ≠ 0x2C ∧ cs = bs ++ 0x7D :: rest
  | k + 1, last, cs, rest =>
    ∃ bs last' cs', Body last bs last' ∧ last' ≠ 0x2C ∧ cs = bs ++ 0x7D :: cs' ∧
      Closes k 0x7D cs' rest

theorem Closes.prepend {k : Nat} {last last' : UInt8} {cs rest : List UInt8}
    (front : List UInt8)
    (hfront : ∀ bs last'', Body last' bs last'' → Body last (front ++ bs) last'')
    (h : Closes k last' cs rest) : Closes k last (front ++ cs) rest := by
  cases k with
  | zero =>
    obtain ⟨bs, last'', hbody, hcomma, rfl⟩ := h
    exact ⟨front ++ bs, last'', hfront bs last'' hbody, hcomma, (List.append_assoc ..).symm⟩
  | succ k =>
    obtain ⟨bs, last'', cs', hbody, hcomma, rfl, hrest⟩ := h
    exact ⟨front ++ bs, last'', cs', hfront bs last'' hbody, hcomma,
      (List.append_assoc ..).symm, hrest⟩

/-- An opening brace is one more pair to close. -/
theorem Closes.open {k : Nat} {last : UInt8} {cs rest : List UInt8}
    (h : Closes (k + 1) 0x7B cs rest) : Closes k last (0x7B :: cs) rest := by
  obtain ⟨bs, inner, cs', hbody, hcomma, rfl, hrest⟩ := h
  have hgroup : Closes k last ((0x7B :: (bs ++ [0x7D])) ++ cs') rest := by
    refine Closes.prepend _ (fun bs' last' hbody' => ?_) hrest
    have h : Body last (0x7B :: (bs ++ 0x7D :: bs')) last' := .group hbody hcomma hbody'
    simpa using h
  simpa using hgroup

theorem completeLoop_lt {s : CompleteScan} {b : UInt8} {cs rest : List UInt8}
    (h : completeLoop s (b :: cs) = some rest) : s.length < jsonLineMax := by
  by_contra hlen
  rw [completeLoop, if_pos (Nat.le_of_not_lt hlen)] at h
  exact absurd h (by simp)

/-- A string that the check leaves is closed. -/
theorem exists_content {n d : Nat} {last : UInt8} {cs rest : List UInt8}
    (h : completeLoop (.inside n d last) cs = some rest) :
    ∃ content cs', cs = content ++ 0x22 :: cs' ∧ Content content ∧
      completeLoop (.outside (n + content.length + 1) d last) cs' = some rest := by
  match cs with
  | [] => exact absurd h (by simp [completeLoop])
  | b :: cs =>
    have hn : n < jsonLineMax := completeLoop_lt h
    by_cases hquote : b = 0x22
    · subst hquote
      rw [completeLoop_end_string hn] at h
      exact ⟨[], cs, rfl, .nil, h⟩
    by_cases hback : b = 0x5C
    · subst hback
      -- the byte after a backslash is taken whatever it is
      match hcs : cs with
      | [] =>
        rw [completeLoop_inside _ hn, if_pos rfl] at h
        exact absurd h (by simp [completeLoop])
      | b :: cs =>
        have hn' : n + 1 < jsonLineMax := by
          rw [completeLoop_inside _ hn, if_pos rfl] at h
          exact completeLoop_lt h
        rw [completeLoop_escape hn'] at h
        obtain ⟨content, cs', rfl, hcontent, hrest⟩ := exists_content h
        refine ⟨0x5C :: b :: content, cs', rfl, .escape b hcontent, ?_⟩
        rw [List.length_cons, List.length_cons]
        have hlen : n + (content.length + 1 + 1) + 1 = n + 2 + content.length + 1 := by omega
        rw [hlen]
        exact hrest
    · rw [completeLoop_plain hquote hback hn] at h
      obtain ⟨content, cs', rfl, hcontent, hrest⟩ := exists_content h
      refine ⟨b :: content, cs', rfl, .plain hquote hback hcontent, ?_⟩
      rw [List.length_cons]
      have hlen : n + (content.length + 1) + 1 = n + 1 + content.length + 1 := by omega
      rw [hlen]
      exact hrest
termination_by cs.length
decreasing_by all_goals (subst_vars; simp only [List.length_cons]; omega)

/-- Where the check ends, every brace is closed, and the limit has not been passed. -/
theorem closes_of_completeLoop {n d : Nat} {last : UInt8} {cs rest : List UInt8}
    (h : completeLoop (.outside n (d + 1) last) cs = some rest) :
    Closes d last cs rest ∧ n + cs.length ≤ jsonLineMax + rest.length := by
  match cs with
  | [] => exact absurd h (by simp [completeLoop])
  | b :: cs =>
    have hn : n < jsonLineMax := completeLoop_lt h
    rw [List.length_cons]
    by_cases hquote : b = 0x22
    · subst hquote
      rw [completeLoop_quote hn] at h
      obtain ⟨content, cs', rfl, hcontent, hrest⟩ := exists_content h
      obtain ⟨hcloses, hlen⟩ := closes_of_completeLoop hrest
      refine ⟨?_, ?_⟩
      · have hfront : Closes d last ((0x22 :: (content ++ [0x22])) ++ cs') rest := by
          refine hcloses.prepend _ (fun bs last' hbody => ?_)
          have h : Body last (0x22 :: (content ++ 0x22 :: bs)) last' := .string hcontent hbody
          simpa using h
        simpa using hfront
      · rw [List.length_append, List.length_cons]
        omega
    by_cases hopen : b = 0x7B
    · subst hopen
      rw [completeLoop_open hn] at h
      obtain ⟨hcloses, hlen⟩ := closes_of_completeLoop h
      exact ⟨hcloses.open, by omega⟩
    by_cases hclose : b = 0x7D
    · subst hclose
      rw [completeLoop_close hn] at h
      by_cases hcomma : last = 0x2C
      · rw [if_pos hcomma] at h
        exact absurd h (by simp)
      rw [if_neg hcomma] at h
      cases d with
      | zero =>
        obtain rfl := Option.some.inj h
        exact ⟨⟨[], last, .nil, hcomma, rfl⟩, by omega⟩
      | succ d =>
        rw [if_neg (Nat.succ_ne_zero d)] at h
        obtain ⟨hcloses, hlen⟩ := closes_of_completeLoop h
        exact ⟨⟨[], last, cs, .nil, hcomma, rfl, hcloses⟩, by omega⟩
    by_cases hcomma : b = 0x2C
    · subst hcomma
      rw [completeLoop_comma hn] at h
      split at h
      · exact absurd h (by simp)
      · next hlast =>
        obtain ⟨hcomma, hopen⟩ := not_or.1 hlast
        obtain ⟨hcloses, hlen⟩ := closes_of_completeLoop h
        exact ⟨hcloses.prepend [0x2C] fun bs last' hbody => .comma hcomma hopen hbody,
          by omega⟩
    cases hspace : isspace b with
    | true =>
      rw [completeLoop_space hspace hn] at h
      obtain ⟨hcloses, hlen⟩ := closes_of_completeLoop h
      exact ⟨hcloses.prepend [b] fun bs last' hbody => .space hspace hbody, by omega⟩
    | false =>
      have hother : Other b := ⟨hquote, hopen, hclose, hcomma, hspace⟩
      rw [completeLoop_other hother hn] at h
      obtain ⟨hcloses, hlen⟩ := closes_of_completeLoop h
      exact ⟨hcloses.prepend [b] fun bs last' hbody => .other hother hbody, by omega⟩
termination_by cs.length
decreasing_by all_goals (subst_vars; simp only [List.length_cons, List.length_append]; omega)

/-- A line that the completeness check takes: white space, a braced text of at most `jsonLineMax`
bytes and white space. -/
def BracedLine (line : List UInt8) : Prop :=
  ∃ before text after, line = before ++ (text ++ after) ∧ Braced text ∧
    text.length ≤ jsonLineMax ∧ (∀ b ∈ before, isspace b = true) ∧ ∀ b ∈ after, isspace b = true

theorem isCompleteObject_of_braced {line : List UInt8} (h : BracedLine line) :
    isCompleteObject line = true := by
  obtain ⟨before, text, after, rfl, hbraced, hlen, hbefore, hafter⟩ := h
  have hloop : completeLoop ⟨0, 0, false, false, 0⟩ (text ++ after) = some after :=
    completeLoop_braced hbraced hlen
  obtain ⟨content, last, rfl, -, -⟩ := hbraced
  have hskip : skipSpace (0x7B :: (content ++ [0x7D]) ++ after) =
      0x7B :: ((content ++ [0x7D]) ++ after) := skipSpace_cons (by decide) _
  have hrest : skipSpace after = [] := (skipSpace_eq_nil_iff after).2 hafter
  rw [List.cons_append] at hloop
  unfold isCompleteObject
  rw [skipSpace_append hbefore, hskip]
  simp only [hloop, hrest, beq_self_eq_true]

theorem isCompleteObject_iff (line : List UInt8) :
    isCompleteObject line = true ↔ BracedLine line := by
  refine ⟨fun h => ?_, isCompleteObject_of_braced⟩
  have hline : line = line.takeWhile isspace ++ skipSpace line :=
    List.takeWhile_append_dropWhile.symm
  have hbefore : ∀ b ∈ line.takeWhile isspace, isspace b = true := fun b hb =>
    List.mem_takeWhile_imp hb
  unfold isCompleteObject at h
  split at h
  · next cs hskip =>
    split at h
    · exact absurd h (by simp)
    · next rest hloop =>
      have hrest : skipSpace rest = [] := beq_iff_eq.1 h
      have hopen : completeLoop (.outside 0 0 0) (0x7B :: cs) =
          completeLoop (.outside 1 1 0x7B) cs := completeLoop_open (by decide)
      obtain ⟨⟨bs, last, hbody, hcomma, rfl⟩, hlen⟩ :=
        closes_of_completeLoop (hopen.symm.trans hloop)
      refine ⟨line.takeWhile isspace, 0x7B :: (bs ++ [0x7D]), rest, ?_,
        ⟨bs, last, rfl, hbody, hcomma⟩, ?_, hbefore, (skipSpace_eq_nil_iff rest).1 hrest⟩
      · rw [hskip] at hline
        simpa using hline
      · simp only [List.length_append, List.length_cons, List.length_nil] at hlen ⊢
        omega
  · exact absurd h (by simp)

end Swbt.Ipc
