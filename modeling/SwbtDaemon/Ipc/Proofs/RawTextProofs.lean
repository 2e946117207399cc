import SwbtDaemon.Ipc.Proofs.DecodeProofs

/-!
# Proofs: the fields of a raw text

The lookup and the readers find exactly what the text grammar spells, in any text that starts with
a brace.
-/

namespace Swbt.Ipc

open CString Json Braces

/-! ## The lookup -/

section Lookup

variable {key : List UInt8}

/-- A string in which a successful lookup starts is closed. -/
theorem exists_content_of_findLoop {d : Nat} {cs value : List UInt8}
    (h : findLoop key (.inside d) cs = some value) :
    ∃ content cs', cs = content ++ 0x22 :: cs' ∧ Content content ∧
      findLoop key (.outside d) cs' = some value := by
  match cs with
  | [] => exact absurd h (by simp [findLoop])
  | b :: cs =>
    by_cases hquote : b = 0x22
    · subst hquote
      exact ⟨[], cs, rfl, .nil, h⟩
    by_cases hback : b = 0x5C
    · subst hback
      -- the byte after a backslash is taken whatever it is
      rcases hcs : cs with _ | ⟨b, cs⟩
      · rw [hcs] at h
        exact absurd h (by simp [findLoop, FindScan.inside])
      · rw [hcs, findLoop_escaped] at h
        obtain ⟨content, cs', rfl, hcontent, hrest⟩ := exists_content_of_findLoop h
        exact ⟨0x5C :: b :: content, cs', rfl, .escape b hcontent, hrest⟩
    · rw [findLoop_plain key hquote hback] at h
      obtain ⟨content, cs', rfl, hcontent, hrest⟩ := exists_content_of_findLoop h
      exact ⟨b :: content, cs', rfl, .plain hquote hback hcontent, hrest⟩
termination_by cs.length
decreasing_by all_goals (subst_vars; simp only [List.length_cons]; omega)

theorem findLoop_quote (d : Nat) (cs : List UInt8) :
    findLoop key (.outside (d + 2)) (0x22 :: cs) = findLoop key (.inside (d + 2)) cs := rfl

/-- A group in which a successful lookup starts is closed. -/
theorem exists_balanced_of_findLoop {d : Nat} {cs value : List UInt8}
    (h : findLoop key (.outside (d + 2)) cs = some value) :
    ∃ inner cs', cs = inner ++ 0x7D :: cs' ∧ Balanced inner ∧
      findLoop key (.outside (d + 1)) cs' = some value := by
  match cs with
  | [] => exact absurd h (by simp [findLoop])
  | b :: cs =>
    by_cases hopen : b = 0x7B
    · subst hopen
      rw [findLoop_open] at h
      obtain ⟨inner, cs', rfl, hinner, hrest⟩ := exists_balanced_of_findLoop h
      obtain ⟨inner', cs'', rfl, hinner', hrest'⟩ := exists_balanced_of_findLoop hrest
      exact ⟨0x7B :: (inner ++ 0x7D :: inner'), cs'', by simp, .group hinner hinner', hrest'⟩
    by_cases hclose : b = 0x7D
    · subst hclose
      exact ⟨[], cs, rfl, .nil, h⟩
    by_cases hquote : b = 0x22
    · subst hquote
      rw [findLoop_quote] at h
      obtain ⟨content, cs', rfl, hcontent, hrest⟩ := exists_content_of_findLoop h
      obtain ⟨inner, cs'', rfl, hinner, hrest'⟩ := exists_balanced_of_findLoop hrest
      exact ⟨0x22 :: (content ++ 0x22 :: inner), cs'', by simp, .string hcontent hinner, hrest'⟩
    · have hneutral : Neutral b := ⟨hopen, hclose, hquote⟩
      rw [findLoop_byte key hneutral] at h
      obtain ⟨inner, cs', rfl, hinner, hrest⟩ := exists_balanced_of_findLoop h
      exact ⟨b :: inner, cs', rfl, .byte hneutral hinner, hrest⟩
termination_by cs.length
decreasing_by
  all_goals (subst_vars; simp only [List.length_cons, List.length_append]; omega)

theorem colonFollows_iff {text : List UInt8} :
    ColonFollows text ↔ ∃ after, skipSpace text = 0x3A :: after := by
  constructor
  · rintro ⟨ws, after, hws, rfl⟩
    exact ⟨after, by rw [skipSpace_append hws, skipSpace_cons (by decide)]⟩
  · rintro ⟨after, hafter⟩
    obtain ⟨ws, hws, htext⟩ := exists_space text
    exact ⟨ws, after, hws, by rw [← hafter]; exact htext⟩

/-- A string at depth one, by whether it is the key with a colon behind it. -/
theorem findLoop_string_cases (key : List UInt8) {content : List UInt8} (h : Unescaped content)
    (cs : List UInt8) :
    (content = key ∧ ∃ after, skipSpace cs = 0x3A :: after ∧
      findLoop key (.outside 1) (0x22 :: (content ++ 0x22 :: cs)) = some (skipSpace after)) ∨
    ((content = key → ¬ColonFollows cs) ∧
      findLoop key (.outside 1) (0x22 :: (content ++ 0x22 :: cs)) =
        findLoop key (.outside 1) cs) := by
  rw [findLoop_unescaped key h]
  split
  · next after hafter =>
    by_cases hkey : content = key
    · rw [if_pos hkey]
      exact Or.inl ⟨hkey, after, hafter, rfl⟩
    · rw [if_neg hkey]
      exact Or.inr ⟨fun h => absurd h hkey, rfl⟩
  · next hno =>
    refine Or.inr ⟨fun _ hcolon => ?_, rfl⟩
    obtain ⟨after, hafter⟩ := colonFollows_iff.1 hcolon
    exact hno after hafter

theorem skipSpace_head (text : List UInt8) :
    ∀ b ∈ (skipSpace text).head?, isspace b = false := by
  intro b hb
  have h := List.head?_dropWhile_not isspace text
  rw [show text.dropWhile isspace = skipSpace text from rfl, Option.mem_def.1 hb] at h
  exact h

/-- A probed string that does not end the lookup is closed and has no escape. -/
theorem exists_unescaped_of_findLoop {cs value : List UInt8}
    (h : findLoop key (.outside 1) (0x22 :: cs) = some value) :
    ∃ content cs', Unescaped content ∧ cs = content ++ 0x22 :: cs' := by
  have hname : Unescaped (keyText cs) := fun b hb => by
    have hb := List.mem_takeWhile_imp hb
    rwa [Bool.and_eq_true, bne_iff_ne, bne_iff_ne] at hb
  have htake : keyText cs = cs.take (keyText cs).length :=
    List.prefix_iff_eq_take.1 (List.takeWhile_prefix _)
  have htext : keyText cs ++ cs.drop (keyText cs).length = cs :=
    (congrArg (· ++ cs.drop (keyText cs).length) htake).trans (List.take_append_drop _ _)
  -- behind the probed name stands its closing quote, or the lookup has failed
  have hclosed : ∃ cs', cs.drop (keyText cs).length = 0x22 :: cs' := by
    by_contra hopen
    have hnone : findLoop key (.outside 1) (0x22 :: cs) = none := by
      rw [findLoop]
      simp only [FindScan.outside, gt_iff_lt, lt_self_iff_false, reduceIte, Bool.false_eq_true,
        (by decide : (0x22 : UInt8) ≠ 0x7B), (by decide : (0x22 : UInt8) ≠ 0x7D), ne_eq,
        not_true_eq_false]
      split
      · next cs' hcs' => exact absurd ⟨cs', hcs'⟩ hopen
      · rfl
    rw [hnone] at h
    cases h
  obtain ⟨cs', hcs'⟩ := hclosed
  exact ⟨keyText cs, cs', hname, by rw [← hcs', htext]⟩

theorem memberText_of_findLoop {cs value : List UInt8}
    (h : findLoop key (.outside 1) cs = some value) : MemberText key cs value := by
  match cs with
  | [] => exact absurd h (by simp [findLoop])
  | b :: cs =>
    by_cases hopen : b = 0x7B
    · subst hopen
      rw [findLoop_open] at h
      obtain ⟨inner, cs', rfl, hinner, hrest⟩ := exists_balanced_of_findLoop h
      exact .group hinner (memberText_of_findLoop hrest)
    by_cases hclose : b = 0x7D
    · subst hclose
      rw [findLoop_end] at h
      cases h
    by_cases hquote : b = 0x22
    · subst hquote
      obtain ⟨content, cs', hcontent, rfl⟩ := exists_unescaped_of_findLoop h
      rcases findLoop_string_cases key hcontent cs' with
        ⟨rfl, after, hafter, hfound⟩ | ⟨hother, hnext⟩
      · obtain ⟨before, hbefore, hcs⟩ := exists_space cs'
        obtain ⟨ws, hws, htext⟩ := exists_space after
        rw [hfound] at h
        rw [hcs, hafter, htext, ← Option.some.inj h]
        exact .found hbefore hws (skipSpace_head after)
      · rw [hnext] at h
        exact .string hcontent hother (memberText_of_findLoop h)
    · have hneutral : Neutral b := ⟨hopen, hclose, hquote⟩
      rw [findLoop_byte key hneutral] at h
      exact .byte hneutral (memberText_of_findLoop h)
termination_by cs.length
decreasing_by
  all_goals (subst_vars; simp only [List.length_cons, List.length_append]; omega)

theorem findLoop_of_memberText (hkey : Unescaped key) {cs value : List UInt8}
    (h : MemberText key cs value) : findLoop key (.outside 1) cs = some value := by
  induction h with
  | @found before after value hbefore hafter hvalue =>
    have hskip : skipSpace value = value := by
      cases value with
      | nil => rfl
      | cons c cs => exact skipSpace_cons (hvalue c rfl) cs
    rw [findLoop_unescaped key hkey, skipSpace_append hbefore, skipSpace_cons (by decide)]
    simp only [if_true, skipSpace_append hafter, hskip]
  | byte hbyte _ ih => rw [findLoop_byte key hbyte, ih]
  | string hcontent hother _ ih =>
    rcases findLoop_string_cases key hcontent _ with ⟨heq, after, hafter, -⟩ | ⟨-, hnext⟩
    · exact absurd (colonFollows_iff.2 ⟨after, hafter⟩) (hother heq)
    · rw [hnext, ih]
  | group hinner _ ih =>
    rw [findLoop_open, findLoop_balanced key hinner 0, findLoop_close, ih]

/-- A text that starts with a brace behind its white space. -/
def Opens (line : List UInt8) : Prop := ∃ ws text, Spaces ws ∧ line = ws ++ 0x7B :: text

/-- The lookup finds what the grammar spells. -/
theorem findKeyValue_iff (hkey : Unescaped key) {line : List UInt8} (hopens : Opens line)
    (value : List UInt8) : findKeyValue line key = some value ↔ FieldText line key value := by
  constructor
  · intro h
    obtain ⟨ws, text, hws, rfl⟩ := hopens
    rw [findKeyValue_leading key hws, findKeyValue_open] at h
    exact ⟨ws, text, hws, rfl, memberText_of_findLoop h⟩
  · rintro ⟨ws, text, hws, rfl, hmember⟩
    rw [findKeyValue_leading key hws, findKeyValue_open, findLoop_of_memberText hkey hmember]

theorem findKeyValue_eq_none_iff (hkey : Unescaped key) {line : List UInt8}
    (hopens : Opens line) : findKeyValue line key = none ↔ LacksField line key := by
  rw [Option.eq_none_iff_forall_ne_some]
  exact forall_congr' fun value => not_congr (findKeyValue_iff hkey hopens value)

end Lookup

/-! ## The readers -/

theorem readStringLoop_iff {n k : Nat} (hk : k < n) {cs text rest : List UInt8} :
    readStringLoop n k cs = some (text, rest) ↔
      cs = text ++ 0x22 :: rest ∧ (∀ b ∈ text, PlainByte b) ∧ k + text.length < n := by
  constructor
  · intro h
    induction cs generalizing k text with
    | nil => cases h
    | cons c cs ih =>
      rw [readStringLoop] at h
      split_ifs at h with hquote hrefused hfull
      · obtain ⟨rfl, rfl⟩ := Prod.mk.inj (Option.some.inj h)
        exact ⟨by rw [hquote, List.nil_append], by simp, hk⟩
      · obtain ⟨⟨text', rest'⟩, hread, heq⟩ := Option.map_eq_some_iff.1 h
        obtain ⟨rfl, rfl⟩ := Prod.mk.inj heq
        obtain ⟨hback, hlow⟩ := not_or.1 hrefused
        obtain ⟨rfl, hplain, hlen⟩ := ih (Nat.lt_of_not_le hfull) hread
        refine ⟨rfl, List.forall_mem_cons.2 ⟨⟨UInt8.not_lt.1 hlow, hquote, hback⟩, hplain⟩, ?_⟩
        rw [List.length_cons]
        dsimp only at hlen ⊢
        omega
  · rintro ⟨rfl, hplain, hlen⟩
    rw [readStringLoop_plain hplain hk, if_pos hlen]

theorem readString_iff (found : Option (List UInt8)) (text : List UInt8) :
    readString found jsonStringMax = .value text ↔ ∃ value, found = some value ∧
      StringText value text := by
  constructor
  · intro h
    unfold readString at h
    split at h
    · cases h
    · next cs =>
      cases hread : readStringLoop jsonStringMax 0 cs with
      | none => simp [hread] at h
      | some r =>
        obtain ⟨text', rest⟩ := r
        simp only [hread] at h
        split_ifs at h with hends
        obtain rfl := ReadResult.value.inj h
        obtain ⟨rfl, hplain, hlen⟩ := (readStringLoop_iff (by decide)).1 hread
        exact ⟨_, rfl, rest, rfl, hplain, by omega, (valueEnds_iff rest).1 hends⟩
    · cases h
  · rintro ⟨value, rfl, rest, rfl, hplain, hlen, hends⟩
    have hread : readStringLoop jsonStringMax 0 (text ++ 0x22 :: rest) = some (text, rest) :=
      (readStringLoop_iff (by decide)).2 ⟨rfl, hplain, by omega⟩
    unfold readString
    simp only [hread, (valueEnds_iff rest).2 hends, if_true]

theorem readString_eq_absent_iff (found : Option (List UInt8)) :
    readString found jsonStringMax = .absent ↔ found = none := by
  constructor
  · intro h
    unfold readString at h
    split at h
    · rfl
    · split at h
      · cases h
      · split at h <;> cases h
    · cases h
  · rintro rfl
    rfl

theorem readI64_iff (found : Option (List UInt8)) (n : Int) :
    readI64 found = .value n ↔ ∃ value, found = some value ∧ IntegerText value n := by
  constructor
  · intro h
    cases found with
    | none => cases h
    | some value =>
      have hread : ∃ r, strtoll value = some r := by
        rw [← Option.ne_none_iff_exists']
        intro hnone
        rw [readI64, hnone] at h
        cases h
      obtain ⟨r, hr⟩ := hread
      obtain ⟨ws, sign, digits, hws, hdigits, hne, hstops, rfl⟩ := exists_numeral hr
      rw [readI64_convert _ _ _ (strtoll_numeral hws sign hdigits hne hstops)] at h
      split_ifs at h with hrange
      obtain rfl := ReadResult.value.inj h
      exact ⟨_, rfl, ws, sign, digits, r.rest, rfl, hws, hdigits, hne, rfl, hrange.2.1, hrange.2.2,
        (valueEnds_iff r.rest).1 hrange.1⟩
  · rintro ⟨value, rfl, ws, sign, digits, rest, rfl, hws, hdigits, hne, rfl, hlow, hhigh, hends⟩
    rw [readI64_convert _ _ _ (strtoll_numeral hws sign hdigits hne (stops_of_ends hends)),
      if_pos ⟨(valueEnds_iff rest).2 hends, hlow, hhigh⟩]

theorem readI64_eq_absent_iff (found : Option (List UInt8)) :
    readI64 found = .absent ↔ found = none := by
  constructor
  · intro h
    unfold readI64 at h
    split at h
    · rfl
    · split at h
      · cases h
      · split_ifs at h
  · rintro rfl
    rfl

/-- A read succeeds, finds nothing or is refused. -/
theorem ReadResult.ne_invalid_iff {α : Type} (r : ReadResult α) :
    r ≠ .invalid ↔ r = .absent ∨ ∃ a, r = .value a := by
  cases r <;> simp

/-! ## The fields of a request -/

section Fields

variable {line key : List UInt8} (hopens : Opens line) (hkey : Unescaped key)

include hopens hkey

theorem getString_iff (text : List UInt8) :
    getString line key jsonStringMax = .value text ↔ SpellsString line key text := by
  rw [getString, readString_iff]
  exact exists_congr fun value => and_congr_left' (findKeyValue_iff hkey hopens value)

theorem getI64_iff (n : Int) : getI64 line key = .value n ↔ SpellsInteger line key n := by
  rw [getI64, readI64_iff]
  exact exists_congr fun value => and_congr_left' (findKeyValue_iff hkey hopens value)

/-- A string is valid when there is none, or when it is spelled. -/
theorem getString_ne_invalid_iff :
    getString line key jsonStringMax ≠ .invalid ↔
      LacksField line key ∨ ∃ text, SpellsString line key text := by
  rw [ReadResult.ne_invalid_iff, ← findKeyValue_eq_none_iff hkey hopens]
  exact or_congr (readString_eq_absent_iff _)
    (exists_congr fun text => getString_iff hopens hkey text)

theorem parseRequiredI64_iff (n : Int) :
    parseRequiredI64 line key = some n ↔ SpellsInteger line key n := by
  rw [← getI64_iff hopens hkey, parseRequiredI64]
  cases getI64 line key <;> simp

/-- A check on an integer that has to be there. -/
theorem required_ne_none_iff {α : Type} (f : Int → Option α) :
    (parseRequiredI64 line key >>= f) ≠ none ↔ ∃ n, SpellsInteger line key n ∧ f n ≠ none := by
  simp only [← parseRequiredI64_iff hopens hkey]
  cases parseRequiredI64 line key <;> simp

theorem parseI16Field_ne_none_iff :
    parseI16Field line key ≠ none ↔ ∃ n, SpellsInteger line key n ∧ -32768 ≤ n ∧ n ≤ 32767 := by
  refine (required_ne_none_iff hopens hkey _).trans (exists_congr fun n => and_congr_right' ?_)
  split_ifs with h
  · simp only [ne_eq, not_true_eq_false, false_iff]
    omega
  · simp only [ne_eq, reduceCtorEq, not_false_eq_true, true_iff]
    omega

theorem parseStickField_ne_none_iff :
    parseStickField line key ≠ none ↔ ∃ n, SpellsInteger line key n ∧ 0 ≤ n ∧ n ≤ stickMax := by
  refine (required_ne_none_iff hopens hkey _).trans (exists_congr fun n => and_congr_right' ?_)
  split_ifs with h
  · simp only [ne_eq, not_true_eq_false, false_iff]
    omega
  · simp only [ne_eq, reduceCtorEq, not_false_eq_true, true_iff]
    omega

end Fields

/-- The key has neither a quote nor a backslash. -/
theorem unescaped_of_all {key : List UInt8}
    (h : key.all (fun b => b != 0x22 && b != 0x5C) = true) : Unescaped key := by
  intro b hb
  simpa using List.all_eq_true.1 h b hb

/-- One step of a chain of checks. -/
theorem bind_ne_none_iff {α β : Type} {x : Option α} {f : α → Option β} {p : Prop}
    (h : ∀ a, f a ≠ none ↔ p) : (x >>= f) ≠ none ↔ x ≠ none ∧ p := by
  cases x with
  | none => simp
  | some a => simpa using h a

/-- The last check of a chain. -/
theorem map_ne_none_iff {α β : Type} {x : Option α} {f : α → β} :
    (x >>= fun a => some (f a)) ≠ none ↔ x ≠ none :=
  (bind_ne_none_iff fun _ => iff_true_intro (Option.some_ne_none _)).trans (and_iff_left trivial)

/-- All fields of a state have to be valid. -/
theorem parseStateFields_ne_none (text : List UInt8) :
    parseStateFields text ≠ none ↔ parseButtons text ≠ none ∧
      (∀ key ∈ [bytes "lx", bytes "ly", bytes "rx", bytes "ry"],
        parseStickField text key ≠ none) ∧
      ∀ key ∈ [bytes "accel_x", bytes "accel_y", bytes "accel_z", bytes "gyro_x", bytes "gyro_y",
          bytes "gyro_z"], parseI16Field text key ≠ none := by
  simp only [List.forall_mem_cons, List.not_mem_nil, false_implies, implies_true, and_true,
    and_assoc]
  exact bind_ne_none_iff fun _ => bind_ne_none_iff fun _ => bind_ne_none_iff fun _ =>
    bind_ne_none_iff fun _ => bind_ne_none_iff fun _ => bind_ne_none_iff fun _ =>
    bind_ne_none_iff fun _ => bind_ne_none_iff fun _ => bind_ne_none_iff fun _ =>
    bind_ne_none_iff fun _ => map_ne_none_iff

section Requests

variable {line : List UInt8} (hopens : Opens line)

include hopens

theorem parseButtons_ne_none_iff :
    parseButtons line ≠ none ↔ ∃ n, SpellsInteger line (bytes "buttons") n ∧ 0 ≤ n ∧
      n ≤ 0xFFFFFFFF ∧ n.toNat.toUInt32 &&& ~~~definedButtonMask = 0 := by
  refine (required_ne_none_iff hopens (unescaped_of_all (by decide)) _).trans
    (exists_congr fun n => and_congr_right' ?_)
  split_ifs with h
  · simp only [ne_eq, not_true_eq_false, false_iff]
    rintro ⟨hlow, hhigh, hmask⟩
    rcases h with h | h | h
    · omega
    · omega
    · exact h hmask
  · obtain ⟨hlow, hhigh, hmask⟩ : ¬ n < 0 ∧ ¬ n > 0xFFFFFFFF ∧ _ = _ := by
      simpa only [not_or, not_not] using h
    simp only [ne_eq, reduceCtorEq, not_false_eq_true, true_iff]
    exact ⟨by omega, by omega, hmask⟩

theorem parseStateFields_ne_none_iff : parseStateFields line ≠ none ↔ SpellsState line := by
  have hsticks : (∀ key ∈ [bytes "lx", bytes "ly", bytes "rx", bytes "ry"],
      parseStickField line key ≠ none) ↔
      ∀ key ∈ [bytes "lx", bytes "ly", bytes "rx", bytes "ry"],
        ∃ n, SpellsInteger line key n ∧ 0 ≤ n ∧ n ≤ stickMax := by
    refine forall₂_congr fun key hkey => parseStickField_ne_none_iff hopens ?_
    refine unescaped_of_all ?_
    revert key
    decide
  have hmotion : (∀ key ∈ [bytes "accel_x", bytes "accel_y", bytes "accel_z", bytes "gyro_x",
      bytes "gyro_y", bytes "gyro_z"], parseI16Field line key ≠ none) ↔
      ∀ key ∈ [bytes "accel_x", bytes "accel_y", bytes "accel_z", bytes "gyro_x", bytes "gyro_y",
          bytes "gyro_z"], ∃ n, SpellsInteger line key n ∧ -32768 ≤ n ∧ n ≤ 32767 := by
    refine forall₂_congr fun key hkey => parseI16Field_ne_none_iff hopens ?_
    refine unescaped_of_all ?_
    revert key
    decide
  rw [parseStateFields_ne_none, parseButtons_ne_none_iff hopens, hsticks, hmotion]
  exact ⟨fun h => ⟨h.1, h.2.1, h.2.2⟩, fun h => ⟨h.buttons, h.sticks, h.motion⟩⟩

theorem parseSequence_ne_none_iff :
    parseSequence line ≠ none ↔
      LacksField line (bytes "seq") ∨ ∃ n, SpellsInteger line (bytes "seq") n ∧ 0 ≤ n := by
  have hkey : Unescaped (bytes "seq") := unescaped_of_all (by decide)
  have habsent : getI64 line (bytes "seq") = .absent ↔ LacksField line (bytes "seq") :=
    (readI64_eq_absent_iff _).trans (findKeyValue_eq_none_iff hkey hopens)
  simp only [← habsent, ← getI64_iff hopens hkey]
  unfold parseSequence
  cases getI64 line (bytes "seq") with
  | absent => simp
  | invalid => simp
  | value n =>
    by_cases hn : n < 0
    · simp [hn]
    · simp [hn, Int.not_lt.1 hn]

theorem parseState_ne_none_iff : parseState line ≠ none ↔ SpellsUpdate line := by
  have hkey : Unescaped (bytes "state") := unescaped_of_all (by decide)
  have hfield := findKeyValue_iff hkey hopens
  have hopen (cs : List UInt8) : Opens (0x7B :: cs) := ⟨[], cs, by simp [Spaces], rfl⟩
  constructor
  · intro h
    unfold parseState at h
    split at h
    · next cs hcs =>
      obtain ⟨hstate, hsequence⟩ := (bind_ne_none_iff fun _ => map_ne_none_iff).1 h
      exact ⟨⟨cs, (hfield _).1 hcs, (parseStateFields_ne_none_iff (hopen cs)).1 hstate⟩,
        (parseSequence_ne_none_iff hopens).1 hsequence⟩
    · exact absurd rfl h
  · rintro ⟨⟨cs, hcs, hstate⟩, hsequence⟩
    unfold parseState
    rw [(hfield _).2 hcs]
    exact (bind_ne_none_iff fun _ => map_ne_none_iff).2
      ⟨(parseStateFields_ne_none_iff (hopen cs)).2 hstate,
        (parseSequence_ne_none_iff hopens).2 hsequence⟩

end Requests

end Swbt.Ipc
