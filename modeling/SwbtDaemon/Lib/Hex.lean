import SwbtDaemon.Lib.Numerals

/-!
# Hexadecimal digits

What `strtoul` reads from printed hexadecimal digits.
-/

namespace CString

/-- The number of a list of hexadecimal digits. -/
def hexadecimal (ds : List (Fin 16)) : Nat := ds.foldl (fun n d => n * 16 + d.val) 0

theorem digitOf_hexDigit (d : Fin 16) : digitOf 16 (hexDigit d.val) = some d.val := by
  revert d
  decide

/-- The printed digits. -/
def hexBytes (ds : List (Fin 16)) : List UInt8 := ds.map fun d => hexDigit d.val

theorem digits_hexBytes (ds : List (Fin 16)) : Digits 16 (hexBytes ds) := by
  intro c hc
  obtain ⟨d, -, rfl⟩ := List.mem_map.mp hc
  rw [digitOf_hexDigit, Option.isSome_some]

theorem number_hexBytes (ds : List (Fin 16)) : number 16 (hexBytes ds) = hexadecimal ds := by
  unfold number numberOnto hexBytes hexadecimal
  rw [List.foldl_map]
  simp only [digitOf_hexDigit, Option.getD_some]

theorem hexadecimal_lt (ds : List (Fin 16)) : hexadecimal ds < 16 ^ ds.length := by
  have hlt := number_lt (digits_hexBytes ds)
  rwa [number_hexBytes, hexBytes, List.length_map] at hlt

/-- `strtoul` reads printed digits to their end. -/
theorem strtoul16_hexBytes {width : Nat} {ds : List (Fin 16)} (hne : ds ≠ [])
    (h : hexadecimal ds < 2 ^ width) :
    strtoul16 width (hexBytes ds) = some ⟨hexadecimal ds, false, []⟩ := by
  have hnumeral : HexNumeral (hexBytes ds) .none (hexBytes ds) := by
    refine ⟨digits_hexBytes ds, fun hnil => hne (List.map_eq_nil_iff.mp hnil), [], [], ?_, .inl rfl,
      rfl⟩
    simp
  rw [strtoul16_numeral width hnumeral, number_hexBytes, Sign.convert, if_neg (Nat.not_le.mpr h),
    if_neg (by decide)]

/-- Digits of one length are told apart by their number. -/
theorem hexadecimal_injective {ds es : List (Fin 16)} (hlength : ds.length = es.length)
    (h : hexadecimal ds = hexadecimal es) : ds = es := by
  have honto : ∀ (ds es : List (Fin 16)) (a b : Nat), ds.length = es.length →
      ds.foldl (fun n d => n * 16 + d.val) a = es.foldl (fun n d => n * 16 + d.val) b →
      a = b ∧ ds = es := by
    intro ds
    induction ds with
    | nil =>
      intro es a b hlength h
      obtain rfl := List.length_eq_zero_iff.mp hlength.symm
      exact ⟨h, rfl⟩
    | cons d ds ih =>
      intro es a b hlength h
      cases es with
      | nil => cases hlength
      | cons e es =>
        obtain ⟨hhead, htail⟩ := ih es _ _ (Nat.succ.inj hlength) h
        have hnext : a * 16 + d.val = b * 16 + e.val := hhead
        have hd := d.isLt
        have he := e.isLt
        obtain ⟨hab, hde⟩ : a = b ∧ d.val = e.val := by omega
        exact ⟨hab, List.cons_eq_cons.mpr ⟨Fin.ext hde, htail⟩⟩
  exact (honto ds es 0 0 hlength h).2

end CString
