import SwbtDaemon.Bridge.UsbAdapterLocation
import SwbtDaemon.Lib.Octets

/-!
# The texts that select a USB adapter

`LibusbText` is the grammar of the texts behind `libusb:`. The cursor of the parser goes through a
text as the grammar does: `parseU8` over an octet, `parsePorts` over octets with dots between them.
-/

namespace Swbt

namespace UsbAdapterLocation

open CString

/-! ## One number -/

theorem digitOf_eq (c : UInt8) :
    digitOf 10 c = if isDigit c then some (c.toNat - 0x30) else none := digitOf_ten c

/-- The loop over digits reads their number, unless it grows too large on the way. -/
theorem parseDigits_digits {ds rest : List UInt8} (hds : Digits 10 ds) (hrest : Stops 10 rest)
    {value : Nat} (hvalue : value ≤ 255) (hasDigit : Bool) :
    parseDigits value hasDigit (ds ++ rest) =
      if numberOnto 10 value ds > 255 then none
      else some (numberOnto 10 value ds, hasDigit || !ds.isEmpty, rest) := by
  induction ds generalizing value hasDigit with
  | nil =>
    have hle : ¬ numberOnto 10 value [] > 255 := Nat.not_lt.mpr hvalue
    rw [if_neg hle]
    cases rest with
    | nil => simp [parseDigits, numberOnto]
    | cons c cs =>
      have hc : isDigit c = false := by simpa [digitOf_eq] using hrest c rfl
      simp [parseDigits, hc, numberOnto]
  | cons c ds ih =>
    obtain ⟨hc, hds⟩ := List.forall_mem_cons.mp hds
    have hdigit : isDigit c = true := by simpa [digitOf_eq] using hc
    have hval : digitOf 10 c = some (c.toNat - 0x30) := by rw [digitOf_eq, if_pos hdigit]
    rw [List.cons_append, parseDigits, if_pos hdigit, numberOnto_cons hval]
    dsimp only
    by_cases hlarge : value * 10 + (c.toNat - 0x30) > 255
    · -- the number can only grow from here on
      have hgrows := le_numberOnto (show 0 < 10 by decide) (value * 10 + (c.toNat - 0x30)) ds
      rw [if_pos hlarge, if_pos (by omega)]
    · rw [if_neg hlarge, ih hds (Nat.le_of_not_lt hlarge)]
      simp

/-- `parseU8` reads an octet up to a character that is no digit. -/
theorem parseU8_octet {text rest : List UInt8} {n : UInt8} (h : Octet text n)
    (hrest : Stops 10 rest) : parseU8 (text ++ rest) = some (n, rest) := by
  have hloop := parseDigits_digits h.digits hrest (Nat.zero_le 255) false
  have hvalue : numberOnto 10 0 text = n.toNat := h.value
  have hle : ¬ n.toNat > 255 := Nat.not_lt.mpr (Nat.le_of_lt_succ n.toNat_lt)
  have hpos : n.toNat ≠ 0 := fun hzero => h.ne_zero (UInt8.toNat.inj hzero)
  rw [hvalue, if_neg hle] at hloop
  rw [parseU8, hloop]
  simp [h.ne_nil, hpos]

/-- Only octets are read. -/
theorem octet_of_parseU8 {cursor rest : List UInt8} {n : UInt8}
    (h : parseU8 cursor = some (n, rest)) :
    ∃ text, cursor = text ++ rest ∧ Octet text n ∧ Stops 10 rest := by
  obtain ⟨ds, after, rfl, hds, hafter⟩ := exists_digits 10 cursor
  rw [parseU8, parseDigits_digits hds hafter (Nat.zero_le 255) false] at h
  by_cases hlarge : numberOnto 10 0 ds > 255
  · rw [if_pos hlarge] at h
    cases h
  · rw [if_neg hlarge] at h
    dsimp only at h
    split at h
    · cases h
    · next haccepted =>
      obtain ⟨hn, rfl⟩ := Prod.mk.inj (Option.some.inj h)
      simp only [Bool.false_or, Bool.not_not, Bool.or_eq_true, List.isEmpty_iff, beq_iff_eq,
        not_or] at haccepted
      have hvalue : number 10 ds = n.toNat := by
        have hle : number 10 ds ≤ 255 := Nat.le_of_not_lt hlarge
        rw [← hn, Nat.toUInt8, UInt8.toNat_ofNat']
        exact (Nat.mod_eq_of_lt (Nat.lt_succ_of_le hle)).symm
      refine ⟨ds, rfl, ⟨hds, haccepted.1, hvalue, fun hzero => ?_⟩, hafter⟩
      rw [hzero] at hvalue
      exact haccepted.2 hvalue

/-! ## The ports -/

/-- Ports with dots between them. -/
abbrev PortPath (text ports : List UInt8) : Prop := Separated 0x2E Octet text ports

theorem stops_dot (cs : List UInt8) : Stops 10 (0x2E :: cs) := by
  intro c hc
  obtain rfl : 0x2E = c := by simpa using hc
  rfl

theorem parsePorts_nil (free : Nat) (ports : List UInt8) :
    parsePorts free ports [] = some ports := by
  cases free <;> rfl

/-- A path that is not too long is read to its end. -/
theorem parsePorts_portPath {text new : List UInt8} (h : PortPath text new) {free : Nat}
    (hfree : new.length ≤ free) (ports : List UInt8) :
    parsePorts free ports text = some (ports ++ new) := by
  induction h generalizing free ports with
  | @one text port hport =>
    have hread := parseU8_octet hport (stops_nil 10)
    rw [List.append_nil] at hread
    obtain ⟨c, cs, rfl⟩ := List.exists_cons_of_ne_nil hport.ne_nil
    cases free with
    | zero => cases hfree
    | succ free =>
      rw [parsePorts, hread]
      exact parsePorts_nil free _
  | @more text rest port new hport hrest ih =>
    have hread := parseU8_octet hport (stops_dot rest)
    have hne : rest ≠ [] := hrest.text_ne_nil fun _ _ h => h.ne_nil
    obtain ⟨c, cs, rfl⟩ := List.exists_cons_of_ne_nil hport.ne_nil
    cases free with
    | zero => cases hfree
    | succ free =>
      rw [List.cons_append] at hread ⊢
      rw [parsePorts, hread]
      dsimp only
      rw [if_pos rfl, if_neg hne, ih (Nat.le_of_succ_le_succ hfree), List.append_assoc]
      rfl

/-- Only paths that are not too long are read to their end. -/
theorem portPath_of_parsePorts {free : Nat} {ports cursor result : List UInt8}
    (h : parsePorts free ports cursor = some result) (hne : cursor ≠ []) :
    ∃ new, result = ports ++ new ∧ PortPath cursor new ∧ new.length ≤ free := by
  induction free generalizing ports cursor with
  | zero =>
    obtain ⟨c, cs, rfl⟩ := List.exists_cons_of_ne_nil hne
    cases h
  | succ free ih =>
    obtain ⟨c, cs, rfl⟩ := List.exists_cons_of_ne_nil hne
    rw [parsePorts] at h
    cases hread : parseU8 (c :: cs) with
    | none =>
      rw [hread] at h
      cases h
    | some read =>
      obtain ⟨port, after⟩ := read
      obtain ⟨text, htext, hport, -⟩ := octet_of_parseU8 hread
      rw [hread] at h
      rw [htext]
      cases after with
      | nil =>
        replace h : parsePorts free (ports ++ [port]) [] = some result := h
        rw [parsePorts_nil] at h
        rw [List.append_nil]
        exact ⟨[port], (Option.some.inj h).symm, .one hport, Nat.succ_pos free⟩
      | cons next rest =>
        dsimp only at h
        split at h
        · next hdot =>
          split at h
          · cases h
          · next hrest =>
            obtain ⟨new, hresult, hpath, hlength⟩ := ih h hrest
            rw [hdot]
            refine ⟨port :: new, ?_, .more hport hpath, Nat.succ_le_succ hlength⟩
            rw [hresult, List.append_assoc]
            rfl
        · cases h

/-! ## The text behind the kind -/

/-- The text behind `libusb:`: the number of a bus and, behind a colon, one to seven ports. -/
structure LibusbText (text : List UInt8) (bus : UInt8) (ports : List UInt8) : Prop where
  spelled : ∃ busText path, text = busText ++ 0x3A :: path ∧ Octet busText bus ∧
    PortPath path ports
  nonempty : 0 < ports.length
  length_le : ports.length ≤ usbAdapterLocationMaxPorts

theorem stops_colon (cs : List UInt8) : Stops 10 (0x3A :: cs) := by
  intro c hc
  obtain rfl : 0x3A = c := by simpa using hc
  rfl

theorem parseLibusb_libusbText {text ports : List UInt8} {bus : UInt8}
    (h : LibusbText text bus ports) (location : UsbAdapterLocation) :
    parseLibusb text location = (.ok, ofLibusb bus ports) := by
  obtain ⟨busText, path, rfl, hbus, hpath⟩ := h.spelled
  have hread := parseU8_octet hbus (stops_colon path)
  have hne : path ≠ [] := hpath.text_ne_nil fun _ _ h => h.ne_nil
  have hports := parsePorts_portPath hpath h.length_le []
  rw [parseLibusb, hread]
  dsimp only
  rw [if_neg (not_not.mpr rfl), if_neg hne, hports]
  rfl

theorem libusbText_of_parseLibusb {text : List UInt8} {location : UsbAdapterLocation}
    (h : (parseLibusb text location).1 = .ok) : ∃ bus ports, LibusbText text bus ports := by
  unfold parseLibusb at h
  cases hread : parseU8 text with
  | none =>
    rw [hread] at h
    cases h
  | some read =>
    obtain ⟨bus, after⟩ := read
    obtain ⟨busText, htext, hbus, -⟩ := octet_of_parseU8 hread
    rw [hread] at h
    cases after with
    | nil => cases h
    | cons c path =>
      dsimp only at h
      split at h
      · cases h
      · next hcolon =>
        split at h
        · cases h
        · next hne =>
          cases hports : parsePorts usbAdapterLocationMaxPorts [] path with
          | none =>
            rw [hports] at h
            cases h
          | some ports =>
            obtain ⟨new, hresult, hpath, hlength⟩ := portPath_of_parsePorts hports hne
            rw [not_not.mp hcolon] at htext
            exact ⟨bus, new, ⟨busText, path, htext, hbus, hpath⟩,
              List.length_pos_iff.mpr hpath.ne_nil, hlength⟩

/-- A text that is refused leaves the location as it is. -/
theorem parseLibusb_refused {text : List UInt8} {location : UsbAdapterLocation}
    (h : (parseLibusb text location).1 ≠ .ok) : (parseLibusb text location).2 = location := by
  unfold parseLibusb at h ⊢
  split at h
  · rfl
  · rfl
  · split at h
    · simp [*]
    · split at h
      · simp [*]
      · split at h
        · simp [*]
        · exact absurd rfl h

theorem parse_libusb (rest : List UInt8) :
    parse (bytes "libusb:" ++ rest) = parseLibusb rest zero := rfl

theorem parse_winusb (rest : List UInt8) :
    parse (bytes "winusb:" ++ rest) =
      if rest = [] then (.invalidFormat, zero)
      else (.ok, { zero with backend := .winusb, winusbLocationPath := some rest }) := rfl

/-- A text that is refused leaves the location zeroed. -/
theorem parse_refused {text : List UInt8} (h : (parse text).1 ≠ .ok) : (parse text).2 = zero := by
  unfold parse at h ⊢
  split
  · next hwinusb =>
    rw [if_pos hwinusb] at h
    dsimp only at h ⊢
    split
    · rfl
    · next hne =>
      rw [if_neg hne] at h
      exact absurd rfl h
  · next hwinusb =>
    rw [if_neg hwinusb] at h
    split
    · next hlibusb =>
      rw [if_pos hlibusb] at h
      exact parseLibusb_refused h
    · rfl

/-- A text that is accepted names its kind. -/
theorem hasPrefix_of_parse {text : List UInt8} (h : (parse text).1 = .ok) :
    bytes "winusb:" <+: text ∨ bytes "libusb:" <+: text := by
  unfold parse at h
  split at h
  · next hwinusb => exact .inl (List.isPrefixOf_iff_prefix.mp hwinusb)
  · split at h
    · next hlibusb => exact .inr (List.isPrefixOf_iff_prefix.mp hlibusb)
    · cases h

/-! ## The parsed location -/

/-- The location is the one of libusb with this bus and these ports. -/
structure Selects (location : UsbAdapterLocation) (bus : UInt8) (ports : List UInt8) : Prop where
  backend : location.backend = .libusb
  bus : location.libusbBus = bus
  portCount : location.libusbPortCount = ports.length
  ports : location.libusbPorts.toList.take location.libusbPortCount = ports

theorem selects_ofLibusb (bus : UInt8) {ports : List UInt8}
    (h : ports.length ≤ usbAdapterLocationMaxPorts) : Selects (ofLibusb bus ports) bus ports where
  backend := rfl
  bus := rfl
  portCount := rfl
  ports := by
    refine List.ext_getElem ?_ fun index hleft hright => ?_
    · simpa [ofLibusb] using Nat.min_eq_left h
    · simp [ofLibusb, hright]

/-! ## The printed selector -/

theorem writePorts_cons (port : UInt8) (ports : List UInt8) :
    writePorts (port :: ports) =
      writeUint port.toNat ++ ports.flatMap fun port => 0x2E :: writeUint port.toNat := by
  have hlater : ∀ (ports : List UInt8) (k : Nat),
      ((ports.zipIdx (k + 1)).flatMap fun entry =>
        (if entry.2 > 0 then [0x2E] else []) ++ writeUint entry.1.toNat) =
      ports.flatMap fun port => 0x2E :: writeUint port.toNat := by
    intro ports
    induction ports with
    | nil => exact fun _ => rfl
    | cons port ports ih =>
      intro k
      rw [List.zipIdx_cons, List.flatMap_cons, List.flatMap_cons, ih (k + 1)]
      rfl
  rw [writePorts, List.zipIdx_cons, List.flatMap_cons, hlater]
  rfl

/-- Printed ports are a path. -/
theorem portPath_writePorts {ports : List UInt8} (hne : ports ≠ [])
    (hports : ∀ port ∈ ports, port ≠ 0) : PortPath (writePorts ports) ports := by
  induction ports with
  | nil => exact absurd rfl hne
  | cons port ports ih =>
    obtain ⟨hport, hports⟩ := List.forall_mem_cons.mp hports
    have hfirst : Octet (writeUint port.toNat) port := octet_printUnsigned hport
    rw [writePorts_cons]
    cases ports with
    | nil => simpa using Separated.one hfirst
    | cons next ports =>
      have hrest := ih (by simp) hports
      rw [writePorts_cons] at hrest
      exact .more hfirst hrest

theorem space_not_mem_octet {text : List UInt8} {n : UInt8} (h : Octet text n) :
    ∀ c ∈ text, c ≠ 0x20 := by
  intro c hc hspace
  have hplain := plain_of_digit (h.digits c hc)
  rw [hspace] at hplain
  exact absurd hplain.1 (by decide)

/-- Up to its first space, the printed selector is the libusb text of its device. -/
theorem writeSelector_takeWhile {bus : UInt8} (hbus : bus ≠ 0) (descriptor : DeviceDescriptor)
    {ports : List UInt8} (hne : ports ≠ []) (hports : ∀ port ∈ ports, port ≠ 0)
    (hlength : ports.length ≤ usbAdapterLocationMaxPorts) :
    ∃ text, (writeSelector bus descriptor ports).takeWhile (· ≠ 0x20) = bytes "libusb:" ++ text ∧
      LibusbText text bus ports := by
  have hpath := portPath_writePorts hne hports
  have hoctet : Octet (writeUint bus.toNat) bus := octet_printUnsigned hbus
  refine ⟨writeUint bus.toNat ++ 0x3A :: writePorts ports, ?_,
    ⟨_, _, rfl, hoctet, hpath⟩, List.length_pos_iff.mpr hne, hlength⟩
  have hsplit : writeSelector bus descriptor ports =
      (bytes "libusb:" ++ (writeUint bus.toNat ++ 0x3A :: writePorts ports)) ++
        0x20 :: (writeDescriptor descriptor).tail := by
    unfold writeSelector
    simp only [List.append_assoc, List.cons_append, List.nil_append]
    rfl
  have hkind : ∀ c ∈ bytes "libusb:", c ≠ 0x20 := by decide +kernel
  have hplain : ∀ c ∈ bytes "libusb:" ++ (writeUint bus.toNat ++ 0x3A :: writePorts ports),
      decide (c ≠ 0x20) = true := by
    intro c hc
    rw [decide_eq_true_eq]
    rcases List.mem_append.mp hc with hc | hc
    · exact hkind c hc
    · rcases List.mem_append.mp hc with hc | hc
      · exact space_not_mem_octet hoctet c hc
      · rcases List.mem_cons.mp hc with rfl | hc
        · decide
        · exact hpath.forall_mem (by decide) (fun _ _ h => space_not_mem_octet h) c hc
  rw [hsplit, List.takeWhile_append_of_pos hplain, List.takeWhile_cons_of_neg (by decide),
    List.append_nil]

/-- **The selectors of a USB adapter.** The texts that are accepted, what is parsed from them, and
what is parsed from a printed selector. -/
theorem parse_selectors :
    (∀ rest, (parse (bytes "libusb:" ++ rest)).1 = .ok ↔ ∃ bus ports, LibusbText rest bus ports) ∧
    (∀ rest bus ports, LibusbText rest bus ports →
      Selects (parse (bytes "libusb:" ++ rest)).2 bus ports) ∧
    (∀ rest, (parse (bytes "winusb:" ++ rest)).1 = .ok ↔ rest ≠ []) ∧
    (∀ rest, rest ≠ [] → (parse (bytes "winusb:" ++ rest)).2 =
      { zero with backend := .winusb, winusbLocationPath := some rest }) ∧
    (∀ text, (parse text).1 = .ok → bytes "winusb:" <+: text ∨ bytes "libusb:" <+: text) ∧
    (∀ text, (parse text).1 ≠ .ok → (parse text).2 = zero) ∧
    (∀ (bus : UInt8) (descriptor : DeviceDescriptor) (ports : List UInt8), bus ≠ 0 →
      ports ≠ [] → ports.length ≤ usbAdapterLocationMaxPorts → (∀ port ∈ ports, port ≠ 0) →
      let selector := (writeSelector bus descriptor ports).takeWhile (· ≠ 0x20)
      (parse selector).1 = .ok ∧ Selects (parse selector).2 bus ports) := by
  have hlibusb : ∀ rest bus ports, LibusbText rest bus ports →
      parse (bytes "libusb:" ++ rest) = (.ok, ofLibusb bus ports) := by
    intro rest bus ports htext
    rw [parse_libusb, parseLibusb_libusbText htext]
  refine ⟨fun rest => ⟨libusbText_of_parseLibusb, ?_⟩, fun rest bus ports htext => ?_, fun rest => ?_,
    fun rest hne => ?_, fun text => hasPrefix_of_parse, fun text => parse_refused,
    fun bus descriptor ports hbus hne hlength hports => ?_⟩
  · rintro ⟨bus, ports, htext⟩
    rw [hlibusb rest bus ports htext]
  · rw [hlibusb rest bus ports htext]
    exact selects_ofLibusb bus htext.length_le
  · rw [parse_winusb]
    by_cases hrest : rest = [] <;> simp [hrest]
  · rw [parse_winusb, if_neg hne]
  · intro selector
    obtain ⟨text, hselector, htext⟩ :=
      writeSelector_takeWhile hbus descriptor hne hports hlength
    have hparse : parse selector = (.ok, ofLibusb bus ports) := by
      rw [show selector = bytes "libusb:" ++ text from hselector, hlibusb text bus ports htext]
    rw [hparse]
    exact ⟨rfl, selects_ofLibusb bus hlength⟩

end UsbAdapterLocation

end Swbt
