import HidJoystick.State

/-!
# The USB descriptors

The configuration descriptor the firmware hands out and searches itself
(`udi_hid_generic_desc.c`, `udi_hid_generic.h`), as the bytes the structures are
laid out to, and the two searches of `udc.c` through it. A descriptor pointer is
an offset into those bytes.
-/

namespace HidJoystick

/-! ## Descriptor types -/

/-- `USB_DT_DEVICE` -/
abbrev usbDtDevice : Byte := 1

/-- `USB_DT_CONFIGURATION` -/
abbrev usbDtConfiguration : Byte := 2

/-- `USB_DT_STRING` -/
abbrev usbDtString : Byte := 3

/-- `USB_DT_INTERFACE` -/
abbrev usbDtInterface : Byte := 4

/-- `USB_DT_ENDPOINT` -/
abbrev usbDtEndpoint : Byte := 5

/-- `USB_DT_BOS` -/
abbrev usbDtBos : Byte := 0x0F

/-- `USB_DT_HID` -/
abbrev usbDtHid : Byte := 0x21

/-! ## The descriptors -/

/-- `udi_hid_generic_report_desc` -/
def udiHidGenericReportDesc : List Byte :=
  [0x05, 0x01,        -- Usage Page (Generic Desktop)
   0x09, 0x04,        -- Usage (Joystick)
   0xA1, 0x01,        -- Collection (Application)
   0xA1, 0x00,        -- Collection (Physical)
   0x05, 0x01,        -- Usage Page (Generic Desktop)
   0x09, 0x30,        -- Usage (X)
   0x09, 0x31,        -- Usage (Y)
   0x15, 0x00,        -- Logical Minimum (0)
   0x26, 0xFF, 0x00,  -- Logical Maximum (255)
   0x75, 0x08,        -- Report Size (8 bits)
   0x95, 0x02,        -- Report Count (2)
   0x81, 0x02,        -- Input (Data,Var,Abs)
   0xC0,              -- End Collection
   0xC0]              -- End Collection

/-- `udc_desc`: configuration, interface, HID and endpoint descriptor in a row. -/
def udcDesc : List Byte :=
  [ -- conf: one interface, value 1, remote wakeup, bus powered, 100 mA
   9, usbDtConfiguration, 34, 0, 1, 1, 0, 0xA0, 50,
   -- hid_generic.iface: interface 0, setting 0, one endpoint, HID class
   9, usbDtInterface, 0, 0, 1, 3, 0, 0, 0,
   -- hid_generic.hid: V1.11, one report descriptor of 27 bytes
   9, usbDtHid, 0x11, 0x01, 0, 1, 0x22, 27, 0,
   -- hid_generic.ep_in: EP 0x81, interrupt, 8 bytes, every 4 ms
   7, usbDtEndpoint, 0x81, 3, 8, 0, 4]

/-- A byte of the configuration descriptor. -/
def udcDescByte (i : ℕ) : Byte := udcDesc.getD i 0

/-- A little-endian word of the configuration descriptor. -/
def udcDescWord (i : ℕ) : Word :=
  ((udcDescByte (i + 1)).setWidth 16 <<< 8) ||| (udcDescByte i).setWidth 16

/-- `bLength` of the descriptor at `desc` -/
def descBLength (desc : ℕ) : ℕ := (udcDescByte desc).toNat

/-- `bDescriptorType` of the descriptor at `desc` -/
def descBDescriptorType (desc : ℕ) : Byte := udcDescByte (desc + 1)

/-- `conf.wTotalLength` -/
def confWTotalLength : Word := udcDescWord 2

/-- `conf.bNumInterfaces` -/
def confBNumInterfaces : Byte := udcDescByte 4

/-- `udc_device_desc.bLength` -/
def udcDeviceDescBLength : Word := 18

/-- `udc_device_desc.bNumConfigurations` -/
def udcDeviceDescBNumConfigurations : Byte := 1

/-! ## Searching -/

/-- `udc_get_eof_conf` -/
def udcGetEofConf : ℕ := confWTotalLength.toNat

/-- The loop of `udc_next_desc_in_iface`, with the length of the descriptor as
fuel: every step advances. -/
def udcNextDescLoop (descId : Byte) : ℕ → ℕ → Option ℕ
  | 0, _ => none
  | fuel + 1, desc =>
    if desc < udcGetEofConf then
      if descBDescriptorType desc = usbDtInterface then none
      else if descId = descBDescriptorType desc then some desc
      else udcNextDescLoop descId fuel (desc + descBLength desc)
    else none

/-- `udc_next_desc_in_iface` -/
def udcNextDescInIface (desc : ℕ) (descId : Byte) : Option ℕ :=
  udcNextDescLoop descId udcGetEofConf (desc + descBLength desc)

/-- The loop of `udc_update_iface_desc`: whether the setting was found, and where
`udc_ptr_iface` is left. -/
def udcUpdateIfaceLoop (ifaceNum settingNum : Byte) : ℕ → ℕ → Bool × ℕ
  | 0, ptr => (false, ptr)
  | fuel + 1, ptr =>
    if ptr < udcGetEofConf then
      if descBDescriptorType ptr = usbDtInterface ∧
          ifaceNum = udcDescByte (ptr + 2) ∧ settingNum = udcDescByte (ptr + 3) then
        (true, ptr)
      else udcUpdateIfaceLoop ifaceNum settingNum fuel (ptr + descBLength ptr)
    else (false, ptr)

/-- `udc_update_iface_desc` -/
def udcUpdateIfaceDesc (ifaceNum settingNum : Byte) (s : Firmware) : Bool × Firmware :=
  if s.udcNumConfiguration = 0 then (false, s)
  else if ifaceNum ≥ confBNumInterfaces then (false, s)
  else
    let (found, ptr) := udcUpdateIfaceLoop ifaceNum settingNum udcGetEofConf 0
    (found, { s with udcPtrIface := ptr })

/-! ## What the searches find -/

theorem udcGetEofConf_eq : udcGetEofConf = 34 := by decide

theorem confBNumInterfaces_eq : confBNumInterfaces = 1#8 := by decide

/-- Where the four descriptors begin and end. -/
theorem udcDesc_layout :
    0 + descBLength 0 = 9 ∧ 9 + descBLength 9 = 18 ∧ 18 + descBLength 18 = 27 ∧
      27 + descBLength 27 = 34 := by decide

/-- The only endpoint descriptor of the interface. -/
theorem udcNextDescInIface_iface : udcNextDescInIface 9 usbDtEndpoint = some 27 := by decide

/-- It is the last descriptor. -/
theorem udcNextDescInIface_ep : udcNextDescInIface 27 usbDtEndpoint = none := by decide

/-- The interface search passes over a descriptor of another type. -/
theorem udcUpdateIfaceLoop_skip {ifaceNum settingNum : Byte} {fuel ptr : ℕ}
    (hptr : ptr < udcGetEofConf) (htype : descBDescriptorType ptr ≠ usbDtInterface) :
    udcUpdateIfaceLoop ifaceNum settingNum (fuel + 1) ptr =
      udcUpdateIfaceLoop ifaceNum settingNum fuel (ptr + descBLength ptr) := by
  rw [udcUpdateIfaceLoop, if_pos hptr, if_neg fun h => htype h.1]

/-- The interface search over the four descriptors: the second is the interface,
the others are passed over. -/
theorem udcUpdateIfaceLoop_eq (ifaceNum settingNum : Byte) :
    udcUpdateIfaceLoop ifaceNum settingNum udcGetEofConf 0 =
      if ifaceNum = 0 ∧ settingNum = 0 then (true, 9) else (false, 34) := by
  have hiface : descBDescriptorType 9 = usbDtInterface ∧
      udcDescByte (9 + 2) = 0 ∧ udcDescByte (9 + 3) = 0 := by decide
  obtain ⟨hconf, hnext, hhid, hep⟩ := udcDesc_layout
  rw [udcGetEofConf_eq, udcUpdateIfaceLoop_skip (by decide) (by decide), hconf, udcUpdateIfaceLoop,
    if_pos (by decide), hiface.1, hiface.2.1, hiface.2.2]
  by_cases h : ifaceNum = 0 ∧ settingNum = 0
  · rw [if_pos ⟨rfl, h⟩, if_pos h]
  · -- the HID and the endpoint descriptor are left to pass over
    rw [if_neg fun h' => h h'.2, if_neg h, hnext, udcUpdateIfaceLoop_skip (by decide) (by decide),
      hhid, udcUpdateIfaceLoop_skip (by decide) (by decide), hep, udcUpdateIfaceLoop,
      if_neg (by decide)]

/-- **Interface lookup**: in the configured state interface 0, setting 0 is found
right behind the configuration descriptor; no other setting exists. -/
theorem udcUpdateIfaceDesc_eq (ifaceNum settingNum : Byte) (s : Firmware) :
    udcUpdateIfaceDesc ifaceNum settingNum s =
      if s.udcNumConfiguration = 0 ∨ ifaceNum ≠ 0 then (false, s)
      else if settingNum = 0 then (true, { s with udcPtrIface := 9 })
      else (false, { s with udcPtrIface := 34 }) := by
  have hge : ifaceNum ≥ confBNumInterfaces ↔ ifaceNum ≠ 0 := by
    rw [confBNumInterfaces_eq]
    bv_omega
  rw [udcUpdateIfaceDesc, udcUpdateIfaceLoop_eq]
  by_cases hconf : s.udcNumConfiguration = 0
  · rw [if_pos hconf, if_pos (Or.inl hconf)]
  · by_cases hnum : ifaceNum = 0
    · have hin : ¬ ifaceNum ≥ confBNumInterfaces := fun h => hge.mp h hnum
      rw [if_neg hconf, if_neg hin, if_neg (not_or.mpr ⟨hconf, not_not.mpr hnum⟩)]
      by_cases hset : settingNum = 0
      · rw [if_pos hset, if_pos ⟨hnum, hset⟩]
      · rw [if_neg hset, if_neg fun h => hset h.2]
    · rw [if_neg hconf, if_pos (hge.mpr hnum), if_pos (Or.inr hnum)]

end HidJoystick
