import Droidlogic.Lib.Run
import Droidlogic.Pq.Source

set_option autoImplicit false

namespace Droidlogic.Pq.Hdr

open Droidlogic.Lib

def vppMatrixNull : Int32 := 0
def vppMatrixBt2020 : Int32 := 0x40
def vppMatrixDefaultCsctype : Int32 := 0xffff

-- What the devices answer during one call. An ioctl that fails answers none, and
-- an output mode "null" leaves mOutPutType as it is.
structure Devices where
  cscType : Option Int32
  outputType : Option Int
deriving DecidableEq

inductive Reload
  | none
  | pqSettings
  | displayMode
deriving DecidableEq

structure Control where
  current : SourceInputParam
  hdmiHdrInfo : UInt32
  dbHdrStatus : Bool
  dbOutputType : Int
  currentHdrStatus : Bool
  currentOutputType : Int
  paramCheckSource : Bool
  sourceForSave : Source
deriving DecidableEq

def outputTypeLvds : Int := -1

def Control.init (paramCheckSource : Bool) : Control :=
  ⟨⟨.mpeg, tvinSigFmtHdmi1920x1080p60hz, 0⟩, 0, false, outputTypeLvds, false, outputTypeLvds, paramCheckSource, .mpeg⟩

def setCurrentHdrInfo (s : Control) (hdrInfo : UInt32) : Control := { s with hdmiHdrInfo := hdrInfo }

def getHDRMode (s : Control) (devices : Devices) : Int32 :=
  if s.current.sourceInput = .mpeg ∨ s.current.sourceInput.IsHdmi then devices.cscType.getD vppMatrixNull
  else vppMatrixNull

def checkOutPutMode (s : Control) (devices : Devices) : Control :=
  { s with dbOutputType := devices.outputType.getD s.dbOutputType }

-- The first part of SetCurrentSourceInputInfo.
def checkHdr (s : Control) (param : SourceInputParam) (devices : Devices) : Control :=
  if param.sourceInput = .mpeg then
    let hdrMode := getHDRMode s devices
    { s with dbHdrStatus := decide (vppMatrixBt2020 ≤ hdrMode ∧ hdrMode ≠ vppMatrixDefaultCsctype) }
  else if param.sourceInput.IsHdmi then
    { s with dbHdrStatus := decide ((s.hdmiHdrInfo >>> 29) &&& 1 = 1) }
  else s

def Control.Differs (s : Control) (param : SourceInputParam) : Prop :=
  s.current ≠ param ∨ s.currentHdrStatus ≠ s.dbHdrStatus ∨ s.currentOutputType ≠ s.dbOutputType

instance (s : Control) (param : SourceInputParam) : Decidable (s.Differs param) :=
  inferInstanceAs (Decidable (_ ∨ _ ∨ _))

def setCurrentSourceInputInfo (s : Control) (param : SourceInputParam) (devices : Devices) : Reload × Control :=
  let s := checkOutPutMode (checkHdr s param devices) devices
  if s.Differs param then
    (if param.sigFmt ≠ tvinSigFmtNull then .pqSettings else .displayMode,
      { s with
        current := param
        currentHdrStatus := s.dbHdrStatus
        currentOutputType := s.dbOutputType
        sourceForSave := if s.paramCheckSource then param.sourceInput else .mpeg })
  else (.none, s)

-- hdrRows counts the rows a general table has for TVIN_SIG_FMT_HDMI_HDR.
def checkHdrStatus {Table : Type} (hdrRows : Table → Nat) (s : Control) (tableName : Table) : Bool :=
  s.dbHdrStatus && decide (0 < hdrRows tableName)

inductive Call
  | setCurrentHdrInfo (hdrInfo : UInt32)
  | setCurrentSourceInputInfo (param : SourceInputParam) (devices : Devices)
deriving DecidableEq

def step (s : Control) : Call → Option Control
  | .setCurrentHdrInfo hdrInfo => some (setCurrentHdrInfo s hdrInfo)
  | .setCurrentSourceInputInfo param devices => some (setCurrentSourceInputInfo s param devices).2

-- The driver reports BT.2020 or a later type that is not the default one.
def ReportsHdr (type : Int32) : Prop := vppMatrixBt2020 ≤ type ∧ type ≠ vppMatrixDefaultCsctype

instance (type : Int32) : Decidable (ReportsHdr type) := inferInstanceAs (Decidable (_ ∧ _))

def HdrBit (hdrInfo : UInt32) : Prop := (hdrInfo >>> 29) &&& 1 = 1

instance (hdrInfo : UInt32) : Decidable (HdrBit hdrInfo) := inferInstanceAs (Decidable (_ = _))

def Expected (s : Control) (param : SourceInputParam) (devices : Devices) : Prop :=
  (param.sourceInput.IsHdmi ∧ HdrBit s.hdmiHdrInfo) ∨
    (param.sourceInput = .mpeg ∧ ∃ type, devices.cscType = some type ∧ ReportsHdr type)

-- The flag after a source change, and with it that no HDR table serves a source without HDR.
def Follows (s : Control) (call : Call) (next : Control) : Prop :=
  match call with
  | .setCurrentHdrInfo _ => True
  | .setCurrentSourceInputInfo param devices =>
      (next.dbHdrStatus = true ↔ Expected s param devices) ∧
        (¬ param.sourceInput.IsHdmi → param.sourceInput ≠ .mpeg →
          ∀ (hdrRows : Nat → Nat) (tableName : Nat), checkHdrStatus hdrRows next tableName = false)

-- The source is one the code looks at again, or the stale answer happens to be the right one.
def Rechecked (s : Control) (call : Call) (_ : Control) : Prop :=
  match call with
  | .setCurrentHdrInfo _ => True
  | .setCurrentSourceInputInfo param devices =>
      if param.sourceInput.IsHdmi then True
      else if param.sourceInput = .mpeg then
        s.current.sourceInput = .mpeg ∨ s.current.sourceInput.IsHdmi ∨
          ∀ type ∈ devices.cscType, ¬ ReportsHdr type
      else s.dbHdrStatus = false

theorem mpeg_not_hdmi : ¬ Source.IsHdmi .mpeg := by decide

theorem null_not_reported : ¬ ReportsHdr vppMatrixNull := by decide

theorem status_after (s : Control) (param : SourceInputParam) (devices : Devices) :
    (setCurrentSourceInputInfo s param devices).2.dbHdrStatus = (checkHdr s param devices).dbHdrStatus := by
  simp only [setCurrentSourceInputInfo]
  split <;> rfl

theorem hdmi_status (s : Control) (param : SourceInputParam) (devices : Devices) (hdmi : param.sourceInput.IsHdmi) :
    (checkHdr s param devices).dbHdrStatus = true ↔ HdrBit s.hdmiHdrInfo := by
  have notMpeg : param.sourceInput ≠ .mpeg := fun same => mpeg_not_hdmi (same ▸ hdmi)
  rw [checkHdr, if_neg notMpeg, if_pos hdmi]
  exact decide_eq_true_iff

theorem mpeg_status (s : Control) (param : SourceInputParam) (devices : Devices) (mpeg : param.sourceInput = .mpeg) :
    (checkHdr s param devices).dbHdrStatus = true ↔
      (s.current.sourceInput = .mpeg ∨ s.current.sourceInput.IsHdmi) ∧
        ∃ type, devices.cscType = some type ∧ ReportsHdr type := by
  rw [checkHdr, if_pos mpeg]
  have asked : decide (vppMatrixBt2020 ≤ getHDRMode s devices ∧ getHDRMode s devices ≠ vppMatrixDefaultCsctype) = true ↔
      ReportsHdr (getHDRMode s devices) := decide_eq_true_iff
  refine asked.trans ?_
  by_cases watched : s.current.sourceInput = .mpeg ∨ s.current.sourceInput.IsHdmi
  · rw [getHDRMode, if_pos watched]
    cases devices.cscType with
    | none => simpa [watched] using null_not_reported
    | some type => simp [watched]
  · rw [getHDRMode, if_neg watched]
    exact ⟨fun hdr => absurd hdr null_not_reported, fun both => absurd both.1 watched⟩

theorem other_status (s : Control) (param : SourceInputParam) (devices : Devices)
    (notHdmi : ¬ param.sourceInput.IsHdmi) (notMpeg : param.sourceInput ≠ .mpeg) :
    (checkHdr s param devices).dbHdrStatus = s.dbHdrStatus := by
  rw [checkHdr, if_neg notMpeg, if_neg notHdmi]

theorem expected_mpeg (s : Control) (param : SourceInputParam) (devices : Devices) (mpeg : param.sourceInput = .mpeg) :
    Expected s param devices ↔ ∃ type, devices.cscType = some type ∧ ReportsHdr type := by
  have notHdmi : ¬ param.sourceInput.IsHdmi := mpeg ▸ mpeg_not_hdmi
  exact ⟨fun expected => expected.elim (fun hdmi => absurd hdmi.1 notHdmi) And.right, fun hdr => .inr ⟨mpeg, hdr⟩⟩

theorem mpeg_follows_iff (s : Control) (param : SourceInputParam) (devices : Devices) (mpeg : param.sourceInput = .mpeg) :
    ((checkHdr s param devices).dbHdrStatus = true ↔ Expected s param devices) ↔
      (s.current.sourceInput = .mpeg ∨ s.current.sourceInput.IsHdmi ∨ ∀ type ∈ devices.cscType, ¬ ReportsHdr type) := by
  rw [mpeg_status s param devices mpeg, expected_mpeg s param devices mpeg]
  constructor
  · intro same
    by_cases reported : ∃ type, devices.cscType = some type ∧ ReportsHdr type
    · exact or_assoc.mp (.inl (same.mpr reported).1)
    · exact .inr (.inr fun type found hdr => reported ⟨type, found, hdr⟩)
  · rintro (watched | watched | silent)
    · exact ⟨And.right, fun reported => ⟨.inl watched, reported⟩⟩
    · exact ⟨And.right, fun reported => ⟨.inr watched, reported⟩⟩
    · exact ⟨And.right, fun ⟨type, found, hdr⟩ => absurd hdr (silent type found)⟩

theorem other_follows_iff (s : Control) (param : SourceInputParam) (devices : Devices)
    (notHdmi : ¬ param.sourceInput.IsHdmi) (notMpeg : param.sourceInput ≠ .mpeg) :
    ((checkHdr s param devices).dbHdrStatus = true ↔ Expected s param devices) ↔ s.dbHdrStatus = false := by
  have unexpected : ¬ Expected s param devices := fun expected =>
    expected.elim (fun hdmi => notHdmi hdmi.1) fun mpeg => notMpeg mpeg.1
  rw [other_status s param devices notHdmi notMpeg, iff_false_right unexpected, Bool.not_eq_true]

theorem input_follows_iff (s : Control) (param : SourceInputParam) (devices : Devices) (next : Control) :
    Follows s (.setCurrentSourceInputInfo param devices) (setCurrentSourceInputInfo s param devices).2 ↔
      Rechecked s (.setCurrentSourceInputInfo param devices) next := by
  simp only [Follows, Rechecked, checkHdrStatus, status_after]
  by_cases hdmi : param.sourceInput.IsHdmi
  · have notMpeg : param.sourceInput ≠ .mpeg := fun same => mpeg_not_hdmi (same ▸ hdmi)
    simp [hdmi_status s param devices hdmi, Expected, hdmi, notMpeg]
  · rw [if_neg hdmi]
    by_cases mpeg : param.sourceInput = .mpeg
    · rw [if_pos mpeg, ← mpeg_follows_iff s param devices mpeg]
      exact and_iff_left fun _ notMpeg => absurd mpeg notMpeg
    · rw [if_neg mpeg, other_follows_iff s param devices hdmi mpeg, other_status s param devices hdmi mpeg]
      exact and_iff_left_of_imp fun clear _ _ _ _ => by rw [clear, Bool.false_and]

theorem follows_source_iff (s : Control) (calls : List Call) :
    Along step Follows s calls ↔ Along step Rechecked s calls := by
  apply along_iff step (fun _ => True) Follows Rechecked
  · exact fun _ _ _ _ _ _ => trivial
  · intro state call next _ taken
    cases call with
    | setCurrentHdrInfo hdrInfo => exact Iff.rfl
    | setCurrentSourceInputInfo param devices =>
        cases Option.some.inj taken
        exact input_follows_iff state param devices _
  · trivial

-- An HDR picture from HDMI1 and then the analog tuner.
def hdmiThenTv : List Call :=
  [.setCurrentHdrInfo 0x20000000, .setCurrentSourceInputInfo ⟨.hdmi1, tvinSigFmtHdmi1920x1080p60hz, 0⟩ ⟨none, none⟩,
    .setCurrentSourceInputInfo ⟨.tv, tvinSigFmtCvbsNtscM, 0⟩ ⟨none, none⟩]

theorem tv_keeps_hdr : ¬ Along step Follows (Control.init true) hdmiThenTv := by
  intro holds
  have afterTv := (((holds _ rfl).2 _ rfl).2 _ rfl).1
  rcases afterTv.1.mp rfl with hdmi | mpeg
  · exact absurd hdmi.1 (by decide)
  · exact absurd mpeg.1 (by decide)

end Droidlogic.Pq.Hdr
