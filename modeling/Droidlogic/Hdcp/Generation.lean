import Droidlogic.Hdcp.Firmware

set_option autoImplicit false

namespace Droidlogic.Hdcp

open Droidlogic.Lib

-- A key in the packed format; every other key is the block itself.
def ArmKey (key : Bytes) : Prop :=
  key.length ≤ keyMaxSize ∧ (key.drop 8).take 8 = amlResImgV1Magic ∧
    word32 key = wordSum (key.drop 4)

instance (key : Bytes) : Decidable (ArmKey key) := inferInstanceAs (Decidable (_ ∧ _ ∧ _))

-- What the tools are to make of a packed key.
structure Tools where
  derive : Bytes → Bytes
  sized : ∀ key, (derive key).length = hdcpRxRp222080ByteSize

def block (tools : Tools) (key : Bytes) : Bytes :=
  if ArmKey key then tools.derive key
  else key.take hdcpRxRp222080ByteSize ++ zeros (hdcpRxRp222080ByteSize - key.length)

def firmware (board : Board) (tools : Tools) (key : Bytes) : Bytes :=
  splice board.source insertOffset (block tools key)

@[simp] theorem zeros_length (size : Nat) : (zeros size).length = size := List.length_replicate

theorem block_length (tools : Tools) (key : Bytes) : (block tools key).length = hdcpRxRp222080ByteSize := by
  rw [block]
  by_cases arm : ArmKey key
  · rw [if_pos arm, tools.sized]
  · rw [if_neg arm, List.length_append, List.length_take, zeros_length]
    omega

theorem splice_inside (bytes source : Bytes) (offset : Nat) (room : offset + source.length ≤ bytes.length) :
    splice bytes offset source = bytes.take offset ++ source ++ bytes.drop (offset + source.length) := by
  have nothing : offset - bytes.length = 0 := by omega
  rw [splice, nothing, List.replicate_zero, List.append_nil]

theorem firmware_length (board : Board) (tools : Tools) (key : Bytes) :
    (firmware board tools key).length = board.source.length := by
  have room : insertOffset + (block tools key).length ≤ board.source.length := by
    rw [block_length]
    exact board.large
  rw [firmware, splice_inside _ _ _ room]
  simp only [List.length_append, List.length_take, List.length_drop]
  omega

theorem insert_block_splice (srcData insertData : Bytes) (room : insertOffset + insertData.length ≤ srcData.length) :
    insertBlock srcData insertData = some (splice srcData insertOffset insertData) := by
  have fits : insertOffset + insertData.length ≤ (srcData ++ [0]).length := by
    rw [List.length_append]
    omega
  have start : insertOffset ≤ srcData.length := by omega
  have image : (srcData.take insertOffset ++ insertData ++ srcData.drop (insertOffset + insertData.length)).length =
      srcData.length := by
    simp only [List.length_append, List.length_take, List.length_drop]
    omega
  rw [insertBlock, overwrite, if_pos fits, splice_inside _ _ _ room, List.take_append_of_le_length start,
    List.drop_append_of_le_length room, ← List.append_assoc]
  exact congrArg some (List.take_left' image)

theorem load_file_small (content : Bytes) (small : content.length < 2 ^ 31 - 1) : loadFile content = .bytes content := by
  have length : (UInt32.ofNat content.length).toNat = content.length :=
    UInt32.toNat_ofNat_of_lt' (Nat.lt_trans small (by decide))
  have size : fileSize content = content.length := by
    rw [fileSize, word_to_int _ (by omega), length]
  have ordinary : ¬ ((content.length : Int) = 2147483647 ∨ (content.length : Int) = -1) := by omega
  have positive : ¬ (content.length : Int) < 0 := by omega
  simp only [loadFile, size]
  rw [if_neg ordinary, if_neg positive, Int.toNat_natCast, List.take_length]

theorem pc_block (stored : Bytes) :
    readSys (some stored) (zeros hdcpRxRp222080ByteSize) hdcpRxRp222080ByteSize =
      stored.take hdcpRxRp222080ByteSize ++ zeros (hdcpRxRp222080ByteSize - stored.length) := by
  have rest : hdcpRxRp222080ByteSize - (stored.take hdcpRxRp222080ByteSize).length =
      hdcpRxRp222080ByteSize - stored.length := by
    rw [List.length_take]
    omega
  simp only [readSys, zeros, List.drop_replicate, rest]

theorem magic_reach (key : Bytes) (pad : Nat) (magic : ((key ++ zeros pad).drop 8).take 8 = amlResImgV1Magic) :
    16 ≤ key.length := by
  by_contra short
  have last := congrArg (fun bytes : Bytes => bytes.getD 7 0) magic
  rw [get_d_take, if_pos (by decide)] at last
  have silent : ((key ++ zeros pad).drop 8).getD 7 0 = 0 := by
    rw [List.getD_eq_getElem?_getD, List.getElem?_drop, List.getElem?_append_right (by omega), zeros,
      List.getElem?_replicate]
    by_cases inside : 8 + 7 - key.length < pad
    · rw [if_pos inside]
      rfl
    · rw [if_neg inside]
      rfl
  rw [silent] at last
  exact absurd last (by decide)

theorem magic_padded (key : Bytes) (pad : Nat) :
    ((key ++ zeros pad).drop 8).take 8 = amlResImgV1Magic ↔ (key.drop 8).take 8 = amlResImgV1Magic := by
  have same (long : 16 ≤ key.length) : ((key ++ zeros pad).drop 8).take 8 = (key.drop 8).take 8 := by
    rw [List.drop_append_of_le_length (by omega), List.take_append_of_le_length (by rw [List.length_drop]; omega)]
  constructor
  · intro magic
    exact (same (magic_reach key pad magic)) ▸ magic
  · intro magic
    have whole : ((key ++ zeros 0).drop 8).take 8 = amlResImgV1Magic := by
      rw [zeros, List.replicate_zero, List.append_nil]
      exact magic
    exact (same (magic_reach key 0 whole)).trans magic

theorem sum_padded (key : Bytes) (pad : Nat) (long : 4 ≤ key.length) :
    addSum ((key ++ zeros pad).drop 4) (key.length - 4) 0 = wordSum (key.drop 4) := by
  have body : (key.drop 4).length = key.length - 4 := List.length_drop
  rw [List.drop_append_of_le_length long, add_sum_spec _ _ _ (by rw [List.length_append]; omega),
    List.take_left' body, UInt32.zero_add]

theorem word_padded (key : Bytes) (pad : Nat) (long : 4 ≤ key.length) : word32 (key ++ zeros pad) = word32 key := by
  rw [← word32_take_four, List.take_append_of_le_length long, word32_take_four]

theorem unpack_items_arm (pass : Pass) (inBuf : Bytes) (left i : Nat) :
    unpackItems pass inBuf left i ≠ some .pcTool := by
  induction left generalizing i with
  | zero => nofun
  | succ left ih =>
      rw [unpackItems]
      split
      · nofun
      · simp only
        split
        · nofun
        · split
          · split
            · nofun
            · split
              · nofun
              · exact ih (i + 1)
          · exact ih (i + 1)

-- The tool that is chosen is the one for the key's format.
theorem unpack_tool (pass : Pass) (key : Bytes) (pad : Nat) (long : 4 ≤ key.length) :
    (hdcpKeyUnpack pass (key ++ zeros pad) key.length = some .armTool → ArmKey key) ∧
      (hdcpKeyUnpack pass (key ++ zeros pad) key.length = some .pcTool → ¬ ArmKey key) := by
  simp only [hdcpKeyUnpack, ArmKey]
  by_cases foreign : ((key ++ zeros pad).drop 8).take 8 ≠ amlResImgV1Magic
  · have noMagic : (key.drop 8).take 8 ≠ amlResImgV1Magic := fun magic => foreign ((magic_padded key pad).mpr magic)
    rw [if_pos foreign]
    refine ⟨?_, fun _ arm => noMagic arm.2.1⟩
    split <;> nofun
  · have magic := (magic_padded key pad).mp (Decidable.of_not_not foreign)
    rw [if_neg foreign]
    have crc : (imgHead (key ++ zeros pad)).crc = word32 key := word_padded key pad long
    rw [crc, sum_padded key pad long]
    by_cases other : word32 key ≠ wordSum (key.drop 4)
    · rw [if_pos other]
      exact ⟨nofun, fun _ arm => other arm.2.2⟩
    · have sum := Decidable.of_not_not other
      rw [if_neg other]
      by_cases big : keyMaxSize < key.length
      · rw [if_pos big]
        exact ⟨nofun, nofun⟩
      · rw [if_neg big]
        by_cases noAic : pass.aicPresent = false
        · rw [if_pos noAic]
          exact ⟨nofun, nofun⟩
        · rw [if_neg noAic]
          exact ⟨fun _ => ⟨Nat.le_of_not_lt big, magic, sum⟩, fun pc => absurd pc (unpack_items_arm _ _ _ _)⟩

def keyCrc (key : Bytes) : Bytes := key.take hdcpRx22KeyCrcLen

-- The saved CRC does not pass for the key's.
def Differs (board : Board) (key : Bytes) (crc : Option Bytes) : Prop :=
  crcValue board.signedChar (keyCrc key) ≠
    crcValue board.signedChar (readSys crc (zeros hdcpRx22KeyCrcLen) hdcpRx22KeyCrcLen)

instance (board : Board) (key : Bytes) (crc : Option Bytes) : Decidable (Differs board key crc) :=
  inferInstanceAs (Decidable (_ ≠ _))

def toolsRun (pass : Pass) : Bool := genKeyImg pass && esmSwap pass && aicTool pass

-- The pass comes to write the firmware for the key.
def Makes (board : Board) (tools : Tools) (pass : Pass) (unpacked : Option Unpacked) (key : Bytes) (crc : Option Bytes) :
    Prop :=
  board.source.length < 2 ^ 31 - 1 ∧
    match unpacked with
    | some .armTool => toolsRun pass = true ∧ pass.aic.output = some (tools.derive key)
    | some .pcTool => Differs board key crc
    | _ => False

-- The firmware file does not open, or no buffer holds the source.
def Unwritten (board : Board) (pass : Pass) : Prop :=
  pass.firmwareWrite = none ∨ ∀ srcData, loadFile board.source ≠ .bytes srcData

-- The pass leaves the firmware file as it is.
def Skips (board : Board) (pass : Pass) (unpacked : Option Unpacked) (key : Bytes) (crc : Option Bytes) : Prop :=
  match unpacked with
  | some .armTool => toolsRun pass = false ∨ Unwritten board pass
  | some .pcTool => ¬ Differs board key crc ∨ Unwritten board pass
  | _ => True

theorem arm_block (tools : Tools) (key : Bytes) (arm : ArmKey key) : block tools key = tools.derive key := if_pos arm

theorem combine_arm_made (board : Board) (tools : Tools) (pass : Pass) (key : Bytes) (files : Files) (bytes : Nat)
    (small : board.source.length < 2 ^ 31 - 1) (arm : ArmKey key) (write : pass.firmwareWrite = some bytes) :
    combineFirmwarewithArmTool board pass (tools.derive key) files =
      some { files with dest := some ((firmware board tools key).take bytes) } := by
  have short : (tools.derive key).length < 2 ^ 31 - 1 := by
    rw [tools.sized]
    decide
  have room : insertOffset + (tools.derive key).length ≤ board.source.length := by
    rw [tools.sized]
    exact board.large
  rw [firmware, arm_block tools key arm]
  simp only [combineFirmwarewithArmTool, load_file_small _ small, load_file_small _ short,
    insert_block_splice _ _ room, Option.map_some, write, saveFile]

theorem taken_crc (key : Bytes) : (key.take hdcpRx22StorageKeySize).take hdcpRx22KeyCrcLen = keyCrc key := by
  rw [List.take_take]
  rfl

theorem taken_long (key : Bytes) (long : hdcpRx22KeyCrcLen ≤ key.length) :
    ¬ (key.take hdcpRx22StorageKeySize).length < hdcpRx22KeyCrcLen := by
  rw [List.length_take, hdcpRx22KeyCrcLen, hdcpRx22StorageKeySize]
  rw [hdcpRx22KeyCrcLen] at long
  omega

theorem combine_pc_made (board : Board) (tools : Tools) (pass : Pass) (key : Bytes) (files : Files) (bytes : Nat)
    (held : files.stored = some key) (long : hdcpRx22KeyCrcLen ≤ key.length)
    (small : board.source.length < 2 ^ 31 - 1) (pc : ¬ ArmKey key) (differs : Differs board key files.crc)
    (write : pass.firmwareWrite = some bytes) :
    combineFirmwarewithPCTool board pass files =
      some { files with
        dest := some ((firmware board tools key).take bytes), crc := saveFile pass.crcWrite (keyCrc key) files.crc } := by
  have isBlock : block tools key = key.take hdcpRxRp222080ByteSize ++ zeros (hdcpRxRp222080ByteSize - key.length) :=
    if_neg pc
  have room : insertOffset + (block tools key).length ≤ board.source.length := by
    rw [block_length]
    exact board.large
  have inserted := insert_block_splice board.source (block tools key) room
  rw [isBlock, ← pc_block] at inserted
  simp only [combineFirmwarewithPCTool, held, if_neg (taken_long key long), taken_crc]
  rw [if_neg differs]
  simp only [load_file_small _ small, inserted, Option.map_some, write]
  rw [firmware, isBlock, ← pc_block]

theorem combine_arm_kept (board : Board) (pass : Pass) (insert : Bytes) (files after : Files)
    (unwritten : Unwritten board pass) (combined : combineFirmwarewithArmTool board pass insert files = some after) :
    after = files := by
  simp only [combineFirmwarewithArmTool] at combined
  cases source : loadFile board.source with
  | undefined => simp [source] at combined
  | noBuffer => simpa [source] using combined.symm
  | bytes srcData =>
      have closed := unwritten.resolve_right (fun none_fits => none_fits srcData source)
      cases data : loadFile insert with
      | undefined => simp [source, data] at combined
      | noBuffer => simpa [source, data] using combined.symm
      | bytes insertData =>
          simp only [source, data, closed, saveFile, Option.map_eq_some_iff] at combined
          obtain ⟨_, _, rfl⟩ := combined
          rfl

theorem combine_pc_kept (board : Board) (pass : Pass) (key : Bytes) (files after : Files)
    (held : files.stored = some key) (skips : ¬ Differs board key files.crc ∨ Unwritten board pass)
    (combined : combineFirmwarewithPCTool board pass files = some after) : after = files := by
  simp only [combineFirmwarewithPCTool, held, taken_crc] at combined
  by_cases short : (key.take hdcpRx22StorageKeySize).length < hdcpRx22KeyCrcLen
  · rw [if_pos short] at combined
    exact (Option.some.inj combined).symm
  · rw [if_neg short] at combined
    by_cases differs : Differs board key files.crc
    · rw [if_neg differs] at combined
      have unwritten := skips.resolve_left (not_not_intro differs)
      cases source : loadFile board.source with
      | undefined => simp [source] at combined
      | noBuffer => simpa [source] using combined.symm
      | bytes srcData =>
          have closed := unwritten.resolve_right (fun none_fits => none_fits srcData source)
          simp only [source, closed, Option.map_eq_some_iff] at combined
          obtain ⟨_, _, rfl⟩ := combined
          rfl
    · rw [if_pos (Decidable.of_not_not differs)] at combined
      exact (Option.some.inj combined).symm

-- Neither tool is chosen: the key is malformed, or the unpacking fails.
def Refuses (unpacked : Option Unpacked) : Prop := unpacked ≠ some .armTool ∧ unpacked ≠ some .pcTool

theorem generate_made (board : Board) (tools : Tools) (pass : Pass) (view key : Bytes) (pad bytes : Nat) (files : Files)
    (held : files.stored = some key) (viewLong : hdcpRx22KeyCrcLen ≤ view.length)
    (long : hdcpRx22KeyCrcLen ≤ key.length) (same : ArmKey view ↔ ArmKey key)
    (makes : Makes board tools pass (hdcpKeyUnpack pass (view ++ zeros pad) view.length) key files.crc)
    (write : pass.firmwareWrite = some bytes) :
    generateFirmware board pass (view ++ zeros pad) view.length (keyCrc key) files =
      .done true { files with
        dest := some ((firmware board tools key).take bytes), crc := saveFile pass.crcWrite (keyCrc key) files.crc } := by
  obtain ⟨small, chosen⟩ := makes
  obtain ⟨isArm, isPc⟩ := unpack_tool pass view pad viewLong
  cases unpacked : hdcpKeyUnpack pass (view ++ zeros pad) view.length with
  | none => simp [unpacked] at chosen
  | some tool =>
      cases tool with
      | failed => simp [unpacked] at chosen
      | armTool =>
          simp only [unpacked] at chosen
          have made := combine_arm_made board tools pass key files bytes small (same.mp (isArm unpacked)) write
          have ran : (genKeyImg pass && esmSwap pass && aicTool pass) = true := chosen.1
          simp only [generateFirmware, unpacked, if_pos ran, chosen.2, Option.getD_some, made]
      | pcTool =>
          simp only [unpacked] at chosen
          have pc : ¬ ArmKey key := fun arm => isPc unpacked (same.mpr arm)
          have made := combine_pc_made board tools pass key files bytes held long small pc chosen write
          simp only [generateFirmware, unpacked, made]

theorem generate_kept (board : Board) (pass : Pass) (view key : Bytes) (keyLen : Nat) (files after : Files) (made : Bool)
    (held : files.stored = some key) (skips : Skips board pass (hdcpKeyUnpack pass view keyLen) key files.crc)
    (done : generateFirmware board pass view keyLen (keyCrc key) files = .done made after) :
    after.dest = files.dest ∧ after.stored = files.stored := by
  cases unpacked : hdcpKeyUnpack pass view keyLen with
  | none => simp [generateFirmware, unpacked] at done
  | some tool =>
      cases tool with
      | failed => simp [generateFirmware, unpacked] at done
      | armTool =>
          simp only [Skips, unpacked] at skips
          simp only [generateFirmware, unpacked] at done
          by_cases ran : (genKeyImg pass && esmSwap pass && aicTool pass) = true
          · rw [if_pos ran] at done
            have unwritten := skips.resolve_left (ne_of_eq_of_ne ran Bool.true_eq_false.mp)
            cases combined : combineFirmwarewithArmTool board pass (pass.aic.output.getD []) files with
            | none => simp [combined] at done
            | some later =>
                simp only [combined, Generated.done.injEq] at done
                obtain ⟨_, rfl⟩ := done
                rw [combine_arm_kept board pass _ files later unwritten combined]
                exact ⟨rfl, rfl⟩
          · rw [if_neg ran] at done
            cases done
            exact ⟨rfl, rfl⟩
      | pcTool =>
          simp only [Skips, unpacked] at skips
          simp only [generateFirmware, unpacked] at done
          cases combined : combineFirmwarewithPCTool board pass files with
          | none => simp [combined] at done
          | some later =>
              simp only [combined, Generated.done.injEq] at done
              obtain ⟨_, rfl⟩ := done
              rw [combine_pc_kept board pass key files later held skips combined]
              exact ⟨rfl, rfl⟩

theorem generate_refused (board : Board) (pass : Pass) (view crc : Bytes) (keyLen : Nat) (files after : Files) (made : Bool)
    (refuses : Refuses (hdcpKeyUnpack pass view keyLen)) :
    generateFirmware board pass view keyLen crc files ≠ .done made after := by
  rw [generateFirmware]
  cases unpacked : hdcpKeyUnpack pass view keyLen with
  | none => nofun
  | some tool =>
      cases tool with
      | failed => nofun
      | armTool => exact absurd unpacked refuses.1
      | pcTool => exact absurd unpacked refuses.2

def Current (board : Board) (tools : Tools) (key : Bytes) (files : Files) : Prop :=
  files.dest = some (firmware board tools key)

theorem firmware_long (board : Board) (tools : Tools) (key : Bytes) : ¬ (firmware board tools key).length < 100 := by
  have large := board.large
  rw [insertOffset, hdcpRxRp222080ByteSize] at large
  rw [firmware_length]
  omega

-- How setHDCP22Key reads the key.
def unpackStored (pass : Pass) (key : Bytes) : Option Unpacked :=
  hdcpKeyUnpack pass (keyBuf (key.take hdcpRx22StorageKeySize)) (key.take hdcpRx22StorageKeySize).length

theorem taken_arm (key : Bytes) : ArmKey (key.take hdcpRx22StorageKeySize) ↔ ArmKey key := by
  by_cases fits : key.length ≤ hdcpRx22StorageKeySize
  · rw [List.take_of_length_le fits]
  · have bigger : keyMaxSize < hdcpRx22StorageKeySize := by decide
    have taken : (key.take hdcpRx22StorageKeySize).length = hdcpRx22StorageKeySize := by
      rw [List.length_take]
      omega
    constructor
    · intro arm
      have short := arm.1
      omega
    · intro arm
      have short := arm.1
      omega

def Whole (board : Board) (pass : Pass) : Prop := ∃ bytes, pass.firmwareWrite = some bytes ∧ board.source.length ≤ bytes

def Cut (pass : Pass) : Prop := ∃ bytes, pass.firmwareWrite = some bytes ∧ bytes < 100

-- Passes that end with the firmware written: each one comes to write it, and a write
-- that is cut below 100 bytes has a further pass behind it.
def Settles (board : Board) (tools : Tools) (pass : Nat → Pass) (key : Bytes) : Nat → Nat → Option Bytes → Prop
  | 0, countNum, crc =>
      Makes board tools (pass countNum) (unpackStored (pass countNum) key) key crc ∧ Whole board (pass countNum)
  | left + 1, countNum, crc =>
      Makes board tools (pass countNum) (unpackStored (pass countNum) key) key crc ∧
        (Whole board (pass countNum) ∨ Cut (pass countNum) ∧
          Settles board tools pass key left (countNum + 1) (saveFile (pass countNum).crcWrite (keyCrc key) crc))

theorem whole_dest (board : Board) (tools : Tools) (key : Bytes) (bytes : Nat) (whole : board.source.length ≤ bytes) :
    (firmware board tools key).take bytes = firmware board tools key := by
  apply List.take_of_length_le
  rw [firmware_length]
  exact whole

-- One pass over a stored key, up to the size check.
theorem regenerate_built (board : Board) (tools : Tools) (pass : Nat → Pass) (key last : Bytes) (left countNum bytes : Nat)
    (ret : Bool) (files : Files) (held : files.stored = some key) (long : hdcpRx22KeyCrcLen ≤ key.length)
    (need : files.dest = none ∨
      crcValue board.signedChar (keyCrc key) ≠ crcValue board.signedChar (readSys files.crc last hdcpRx22KeyCrcLen))
    (makes : Makes board tools (pass countNum) (unpackStored (pass countNum) key) key files.crc)
    (write : (pass countNum).firmwareWrite = some bytes) :
    regenerate board pass left countNum ret last files =
      let crc := saveFile (pass countNum).crcWrite (keyCrc key) files.crc
      if ((firmware board tools key).take bytes).length < 100 then
        match left with
        | 0 => some (true, ⟨some key, none, crc⟩)
        | left + 1 =>
            regenerate board pass left (countNum + 1) true (readSys files.crc last hdcpRx22KeyCrcLen) ⟨some key, none, crc⟩
      else some (true, ⟨some key, some ((firmware board tools key).take bytes), crc⟩) := by
  have made := generate_made board tools (pass countNum) (key.take hdcpRx22StorageKeySize) key _ bytes files held
    (Nat.le_of_not_lt (taken_long key long)) long (taken_arm key) makes write
  have generated : generateFirmware board (pass countNum) (keyBuf (key.take hdcpRx22StorageKeySize))
      (key.take hdcpRx22StorageKeySize).length (keyCrc key) files = _ := made
  rw [regenerate.eq_def]
  simp only [held, if_neg (taken_long key long), taken_crc]
  rw [if_pos need, generated]
  exact held ▸ rfl

theorem whole_regenerate (board : Board) (tools : Tools) (pass : Nat → Pass) (key last : Bytes) (left countNum : Nat)
    (ret : Bool) (files : Files) (held : files.stored = some key) (long : hdcpRx22KeyCrcLen ≤ key.length)
    (need : files.dest = none ∨
      crcValue board.signedChar (keyCrc key) ≠ crcValue board.signedChar (readSys files.crc last hdcpRx22KeyCrcLen))
    (makes : Makes board tools (pass countNum) (unpackStored (pass countNum) key) key files.crc)
    (whole : Whole board (pass countNum)) :
    ∃ crc, regenerate board pass left countNum ret last files =
      some (true, ⟨some key, some (firmware board tools key), crc⟩) := by
  obtain ⟨bytes, write, covered⟩ := whole
  rw [regenerate_built board tools pass key last left countNum bytes ret files held long need makes write,
    whole_dest board tools key bytes covered]
  exact ⟨_, if_neg (firmware_long board tools key)⟩

theorem settles_regenerate (board : Board) (tools : Tools) (pass : Nat → Pass) (key last : Bytes) (left countNum : Nat)
    (ret : Bool) (files : Files) (held : files.stored = some key) (long : hdcpRx22KeyCrcLen ≤ key.length)
    (need : files.dest = none ∨
      crcValue board.signedChar (keyCrc key) ≠ crcValue board.signedChar (readSys files.crc last hdcpRx22KeyCrcLen))
    (settles : Settles board tools pass key left countNum files.crc) :
    ∃ crc, regenerate board pass left countNum ret last files =
      some (true, ⟨some key, some (firmware board tools key), crc⟩) := by
  induction left generalizing countNum ret last files with
  | zero =>
      obtain ⟨makes, whole⟩ := settles
      exact whole_regenerate board tools pass key last 0 countNum ret files held long need makes whole
  | succ left ih =>
      obtain ⟨makes, whole | ⟨⟨bytes, write, cut⟩, later⟩⟩ := settles
      · exact whole_regenerate board tools pass key last (left + 1) countNum ret files held long need makes whole
      · have short : ((firmware board tools key).take bytes).length < 100 := by
          rw [List.length_take]
          omega
        rw [regenerate_built board tools pass key last (left + 1) countNum bytes ret files held long need makes write]
        simp only [if_pos short]
        exact ih _ (countNum + 1) true ⟨some key, none, _⟩ rfl (.inl rfl) later

def NeedsBuild (board : Board) (key : Bytes) (files : Files) : Prop := files.dest = none ∨ Differs board key files.crc

instance (board : Board) (key : Bytes) (files : Files) : Decidable (NeedsBuild board key files) :=
  inferInstanceAs (Decidable (_ ∨ _))

-- A first pass that leaves the file alone ends the call.
theorem skipped_regenerate (board : Board) (tools : Tools) (pass : Nat → Pass) (key : Bytes) (left : Nat)
    (files after : Files) (ret : Bool) (held : files.stored = some key) (long : hdcpRx22KeyCrcLen ≤ key.length)
    (need : NeedsBuild board key files) (skips : Skips board (pass 0) (unpackStored (pass 0) key) key files.crc)
    (safe : Refuses (unpackStored (pass 0) key) ∨ files.dest = none ∨ Current board tools key files)
    (ended : regenerate board pass left 0 false (zeros hdcpRx22KeyCrcLen) files = some (ret, after)) :
    after.stored = some key ∧ (ret = true → Current board tools key after) ∧
      (after = files ∨ after.dest = none ∨ Current board tools key after) := by
  have needed : files.dest = none ∨ crcValue board.signedChar (keyCrc key) ≠
      crcValue board.signedChar (readSys files.crc (zeros hdcpRx22KeyCrcLen) hdcpRx22KeyCrcLen) := need
  rw [regenerate.eq_def] at ended
  simp only [held, if_neg (taken_long key long), taken_crc] at ended
  rw [if_pos needed] at ended
  cases generated : generateFirmware board (pass 0) (keyBuf (key.take hdcpRx22StorageKeySize))
      (key.take hdcpRx22StorageKeySize).length (keyCrc key) files with
  | undefined =>
      simp only [generated] at ended
      cases ended
  | refused =>
      simp only [generated, Option.some.injEq, Prod.mk.injEq] at ended
      obtain ⟨rfl, rfl⟩ := ended
      exact ⟨held, nofun, .inl rfl⟩
  | done made later =>
      obtain ⟨dest, stored⟩ := generate_kept board (pass 0) _ key _ files later made held skips generated
      have still : later.stored = some key := stored.trans held
      simp only [generated] at ended
      rcases safe with refuses | missing | current
      · exact absurd generated (generate_refused board (pass 0) _ _ _ files later made refuses)
      · simp only [dest.trans missing, Option.some.injEq, Prod.mk.injEq] at ended
        obtain ⟨rfl, rfl⟩ := ended
        exact ⟨still, nofun, .inr (.inl (dest.trans missing))⟩
      · have whole : Current board tools key later := dest.trans current
        rw [Current] at whole
        simp only [whole, if_neg (firmware_long board tools key), Option.some.injEq, Prod.mk.injEq] at ended
        obtain ⟨rfl, rfl⟩ := ended
        exact ⟨still, fun _ => whole, .inr (.inr whole)⟩

theorem current_regenerate (board : Board) (tools : Tools) (pass : Nat → Pass) (key : Bytes) (left : Nat)
    (files : Files) (held : files.stored = some key) (long : hdcpRx22KeyCrcLen ≤ key.length)
    (passes : ¬ NeedsBuild board key files) (current : Current board tools key files) :
    regenerate board pass left 0 false (zeros hdcpRx22KeyCrcLen) files = some (true, files) := by
  have skipped : ¬ (files.dest = none ∨ crcValue board.signedChar (keyCrc key) ≠
      crcValue board.signedChar (readSys files.crc (zeros hdcpRx22KeyCrcLen) hdcpRx22KeyCrcLen)) := passes
  rw [Current] at current
  rw [regenerate.eq_def]
  simp only [held, if_neg (taken_long key long), taken_crc]
  rw [if_neg skipped]
  simp only [current, if_neg (firmware_long board tools key)]

theorem no_key_regenerate (board : Board) (pass : Nat → Pass) (left : Nat) (files : Files)
    (absent : ∀ key, files.stored = some key → key.length < hdcpRx22KeyCrcLen) :
    regenerate board pass left 0 false (zeros hdcpRx22KeyCrcLen) files = some (false, files) := by
  rw [regenerate.eq_def]
  cases held : files.stored with
  | none => simp only [held]
  | some key =>
      have short : (key.take hdcpRx22StorageKeySize).length < hdcpRx22KeyCrcLen := by
        rw [List.length_take]
        exact Nat.lt_of_le_of_lt (Nat.min_le_right _ _) (absent key held)
      simp only [held, if_pos short]

end Droidlogic.Hdcp
