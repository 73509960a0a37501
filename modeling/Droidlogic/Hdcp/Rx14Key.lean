import Mathlib.Data.List.TakeWhile
import Droidlogic.Lib.CString

set_option autoImplicit false

namespace Droidlogic.Hdcp

open Droidlogic.Lib

def hdcpRx14KeyTotalSize : Nat := 368

def hdcpRx14KeyHeadSize : Nat := 40

def hdcpRx14KeyContentSize : Nat := hdcpRx14KeyTotalSize - hdcpRx14KeyHeadSize

def hdcpRx14KeyDefHeader : Bytes :=
  [0x53, 0x4B, 0x59, 0x01, 0x00, 0x10, 0x0D, 0x15, 0x3A, 0x8E,
    0x99, 0xEE, 0x2A, 0x55, 0x58, 0xEE, 0xED, 0x4B, 0xBE, 0x00,
    0x74, 0xA9, 0x00, 0x10, 0x0A, 0x21, 0xE3, 0x30, 0x66, 0x34,
    0xCE, 0x9C, 0xC7, 0x8B, 0x51, 0x27, 0xF9, 0x0B, 0xAD, 0x09]

structure Digest where
  bytes : Bytes
  sized : bytes.length = 20

inductive Hdcp14KeyMode
  | normal
  | secure
deriving DecidableEq

-- SHA1 ends the digest with a NUL, which is the byte behind sha1_buf2, and strcmp reads
-- on behind sha1_buf1. Where the compiler puts the buffers decides what these bytes are.
structure Rx14Stack where
  behindSha1Buf1 : Bytes
  keyBehindSha1Buf2 : Bool

-- What the key unify nodes and the receiver's edid node do. none is a node that does
-- not open or whose write fails.
structure Rx14Env where
  attaches : Bool
  takesName : Bool
  secure : Bytes
  keyWrite : Option Nat
  edidWrite : Option Nat
  stack : Rx14Stack

structure Rx14Outcome where
  ret : Int
  mode : Option Hdcp14KeyMode
  sha1sumError : Bool
  storage : Bytes
  receiver : Bytes
deriving DecidableEq

def writeBufSys (written : Option Nat) (buf : Bytes) : Int × Bytes :=
  match written with
  | none => (-1, [])
  | some count => ((buf.take count).length, buf.take count)

def keyMode (secValue : Bytes) : Hdcp14KeyMode :=
  if (secValue.take 10).take 4 = [0x74, 0x72, 0x75, 0x65] then .secure else .normal

-- The key content and whether "sha1sum error" is logged.
def checkedContent (sha1 : Bytes → Digest) (stack : Rx14Stack) (value : Bytes) : Bytes × Bool :=
  let keyContentBuf := value.take hdcpRx14KeyContentSize
  let sha1Buf1 := (value.drop hdcpRx14KeyContentSize).take 20
  let sha1Buf2 := (sha1 keyContentBuf).bytes
  (if stack.keyBehindSha1Buf2 = true then 0 :: keyContentBuf.tail else keyContentBuf,
    decide (CStr.read (sha1Buf1 ++ stack.behindSha1Buf1) ≠ CStr.read (sha1Buf2 ++ [0])))

def keyContent (sha1 : Bytes → Digest) (stack : Rx14Stack) (value : Bytes) (size : Int) : Option (Bytes × Bool) :=
  if size = 348 then some (checkedContent sha1 stack value)
  else if size = hdcpRx14KeyContentSize then some (value.take hdcpRx14KeyContentSize, false)
  else none

def setHdcpRX14key (sha1 : Bytes → Digest) (env : Rx14Env) (value : Bytes) (size : Int) : Rx14Outcome :=
  if env.attaches = false then ⟨-1, none, false, [], []⟩
  else if env.takesName = false then ⟨-1, none, false, [], []⟩
  else
    let mode := keyMode env.secure
    match keyContent sha1 env.stack value size with
    | none => ⟨-1, some mode, false, [], []⟩
    | some (keyContentBuf, sha1sumError) =>
        let (len, storage) := writeBufSys env.keyWrite keyContentBuf
        if len ≠ hdcpRx14KeyContentSize then ⟨-1, some mode, sha1sumError, storage, []⟩
        else
          let keyTotalBuf := hdcpRx14KeyDefHeader ++ keyContentBuf
          ⟨0, some mode, sha1sumError, storage, (writeBufSys env.edidWrite keyTotalBuf).2⟩

def TrailingDigest (sha1 : Bytes → Digest) (blob : Bytes) : Prop :=
  (blob.drop hdcpRx14KeyContentSize).take 20 = (sha1 (blob.take hdcpRx14KeyContentSize)).bytes

-- Without the digest of its key content a blob is refused and goes nowhere.
def RefusesForged (sha1 : Bytes → Digest) (env : Rx14Env) (blob : Bytes) : Prop :=
  ¬ TrailingDigest sha1 blob →
    (setHdcpRX14key sha1 env blob 348).ret = -1 ∧ (setHdcpRX14key sha1 env blob 348).storage = [] ∧
      (setHdcpRX14key sha1 env blob 348).receiver = []

def TakesNothing (env : Rx14Env) : Prop :=
  env.attaches = false ∨ env.takesName = false ∨ env.keyWrite = none ∨ env.keyWrite = some 0

theorem checked_content_length (sha1 : Bytes → Digest) (stack : Rx14Stack) (blob : Bytes) (sized : blob.length = 348) :
    (checkedContent sha1 stack blob).1.length = hdcpRx14KeyContentSize := by
  have content : (blob.take hdcpRx14KeyContentSize).length = hdcpRx14KeyContentSize := by
    rw [List.length_take, sized]
    rfl
  simp only [checkedContent]
  split
  · rw [List.length_cons, List.length_tail, content]
    rfl
  · exact content

theorem set_key_checked (sha1 : Bytes → Digest) (env : Rx14Env) (blob : Bytes) (attaches : env.attaches = true)
    (named : env.takesName = true) :
    setHdcpRX14key sha1 env blob 348 =
      let content := checkedContent sha1 env.stack blob
      let write := writeBufSys env.keyWrite content.1
      if write.1 ≠ hdcpRx14KeyContentSize then ⟨-1, some (keyMode env.secure), content.2, write.2, []⟩
      else ⟨0, some (keyMode env.secure), content.2, write.2,
        (writeBufSys env.edidWrite (hdcpRx14KeyDefHeader ++ content.1)).2⟩ := by
  rw [setHdcpRX14key, if_neg (by rw [attaches]; decide), if_neg (by rw [named]; decide), keyContent, if_pos rfl]

theorem nothing_taken (sha1 : Bytes → Digest) (env : Rx14Env) (blob : Bytes) (takes : TakesNothing env) :
    (setHdcpRX14key sha1 env blob 348).ret = -1 ∧ (setHdcpRX14key sha1 env blob 348).storage = [] ∧
      (setHdcpRX14key sha1 env blob 348).receiver = [] := by
  by_cases attaches : env.attaches = false
  · rw [setHdcpRX14key, if_pos attaches]
    exact ⟨rfl, rfl, rfl⟩
  by_cases named : env.takesName = false
  · rw [setHdcpRX14key, if_neg attaches, if_pos named]
    exact ⟨rfl, rfl, rfl⟩
  rw [set_key_checked sha1 env blob (eq_true_of_ne_false attaches) (eq_true_of_ne_false named)]
  have unwritten : writeBufSys env.keyWrite (checkedContent sha1 env.stack blob).1 = (-1, []) ∨
      writeBufSys env.keyWrite (checkedContent sha1 env.stack blob).1 = (0, []) := by
    rcases takes with noAttach | noName | closed | empty
    · exact absurd noAttach attaches
    · exact absurd noName named
    · exact .inl (by rw [closed, writeBufSys])
    · exact .inr (by rw [empty, writeBufSys, List.take_zero]; rfl)
  rcases unwritten with failed | zero
  · simp only [failed]
    exact ⟨rfl, rfl, rfl⟩
  · simp only [zero]
    exact ⟨rfl, rfl, rfl⟩

theorem forged_stored (sha1 : Bytes → Digest) (env : Rx14Env) (blob : Bytes) (sized : blob.length = 348)
    (takes : ¬ TakesNothing env) : (setHdcpRX14key sha1 env blob 348).storage ≠ [] := by
  obtain ⟨attaches, named, opens, some_byte⟩ : env.attaches = true ∧ env.takesName = true ∧ env.keyWrite ≠ none ∧
      env.keyWrite ≠ some 0 := by
    simpa [TakesNothing] using takes
  obtain ⟨count, written⟩ := Option.ne_none_iff_exists'.mp opens
  have positive : count ≠ 0 := fun zero => some_byte (zero ▸ written)
  have kept : (writeBufSys env.keyWrite (checkedContent sha1 env.stack blob).1).2 ≠ [] := by
    rw [written, writeBufSys]
    intro empty
    rcases List.take_eq_nil_iff.mp empty with zero | noContent
    · exact positive zero
    · have length := checked_content_length sha1 env.stack blob sized
      rw [noContent] at length
      exact absurd length (by decide)
  rw [set_key_checked sha1 env blob attaches named]
  dsimp only
  split
  · exact kept
  · exact kept

theorem rx14_key_refused_iff (sha1 : Bytes → Digest) (env : Rx14Env) (blob : Bytes) (sized : blob.length = 348) :
    RefusesForged sha1 env blob ↔ TrailingDigest sha1 blob ∨ TakesNothing env := by
  constructor
  · intro refuses
    by_contra neither
    obtain ⟨forged, takes⟩ := not_or.mp neither
    exact forged_stored sha1 env blob sized takes (refuses forged).2.1
  · rintro (genuine | takes) forged
    · exact absurd genuine forged
    · exact nothing_taken sha1 env blob takes

-- The comparison that the log line depends on stops at the first zero byte.
theorem mismatch_unlogged (sha1 : Bytes → Digest) (stack : Rx14Stack) (blob : Bytes) (front first second : Bytes)
    (trailing : (blob.drop hdcpRx14KeyContentSize).take 20 = front ++ 0 :: first)
    (digest : (sha1 (blob.take hdcpRx14KeyContentSize)).bytes = front ++ 0 :: second) :
    (checkedContent sha1 stack blob).2 = false := by
  have stops (rest : Bytes) : CStr.read (front ++ 0 :: rest) = CStr.read front := by
    apply CStr.ext_bytes
    simp only [CStr.read, List.takeWhile_append]
    split
    · rename_i whole
      rw [List.takeWhile_cons_of_neg (by simp), List.append_nil]
      exact (List.takeWhile_prefix _).eq_of_length whole |>.symm
    · rfl
  simp only [checkedContent, trailing, digest, List.append_assoc, List.cons_append, stops, ne_eq, not_true_eq_false,
    decide_false]

-- The SHA-1 of 328 zero bytes. Its ninth byte is a zero.
def zeroKeyDigest : Digest where
  bytes := [0x33, 0x76, 0xD9, 0x10, 0x2F, 0x40, 0x57, 0xB3, 0x00, 0x88,
    0xCE, 0x2F, 0xB6, 0xC9, 0x75, 0xF8, 0x38, 0x7E, 0x82, 0xA1]
  sized := rfl

def zeroKey : Bytes := List.replicate 328 0

-- The digest's first nine bytes, and zeros for the others.
def forgedBlob : Bytes := zeroKey ++ (zeroKeyDigest.bytes.take 9 ++ List.replicate 11 0)

def openNodes : Rx14Env := ⟨true, true, [], some 328, some 368, ⟨[0], false⟩⟩

theorem closed_node_refuses : RefusesForged (fun _ => zeroKeyDigest) { openNodes with keyWrite := none } forgedBlob :=
  (rx14_key_refused_iff (fun _ => zeroKeyDigest) { openNodes with keyWrite := none } forgedBlob (by decide +kernel)).mpr
    (.inr (.inr (.inr (.inl rfl))))

theorem forged_key_accepted :
    ¬ TrailingDigest (fun _ => zeroKeyDigest) forgedBlob ∧
      setHdcpRX14key (fun _ => zeroKeyDigest) openNodes forgedBlob 348 =
        ⟨0, some .normal, false, zeroKey, hdcpRx14KeyDefHeader ++ zeroKey⟩ := by
  constructor
  · unfold TrailingDigest
    decide +kernel
  · decide +kernel

end Droidlogic.Hdcp
