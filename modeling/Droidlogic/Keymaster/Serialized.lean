import Droidlogic.Keymaster.AuthorizationSet
import Droidlogic.Lib.InStream

set_option autoImplicit false

namespace Droidlogic.Keymaster

open Droidlogic.Lib

structure OutStreams where
  indirect : Bytes
  elements : Bytes
  bad : Bool

def OutStreams.write (out : OutStreams) (bytes : Bytes) : OutStreams :=
  if out.bad then out else { out with elements := out.elements ++ bytes }

def serializeBlob (out : OutStreams) (blob : Bytes) : OutStreams :=
  if 4294967295 < blob.length then { out with bad := true }
  else
    let out := out.write (le32 blob.length.toUInt32)
    let offset := out.indirect.length
    if 4294967295 < offset ∨ 4294967295 - offset < blob.length then { out with bad := true }
    else { out.write (le32 offset.toUInt32) with indirect := out.indirect ++ blob }

-- The bytes of the union's member that accessTagValue picks.
def valueSize : Option TagType → Nat
  | some .enum | some .enumRep | some .uint | some .uintRep => 4
  | some .ulong | some .ulongRep | some .date => 8
  | some .bool => 1
  | _ => 0

def inBlob : Option TagType → Bool
  | some .bignum | some .bytes => true
  | _ => false

theorem IntegerParams.into_sized (f : IntegerParams) (got : Bytes) : ((into got f.memory).take 8).length = 8 := by
  rw [List.length_take, into, List.length_append, List.length_drop, f.sized]
  omega

def IntegerParams.assign (f : IntegerParams) (got : Bytes) : IntegerParams where
  memory := (into got f.memory).take 8
  sized := f.into_sized got

-- A hidl_vec keeps its first entries, the new ones are zero.
def resize (blob : Bytes) (size : Nat) : Bytes := zeroFilled size (blob.take size)

structure InStreams where
  indirect : InStream
  elements : InStream

def freshParam : KeyParameter := ⟨0, ⟨List.replicate 8 0, rfl⟩, []⟩

def deserializeBlob (streams : InStreams) (blob : Bytes) : Bytes × InStreams :=
  let (length, elements) := streams.elements.read 4
  let blob := resize blob (word32 (into length (le32 0))).toNat
  let (offset, elements) := elements.read 4
  let (bytes, indirect) := (streams.indirect.seekg (word32 (into offset (le32 0))).toNat).read blob.length
  (into bytes blob, ⟨indirect, elements⟩)

section
variable (hal : Hal)

def serializeParam (out : OutStreams) (param : KeyParameter) : OutStreams :=
  if param.tag ∈ hal.all_tags_t then
    if param.tag = hal.invalid then out
    else
      let out := out.write (le32 param.tag)
      if inBlob (typeFromTag hal param.tag) then serializeBlob out param.blob
      else out.write (param.f.memory.take (valueSize (typeFromTag hal param.tag)))
  else out

-- What Serialize writes, none where it sets badbit.
def serialize (params : AuthorizationSet) : Option Bytes :=
  let streams := params.foldl (serializeParam hal) ⟨[], [], false⟩
  if streams.bad then none
  else if 4294967295 < streams.indirect.length then none
  else if 4294967295 < streams.elements.length then none
  else
    some (le32 streams.indirect.length.toUInt32 ++ streams.indirect ++ le32 params.length.toUInt32 ++
      le32 streams.elements.length.toUInt32 ++ streams.elements)

def deserializeParam (streams : InStreams) (param : KeyParameter) : KeyParameter × InStreams :=
  let (got, elements) := streams.elements.read 4
  let param := { param with tag := word32 (into got (le32 param.tag)) }
  let streams := { streams with elements := elements }
  if param.tag ∈ hal.all_tags_t then
    if param.tag = hal.invalid then (param, streams)
    else if inBlob (typeFromTag hal param.tag) then
      let (blob, streams) := deserializeBlob streams param.blob
      ({ param with blob := blob }, streams)
    else
      let (got, elements) := streams.elements.read (valueSize (typeFromTag hal param.tag))
      ({ param with f := param.f.assign got }, { streams with elements := elements })
  else (param, { streams with elements := { streams.elements with bad := true } })

def deserializeAll : InStreams → AuthorizationSet → AuthorizationSet
  | _, [] => []
  | streams, param :: rest =>
      let (param, streams) := deserializeParam hal streams param
      param :: deserializeAll streams rest

-- The set and the stream after Deserialize.
def deserialize (stream : InStream) (params : AuthorizationSet) : AuthorizationSet × InStream :=
  let (got, stream) := stream.read 4
  let indirect_size := (word32 (into got (le32 0))).toNat
  let (got, stream) := stream.read indirect_size
  let indirect_buffer := into got (List.replicate indirect_size 0)
  let (got, stream) := stream.read 4
  let element_count := (word32 (into got (le32 0))).toNat
  let (got, stream) := stream.read 4
  let elements_size := (word32 (into got (le32 0))).toNat
  let (got, stream) := stream.read elements_size
  let elements_buffer := into got (List.replicate elements_size 0)
  if stream.bad then (params, stream)
  else
    let resized := params.take element_count ++ List.replicate (element_count - params.length) freshParam
    (deserializeAll hal ⟨.opened indirect_buffer, .opened elements_buffer⟩ resized, stream)

end

end Droidlogic.Keymaster
