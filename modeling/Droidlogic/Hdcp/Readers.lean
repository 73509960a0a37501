import Droidlogic.Hdcp.Extract
import Droidlogic.Hdcp.SetImgReads
import Droidlogic.Hdcp.Unpack

set_option autoImplicit false

namespace Droidlogic.Hdcp

open Droidlogic.Lib

inductive Reader
  | amlExtract (itemName : ItemName) (dataBufSz : UInt32)
  | storageExtract (itemName : ItemName) (dataBufSz : UInt32)
  | keyUnpack
  | setImg

-- The image passes the tests that the reader makes of it before the items.
def Reader.Accepts (image : Bytes) : Reader → Prop
  | .amlExtract _ _ => amlAccepts image
  | .storageExtract _ _ => storageAccepts image
  | .keyUnpack => unpackAccepts image
  | .setImg => SetImgAccepts image

-- Whatever the reader meets, it reads inside and hands out the item's bytes.
def Reader.StaysInside (image : Bytes) : Reader → Prop
  | .amlExtract itemName dataBufSz =>
      ∀ env, Extracts image itemName.text (amlExtractOneItemToBuf env image itemName.text dataBufSz)
  | .storageExtract itemName dataBufSz =>
      ∀ behind, Extracts image itemName.text (storageExtractOneItemToBuf behind image itemName.text dataBufSz)
  | .keyUnpack => ∀ env, Unpacks image (unpackImage env image)
  | .setImg => SetImgReads image

def Reader.Within (image : Bytes) : Reader → Prop
  | .amlExtract itemName dataBufSz => ExtractInside image itemName.text dataBufSz
  | .storageExtract itemName dataBufSz => ExtractInside image itemName.text dataBufSz
  | .keyUnpack => UnpackInside image
  | .setImg => SetImgInside image

theorem readers_inside_iff (reader : Reader) (image : Bytes) (accepted : reader.Accepts image) :
    reader.StaysInside image ↔ reader.Within image := by
  cases reader with
  | amlExtract itemName dataBufSz => exact aml_extracts_iff image itemName dataBufSz accepted
  | storageExtract itemName dataBufSz => exact storage_extracts_iff image itemName dataBufSz accepted
  | keyUnpack => exact unpacks_iff image accepted
  | setImg => exact set_img_reads_iff image accepted

-- An image of four item heads, the first one with the given range.
def oneItemImage (dataOffset dataSz : UInt32) : Bytes :=
  let body := le32 1 ++ amlResImgV1Magic ++ le32 216 ++ le32 1 ++
    (le32 dataSz ++ le32 dataSz ++ le32 dataOffset ++ [0, 0, 0, 0] ++ hdcpRxFw ++ List.replicate 20 0) ++
    List.replicate 144 0
  le32 (wordSum body) ++ body

def extractedKey : ItemName := ⟨hdcpRxFw, by decide, by decide, by decide⟩

theorem header_item_inside : (Reader.amlExtract extractedKey 65536).StaysInside (oneItemImage 24 16) := by
  refine (readers_inside_iff (.amlExtract extractedKey 65536) (oneItemImage 24 16) ?_).mpr ?_
  · exact ⟨by decide +kernel, by decide +kernel, true, [], by decide +kernel⟩
  · change ExtractInside _ _ _
    decide +kernel

theorem item_overread : ¬ ∀ (reader : Reader) (image : Bytes), reader.Accepts image → reader.StaysInside image := by
  intro claim
  have accepted : amlAccepts (oneItemImage 0x10000 4) := ⟨by decide +kernel, by decide +kernel, true, [], by decide +kernel⟩
  have stays := claim (.amlExtract extractedKey 65536) (oneItemImage 0x10000 4) accepted
  have within_image := (aml_extracts_iff (oneItemImage 0x10000 4) extractedKey 65536 accepted).mp stays
  exact absurd within_image (by decide +kernel)

end Droidlogic.Hdcp
