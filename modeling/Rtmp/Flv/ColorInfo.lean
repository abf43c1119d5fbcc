import Rtmp.Amf.RoundTrip
import Rtmp.Flv.MetaData
import Rtmp.Flv.Video

/-!
The colour metadata of a video stream, in a metadata tag.

Each of the three parts may be missing, be there without any field, or have some of its fields; a value
with no part is the signal to reset.

* `ColorConfig`, `HdrCll`, `HdrMdcv`, `ColorInfo`: each with `toAmf0` and `fromAmf0`;
* `VideoTag.colorInfoTag`, `VideoTag.colorInfo`: the tag of a value, and the value of a tag;
* `get_present`: a part is read field by field from the row it was written as;
* `colorInfo_toAmf0`: the value comes back;
* **`colorInfo_survives`**: so it does from the wire.
-/

namespace Rtmp.Flv

structure ColorConfig where
  bitDepth : Option Binary64
  colorPrimaries : Option Binary64
  transferCharacteristics : Option Binary64
  matrixCoefficients : Option Binary64
  deriving DecidableEq, Repr

structure HdrCll where
  maxFall : Option Binary64
  maxCll : Option Binary64
  deriving DecidableEq, Repr

structure HdrMdcv where
  redX : Option Binary64
  redY : Option Binary64
  greenX : Option Binary64
  greenY : Option Binary64
  blueX : Option Binary64
  blueY : Option Binary64
  whitePointX : Option Binary64
  whitePointY : Option Binary64
  maxLuminance : Option Binary64
  minLuminance : Option Binary64
  deriving DecidableEq, Repr

/-- The colour metadata; a part that is there may have no field. -/
structure ColorInfo where
  colorConfig : Option ColorConfig
  hdrCll : Option HdrCll
  hdrMdcv : Option HdrMdcv
  deriving DecidableEq, Repr

def optNum (v : Amf0Value) (key : String) : Option Binary64 := (v.get key).bind Amf0Value.asF64

namespace ColorConfig

def fromAmf0 (v : Amf0Value) : ColorConfig where
  bitDepth := optNum v "bitDepth"
  colorPrimaries := optNum v "colorPrimaries"
  transferCharacteristics := optNum v "transferCharacteristics"
  matrixCoefficients := optNum v "matrixCoefficients"

def toAmf0 (cc : ColorConfig) : Amf0Value :=
  .object (pushNum "bitDepth" cc.bitDepth
    ++ (pushNum "colorPrimaries" cc.colorPrimaries
    ++ (pushNum "transferCharacteristics" cc.transferCharacteristics
    ++ (pushNum "matrixCoefficients" cc.matrixCoefficients
    ++ []))))

end ColorConfig

namespace HdrCll

def fromAmf0 (v : Amf0Value) : HdrCll where
  maxFall := optNum v "maxFall"
  maxCll := optNum v "maxCLL"

def toAmf0 (cll : HdrCll) : Amf0Value :=
  .object (pushNum "maxFall" cll.maxFall ++ (pushNum "maxCLL" cll.maxCll ++ []))

end HdrCll

namespace HdrMdcv

def fromAmf0 (v : Amf0Value) : HdrMdcv where
  redX := optNum v "redX"
  redY := optNum v "redY"
  greenX := optNum v "greenX"
  greenY := optNum v "greenY"
  blueX := optNum v "blueX"
  blueY := optNum v "blueY"
  whitePointX := optNum v "whitePointX"
  whitePointY := optNum v "whitePointY"
  maxLuminance := optNum v "maxLuminance"
  minLuminance := optNum v "minLuminance"

def toAmf0 (mdcv : HdrMdcv) : Amf0Value :=
  .object (pushNum "redX" mdcv.redX
    ++ (pushNum "redY" mdcv.redY
    ++ (pushNum "greenX" mdcv.greenX
    ++ (pushNum "greenY" mdcv.greenY
    ++ (pushNum "blueX" mdcv.blueX
    ++ (pushNum "blueY" mdcv.blueY
    ++ (pushNum "whitePointX" mdcv.whitePointX
    ++ (pushNum "whitePointY" mdcv.whitePointY
    ++ (pushNum "maxLuminance" mdcv.maxLuminance
    ++ (pushNum "minLuminance" mdcv.minLuminance
    ++ []))))))))))

end HdrMdcv

namespace ColorInfo

def default : ColorInfo := ⟨none, none, none⟩

def fromAmf0 (value : Amf0Value) : Except Error ColorInfo :=
  match value with
  | .undefined | .null => .ok default
  | .object _ | .ecmaArray _ =>
      .ok
        { colorConfig := (value.get "colorConfig").map ColorConfig.fromAmf0
          hdrCll := (value.get "hdrCll").map HdrCll.fromAmf0
          hdrMdcv := (value.get "hdrMdcv").map HdrMdcv.fromAmf0 }
  | _ => .error (.other "colorInfo: value must be an Object/ECMA array or Undefined")

/-- No part is there. -/
def isReset (ci : ColorInfo) : Bool :=
  ci.colorConfig.isNone && ci.hdrCll.isNone && ci.hdrMdcv.isNone

def toAmf0 (ci : ColorInfo) : Amf0Value :=
  if ci.isReset then .undefined
  else
    .object (pushProperty "colorConfig" (ci.colorConfig.map ColorConfig.toAmf0)
      ++ (pushProperty "hdrCll" (ci.hdrCll.map HdrCll.toAmf0)
      ++ (pushProperty "hdrMdcv" (ci.hdrMdcv.map HdrMdcv.toAmf0)
      ++ [])))

/-- The value behind the first name `colorInfo` of a row of names and values. -/
def find : List Amf0Value → Except Error (Option ColorInfo)
  | name :: value :: rest =>
      if name.asStr = some "colorInfo" then (fromAmf0 value).map some else find rest
  | _ => .ok none

end ColorInfo

namespace VideoTag

def colorInfo (tag : VideoTag) : Except Error (Option ColorInfo) :=
  if tag.isExMetadata then do
    let values ← Amf.decodeAll tag.body
    ColorInfo.find values
  else .ok none

def colorInfoTag (fourcc : FourCc) (ci : ColorInfo) : VideoTag where
  frameType := videoFrameCommand
  codecId := 0
  avcPacketType := none
  compositionTime := 0
  body := Amf.encode (.string "colorInfo") ++ Amf.encode ci.toAmf0
  exPacketType := some exPacketTypeMetadata
  fourcc := some fourcc
  modEx := []
  multitrack := none

end VideoTag

/-! ### Rows of optional properties -/

section Rows

variable {row : List (String × Option Amf0Value)}

/-- A property of a row of distinct names is found, or missing, as it was written. -/
lemma get_present {k : String} {v : Option Amf0Value} (hnodup : (row.map Prod.fst).Nodup)
    (h : (k, v) ∈ row) : (Amf0Value.object (Schema.present row)).get k = v :=
  Schema.find?_present hnodup h

lemma encodable_present {n : ℕ} (hkeys : ∀ k ∈ row.map Prod.fst, Amf0Value.Key k)
    (hvalues : ∀ p ∈ Schema.present row, p.2.Encodable ∧ p.2.height ≤ n) :
    (Amf0Value.object (Schema.present row)).Encodable ∧
      (Amf0Value.object (Schema.present row)).height ≤ n + 1 := by
  constructor
  · refine Amf.encodablePairs_iff.mpr fun p hp => ⟨hkeys p.1 ?_, (hvalues p hp).1⟩
    exact List.mem_map.mpr ⟨_, Schema.mem_present.mp hp, rfl⟩
  · have hheight := Amf.heightPairs_le_iff.mpr fun p hp => (hvalues p hp).2
    rw [Amf0Value.height]
    omega

end Rows

/-- The properties of a part, all of them numbers. -/
def numbers (fields : List (String × Option Binary64)) : List (String × Option Amf0Value) :=
  fields.map fun e => (e.1, e.2.map .number)

section Numbers

variable {fields : List (String × Option Binary64)}

@[simp] lemma keys_numbers : (numbers fields).map Prod.fst = fields.map Prod.fst := by
  rw [numbers, List.map_map]
  rfl

/-- Every field of a part is read as it was written. -/
lemma optNum_numbers (hnodup : (fields.map Prod.fst).Nodup) :
    ∀ e ∈ fields, optNum (.object (Schema.present (numbers fields))) e.1 = e.2 := by
  rintro ⟨k, n⟩ he
  have hmem : (k, n.map Amf0Value.number) ∈ numbers fields := List.mem_map_of_mem he
  rw [optNum, get_present (by rwa [keys_numbers]) hmem]
  cases n <;> rfl

lemma encodable_numbers (hkeys : ∀ k ∈ fields.map Prod.fst, Amf0Value.Key k) :
    (Amf0Value.object (Schema.present (numbers fields))).Encodable ∧
      (Amf0Value.object (Schema.present (numbers fields))).height ≤ 2 := by
  refine encodable_present (by rwa [keys_numbers]) fun p hp => ?_
  obtain ⟨e, -, he⟩ := List.mem_map.mp (Schema.mem_present.mp hp)
  obtain ⟨n, -, hn⟩ := Option.map_eq_some_iff.mp (Prod.mk.inj he).2
  rw [← hn]
  exact ⟨trivial, le_refl 1⟩

end Numbers

/-! ### The parts come back -/

namespace ColorConfig

def fields (cc : ColorConfig) : List (String × Option Binary64) :=
  [("bitDepth", cc.bitDepth), ("colorPrimaries", cc.colorPrimaries),
    ("transferCharacteristics", cc.transferCharacteristics),
    ("matrixCoefficients", cc.matrixCoefficients)]

lemma toAmf0_eq (cc : ColorConfig) : cc.toAmf0 = .object (Schema.present (numbers cc.fields)) := by
  simp only [toAmf0, fields, numbers, List.map_cons, present_cons, pushNum]
  rfl

lemma read_toAmf0 (cc : ColorConfig) : fromAmf0 cc.toAmf0 = cc := by
  have hread := @optNum_numbers cc.fields (by simp [fields])
  rw [← toAmf0_eq] at hread
  simp only [fields, List.forall_mem_cons] at hread
  simp only [fromAmf0, hread]

lemma encodable_toAmf0 (cc : ColorConfig) : cc.toAmf0.Encodable ∧ cc.toAmf0.height ≤ 2 := by
  have hkeys : ∀ k ∈ ["bitDepth", "colorPrimaries", "transferCharacteristics",
      "matrixCoefficients"], Amf0Value.Key k := by
    decide +kernel
  rw [toAmf0_eq]
  exact encodable_numbers hkeys

end ColorConfig

namespace HdrCll

def fields (cll : HdrCll) : List (String × Option Binary64) :=
  [("maxFall", cll.maxFall), ("maxCLL", cll.maxCll)]

lemma toAmf0_eq (cll : HdrCll) : cll.toAmf0 = .object (Schema.present (numbers cll.fields)) := by
  simp only [toAmf0, fields, numbers, List.map_cons, present_cons, pushNum]
  rfl

lemma read_toAmf0 (cll : HdrCll) : fromAmf0 cll.toAmf0 = cll := by
  have hread := @optNum_numbers cll.fields (by simp [fields])
  rw [← toAmf0_eq] at hread
  simp only [fields, List.forall_mem_cons] at hread
  simp only [fromAmf0, hread]

lemma encodable_toAmf0 (cll : HdrCll) : cll.toAmf0.Encodable ∧ cll.toAmf0.height ≤ 2 := by
  have hkeys : ∀ k ∈ ["maxFall", "maxCLL"], Amf0Value.Key k := by
    decide +kernel
  rw [toAmf0_eq]
  exact encodable_numbers hkeys

end HdrCll

namespace HdrMdcv

def fields (mdcv : HdrMdcv) : List (String × Option Binary64) :=
  [("redX", mdcv.redX), ("redY", mdcv.redY), ("greenX", mdcv.greenX), ("greenY", mdcv.greenY),
    ("blueX", mdcv.blueX), ("blueY", mdcv.blueY), ("whitePointX", mdcv.whitePointX),
    ("whitePointY", mdcv.whitePointY), ("maxLuminance", mdcv.maxLuminance),
    ("minLuminance", mdcv.minLuminance)]

lemma toAmf0_eq (mdcv : HdrMdcv) : mdcv.toAmf0 = .object (Schema.present (numbers mdcv.fields)) := by
  simp only [toAmf0, fields, numbers, List.map_cons, present_cons, pushNum]
  rfl

lemma read_toAmf0 (mdcv : HdrMdcv) : fromAmf0 mdcv.toAmf0 = mdcv := by
  have hread := @optNum_numbers mdcv.fields (by simp [fields])
  rw [← toAmf0_eq] at hread
  simp only [fields, List.forall_mem_cons] at hread
  simp only [fromAmf0, hread]

lemma encodable_toAmf0 (mdcv : HdrMdcv) : mdcv.toAmf0.Encodable ∧ mdcv.toAmf0.height ≤ 2 := by
  have hkeys : ∀ k ∈ ["redX", "redY", "greenX", "greenY", "blueX", "blueY", "whitePointX",
    "whitePointY",
        "maxLuminance", "minLuminance"], Amf0Value.Key k := by
    decide +kernel
  rw [toAmf0_eq]
  exact encodable_numbers hkeys

end HdrMdcv

/-! ### The value comes back -/

namespace ColorInfo

def parts (ci : ColorInfo) : List (String × Option Amf0Value) :=
  [("colorConfig", ci.colorConfig.map ColorConfig.toAmf0), ("hdrCll", ci.hdrCll.map HdrCll.toAmf0),
    ("hdrMdcv", ci.hdrMdcv.map HdrMdcv.toAmf0)]

lemma isReset_iff {ci : ColorInfo} : ci.isReset = true ↔ ci = default := by
  obtain ⟨cc, cll, mdcv⟩ := ci
  simp [isReset, default, and_assoc]

lemma toAmf0_of_not_reset {ci : ColorInfo} (h : ci.isReset = false) :
    ci.toAmf0 = .object (Schema.present ci.parts) := by
  rw [toAmf0, h, if_neg Bool.false_ne_true]
  simp only [parts, present_cons]
  rfl

/-- The signal to reset is sent for the value without any part, and for no other. -/
lemma toAmf0_eq_undefined_iff {ci : ColorInfo} : ci.toAmf0 = .undefined ↔ ci = default := by
  rw [← isReset_iff]
  cases h : ci.isReset with
  | true => exact iff_of_true (by rw [toAmf0, h, if_pos rfl]) rfl
  | false =>
      rw [toAmf0_of_not_reset h]
      exact iff_of_false nofun nofun

theorem colorInfo_toAmf0 (ci : ColorInfo) : fromAmf0 ci.toAmf0 = .ok ci := by
  cases h : ci.isReset with
  | true =>
      rw [isReset_iff.mp h]
      rfl
  | false =>
      have hget : ∀ e ∈ ci.parts, (Amf0Value.object (Schema.present ci.parts)).get e.1 = e.2 :=
        fun e he => get_present (by simp [parts]) he
      simp only [parts, List.forall_mem_cons] at hget
      rw [toAmf0_of_not_reset h, fromAmf0]
      simp only [parts, hget]
      obtain ⟨cc, cll, mdcv⟩ := ci
      simp [Function.comp_def, ColorConfig.read_toAmf0, HdrCll.read_toAmf0,
        HdrMdcv.read_toAmf0]

lemma encodable_toAmf0 (ci : ColorInfo) : ci.toAmf0.Encodable ∧ ci.toAmf0.height ≤ 3 := by
  cases h : ci.isReset with
  | true =>
      rw [isReset_iff.mp h]
      exact ⟨trivial, by decide⟩
  | false =>
      have hkeys : ∀ k ∈ ["colorConfig", "hdrCll", "hdrMdcv"], Amf0Value.Key k := by decide +kernel
      rw [toAmf0_of_not_reset h]
      refine encodable_present hkeys fun p hp => ?_
      have hrow := Schema.mem_present.mp hp
      simp only [parts, List.mem_cons, Prod.mk.injEq, List.not_mem_nil, or_false] at hrow
      rcases hrow with ⟨-, hv⟩ | ⟨-, hv⟩ | ⟨-, hv⟩
      · obtain ⟨cc, -, hcc⟩ := Option.map_eq_some_iff.mp hv.symm
        exact hcc ▸ cc.encodable_toAmf0
      · obtain ⟨cll, -, hcll⟩ := Option.map_eq_some_iff.mp hv.symm
        exact hcll ▸ cll.encodable_toAmf0
      · obtain ⟨mdcv, -, hmdcv⟩ := Option.map_eq_some_iff.mp hv.symm
        exact hmdcv ▸ mdcv.encodable_toAmf0

end ColorInfo

/-- The tag of a value is read back: its packet type is that of metadata, so that no composition time
follows and it is no command. -/
lemma wellFormed_colorInfoTag (fourcc : FourCc) (ci : ColorInfo) :
    (VideoTag.colorInfoTag fourcc ci).WellFormed := by
  have hlow : exPacketTypeMetadata.toNat < 16 := by decide
  have hcts : needsCts videoFrameCommand exPacketTypeMetadata fourcc = false := by
    simp [needsCts, exPacketTypeMetadata, exPacketTypeCodedFrames]
  have hheader : ExHeader.WellFormed ⟨[], none, exPacketTypeMetadata, some fourcc⟩ exPacketTypeModEx
      exPacketTypeMultitrack :=
    { modEx := nofun
      type_lt := nofun
      packetType_lt := hlow
      not_multitrack := show exPacketTypeMetadata ≠ exPacketTypeMultitrack by decide
      not_modEx := fun _ => show exPacketTypeMetadata ≠ exPacketTypeModEx by decide
      fourcc := iff_of_false nofun nofun }
  refine .enhanced (by decide) hheader ?_
  rw [hcts, if_neg Bool.false_ne_true]

lemma decodeAll_colorInfoTag (fourcc : FourCc) (ci : ColorInfo) :
    Amf.decodeAll (VideoTag.colorInfoTag fourcc ci).body = .ok [.string "colorInfo", ci.toAmf0] := by
  obtain ⟨hencodable, hheight⟩ := ci.encodable_toAmf0
  have hname : (Amf0Value.string "colorInfo").Encodable := by
    show (Utf8.encode "colorInfo").length < 2 ^ 32
    decide +kernel
  have hrow : ∀ v ∈ [Amf0Value.string "colorInfo", ci.toAmf0],
      v.Encodable ∧ v.height ≤ maxDecodeDepth := by
    intro v hv
    rcases List.mem_pair.mp hv with rfl | rfl
    · exact ⟨hname, by decide⟩
    · exact ⟨hencodable, hheight.trans (by decide)⟩
  have hback := (Amf.decodeAll_encodeItems _ hrow).1
  rwa [Amf.encodeItems, Amf.encodeItems, Amf.encodeItems, List.append_nil] at hback

/-- **`colorInfo` survives the wire**: the tag of a value is read back, and so is the value from it; and
the value without any part, and it only, is the signal to reset. -/
theorem colorInfo_survives (fourcc : FourCc) (ci : ColorInfo) :
    (∃ tag, parseVideo (buildVideo (VideoTag.colorInfoTag fourcc ci)) = .ok tag ∧
      tag.colorInfo = .ok (some ci)) ∧
    (ci.isReset = true ↔ ci = ColorInfo.default) ∧
      (ci.toAmf0 = .undefined ↔ ci = ColorInfo.default) := by
  refine ⟨⟨_, parseVideo_buildVideo_of_wellFormed (wellFormed_colorInfoTag fourcc ci), ?_⟩,
    ColorInfo.isReset_iff, ColorInfo.toAmf0_eq_undefined_iff⟩
  have hmetadata : (VideoTag.colorInfoTag fourcc ci).isExMetadata = true := rfl
  rw [VideoTag.colorInfo, if_pos hmetadata, decodeAll_colorInfoTag]
  show (ColorInfo.fromAmf0 ci.toAmf0).map some = .ok (some ci)
  rw [ColorInfo.colorInfo_toAmf0]
  rfl

end Rtmp.Flv
