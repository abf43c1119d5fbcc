import Mathlib.Data.List.Destutter
import Rtmp.Flv.TrackInfo
import Rtmp.Lib.Decimal

/-!
The track ids that a map of `onMetaData` lists.

An id is listed when one of the keys can be parsed into it, and looked up under the key that it is
printed as.  The parser takes more spellings than that one.

* `trackIds`, `videoTrackIds`, `audioTrackIds`: the ids of the keys, in order and once each;
* `mem_trackIds_iff`, `trackInfo_ne_none_iff`: the keys that list an id, and the key it is found under;
* **`trackIds_resolve_iff`**: an id is listed if and only if it is found, if and only if a key that
  spells it otherwise has the plain one beside it.
-/

namespace Rtmp.Flv

/-- Keys that are no decimal bytes are skipped. -/
def trackIds (map : Option Amf0Value) : List UInt8 :=
  let ids := (trackMapPairs map).filterMap fun p => (Decimal.parse 256 p.1).toOption.map UInt8.ofNat
  (ids.mergeSort (· ≤ ·)).destutter (· ≠ ·)

namespace OnMetaData

def videoTrackIds (m : OnMetaData) : List UInt8 := trackIds m.videoTrackIdInfoMap

def audioTrackIds (m : OnMetaData) : List UInt8 := trackIds m.audioTrackIdInfoMap

def trackIdsOf (m : OnMetaData) : TrackMap → List UInt8
  | .video => m.videoTrackIds
  | .audio => m.audioTrackIds

end OnMetaData

/-! ### What is listed and what is found -/

section Destutter

variable {α : Type} [DecidableEq α] {a : α}

/-- Nothing is lost with the repetitions. -/
lemma mem_destutter_iff (l : List α) : a ∈ l.destutter (· ≠ ·) ↔ a ∈ l := by
  have hcons : ∀ (l : List α) (b : α), a ∈ l.destutter' (· ≠ ·) b ↔ a = b ∨ a ∈ l := by
    intro l
    induction l with
    | nil => exact fun b => List.mem_singleton.trans (or_iff_left List.not_mem_nil).symm
    | cons c l ih =>
        intro b
        by_cases hbc : b = c
        · rw [List.destutter'_cons_neg _ (not_not_intro hbc), ih, List.mem_cons, hbc, ← or_assoc,
            or_self]
        · rw [List.destutter'_cons_pos l hbc, List.mem_cons, ih, List.mem_cons]
  cases l with
  | nil => rfl
  | cons b l => rw [List.destutter_cons', hcons, List.mem_cons]

end Destutter

variable {map : Option Amf0Value} {id : UInt8}

lemma mem_trackIds_iff :
    id ∈ trackIds map ↔ ∃ p ∈ trackMapPairs map, Decimal.Spells p.1 id.toNat := by
  rw [trackIds, mem_destutter_iff, List.mem_mergeSort, List.mem_filterMap]
  refine exists_congr fun p => and_congr_right fun _ => ?_
  rw [Option.map_eq_some_iff]
  constructor
  · rintro ⟨n, hn, rfl⟩
    cases hparse : Decimal.parse 256 p.1 with
    | error e =>
        rw [hparse] at hn
        cases hn
    | ok m =>
        rw [hparse] at hn
        cases hn
        obtain ⟨hlt, hspells⟩ := (Decimal.parse_eq_ok_iff (by decide)).mp hparse
        rwa [UInt8.toNat_ofNat_of_lt' hlt]
  · intro hspells
    have hparse := (Decimal.parse_eq_ok_iff (by decide)).mpr ⟨id.toNat_lt, hspells⟩
    exact ⟨id.toNat, by rw [hparse]; rfl, UInt8.ofNat_toNat⟩

lemma trackInfo_ne_none_iff :
    trackInfo map id ≠ .ok none ↔ ∃ p ∈ trackMapPairs map, p.1 = toString id := by
  rw [trackInfo]
  cases hfind : (trackMapPairs map).find? fun e => e.1 = toString id with
  | none =>
      refine iff_of_false (not_not_intro rfl) ?_
      rintro ⟨p, hp, hkey⟩
      exact List.find?_eq_none.mp hfind p hp (decide_eq_true hkey)
  | some e =>
      have hkey : e.1 = toString id := by simpa using List.find?_some hfind
      refine iff_of_true ?_ ⟨e, List.mem_of_find?_eq_some hfind, hkey⟩
      obtain ⟨k, v⟩ := e
      show (TrackInfo.fromAmf0 v).map some ≠ .ok none
      cases TrackInfo.fromAmf0 v <;> rintro ⟨⟩

lemma spells_toString (id : UInt8) : Decimal.Spells (toString id) id.toNat :=
  ⟨[], 0, .inl rfl, Nat.toList_repr⟩

/-- **Listed ids resolve** where the keys are plain: an id is listed if and only if it is found, if and
only if with any spelling of it, with a sign or with zeros in front, the plain one is a key too. -/
theorem trackIds_resolve_iff (m : OnMetaData) (which : TrackMap) (id : UInt8) :
    (id ∈ m.trackIdsOf which ↔ m.trackInfoOf which id ≠ .ok none) ↔
      ∀ p ∈ m.trackEntries which, Decimal.Spells p.1 id.toNat →
        ∃ q ∈ m.trackEntries which, q.1 = toString id := by
  have hlisted : id ∈ m.trackIdsOf which ↔
      ∃ p ∈ m.trackEntries which, Decimal.Spells p.1 id.toNat := by
    cases which <;> exact mem_trackIds_iff
  have hfound : m.trackInfoOf which id ≠ .ok none ↔
      ∃ p ∈ m.trackEntries which, p.1 = toString id := by
    cases which <;> exact trackInfo_ne_none_iff
  rw [hlisted, hfound]
  constructor
  · exact fun h p hp hspells => h.mp ⟨p, hp, hspells⟩
  · intro h
    refine ⟨fun ⟨p, hp, hspells⟩ => h p hp hspells, ?_⟩
    rintro ⟨p, hp, hkey⟩
    exact ⟨p, hp, hkey ▸ spells_toString id⟩

/-- **A zero in front**: the id of the key "01" is listed, and not found. -/
theorem trackIds_resolve_not_padded :
    let m : OnMetaData :=
      { OnMetaData.default with videoTrackIdInfoMap := some (.object [("01", .object [])]) }
    ¬ ((1 : UInt8) ∈ m.videoTrackIds ↔ m.videoTrackInfo 1 ≠ .ok none) := by
  intro m hiff
  have hspells : Decimal.Spells "01" (1 : UInt8).toNat := ⟨[], 1, .inl rfl, by decide⟩
  have hlisted : (1 : UInt8) ∈ m.videoTrackIds :=
    mem_trackIds_iff.mpr ⟨("01", .object []), List.mem_singleton_self _, hspells⟩
  exact hiff.mp hlisted rfl

end Rtmp.Flv
