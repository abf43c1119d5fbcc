import Rtmp.Flv.Multitrack

/-!
The header that enhanced audio and video tags share, behind the packet type of their first byte: the
ModEx prelude, the multitrack prelude and the FourCC of the tag.

The two kinds of tag differ in the packet types that announce the preludes, which are parameters here,
and in the word that their errors use for them.

* `ExHeader.packetNibble`, `ExHeader.build`, `parseExHeader`: the two directions;
* `parse_buildExHeader` (**round trip**) and `parseExHeader_eq_ok` (**canonical headers**).
-/

namespace Rtmp.Flv

/-- What an enhanced header says: the modifiers, the multitrack type if the tag has tracks, the packet
type and the FourCC. -/
structure ExHeader where
  modEx : List ModEx
  multitrackType : Option UInt8
  packetType : UInt8
  fourcc : Option FourCc
  deriving DecidableEq, Repr

/-- The ModEx prelude, if `packetType` announces one, and the packet type behind it. -/
def parseModExPrelude (what : String) (modExValue packetType : UInt8) :
    Eff Error (List UInt8) (List ModEx × UInt8) :=
  if packetType = modExValue then parseModExChain what modExValue
  else pure ([], packetType)

/-- The multitrack prelude, if `packetType` announces one, and the packet type of the tracks. -/
def parseMultitrackPrelude (what : String) (multitrackValue packetType : UInt8) :
    Eff Error (List UInt8) (Option UInt8 × UInt8) :=
  if packetType = multitrackValue then do
    let nibble ← Scan.byte (.other
      ("Enhanced RTMP " ++ what ++ " Multitrack: truncated reading multitrackType nibble"))
    let innerPt := nibble &&& 0x0F
    if innerPt = multitrackValue then
      Eff.fail (.other
        ("Enhanced RTMP " ++ what ++ " Multitrack: inner PacketType MUST NOT be Multitrack"))
    else pure (some ((nibble >>> 4) &&& 0x0F), innerPt)
  else pure (none, packetType)

/-- The FourCC, unless every track has one of its own. -/
def parseSharedFourCc (what : String) (multitrackType : Option UInt8) :
    Eff Error (List UInt8) (Option FourCc) :=
  if multitrackType = some avMultitrackTypeManyTracksManyCodecs then pure none
  else do
    let f ← FourCc.read (.other
      ("Enhanced RTMP " ++ what ++ " tag: need 4 bytes for FourCC after header/ModEx"))
    pure (some f)

def parseExHeader (what : String) (modExValue multitrackValue packetType : UInt8) :
    Eff Error (List UInt8) ExHeader := do
  let (modEx, packetType) ← parseModExPrelude what modExValue packetType
  let (multitrackType, packetType) ← parseMultitrackPrelude what multitrackValue packetType
  let fourcc ← parseSharedFourCc what multitrackType
  pure { modEx, multitrackType, packetType, fourcc }

namespace ExHeader

/-- The packet type behind the ModEx prelude. -/
def postModExPt (h : ExHeader) (multitrackValue : UInt8) : UInt8 :=
  if h.multitrackType.isSome then multitrackValue else h.packetType

/-- The packet type of the first byte. -/
def headerPt (h : ExHeader) (modExValue multitrackValue : UInt8) : UInt8 :=
  if h.modEx.isEmpty then h.postModExPt multitrackValue else modExValue

/-- The multitrack byte and the FourCC. -/
def buildPrelude (h : ExHeader) : List UInt8 :=
  match h.multitrackType with
  | some ty =>
      joinNibbles ty h.packetType
        :: (if ty ≠ avMultitrackTypeManyTracksManyCodecs then (h.fourcc.getD .zero).bytes else [])
  | none => (h.fourcc.getD .zero).bytes

/-- The header behind the first byte. -/
def build (h : ExHeader) (modExValue multitrackValue : UInt8) : List UInt8 :=
  buildModExChain modExValue (h.postModExPt multitrackValue) h.modEx ++ h.buildPrelude

/-- Everything fits its field, and the preludes cannot be mistaken for packet types. -/
structure WellFormed (h : ExHeader) (modExValue multitrackValue : UInt8) : Prop where
  modEx : ∀ e ∈ h.modEx, e.WellFormed
  type_lt : ∀ ty, h.multitrackType = some ty → ty.toNat < 16
  packetType_lt : h.packetType.toNat < 16
  not_multitrack : h.packetType ≠ multitrackValue
  not_modEx : h.multitrackType = none → h.packetType ≠ modExValue
  fourcc : h.fourcc = none ↔ h.multitrackType = some avMultitrackTypeManyTracksManyCodecs

end ExHeader

section

variable {what : String} {modExValue multitrackValue packetType : UInt8} {h : ExHeader}
  {rest u : List UInt8}

/-- The modifiers are read back, with whatever packet type follows them. -/
lemma parseModExPrelude_build {real : UInt8} {chain : List ModEx}
    (hchain : ∀ e ∈ chain, e.WellFormed) (hmod : modExValue.toNat < 16) (hreal : real.toNat < 16)
    (hother : real ≠ modExValue) :
    (parseModExPrelude what modExValue (if chain.isEmpty then real else modExValue)).run
        (buildModExChain modExValue real chain ++ u) = (.ok (chain, real), u) := by
  rw [parseModExPrelude]
  cases chain with
  | nil =>
      rw [List.isEmpty_nil, if_pos rfl, if_neg hother]
      rfl
  | cons e es =>
      rw [List.isEmpty_cons, if_neg Bool.false_ne_true, if_pos rfl]
      exact parse_buildModExChain (List.cons_ne_nil e es) hchain hmod hreal hother

lemma parseModExPrelude_eq_ok {real : UInt8} {chain : List ModEx} (hpt : packetType.toNat < 16)
    (hrun : (parseModExPrelude what modExValue packetType).run rest = (.ok (chain, real), u)) :
    (∀ e ∈ chain, e.WellFormed) ∧ real.toNat < 16 ∧ real ≠ modExValue ∧
      packetType = (if chain.isEmpty then real else modExValue) ∧
      ((packetType = modExValue → shortSizes modExValue (rest.length + 1) rest = true) →
        rest = buildModExChain modExValue real chain ++ u) := by
  rw [parseModExPrelude] at hrun
  split_ifs at hrun with hmod
  · obtain ⟨hne, hwell, hreal, hother, hbuilt⟩ := parseModExChain_eq_ok hrun
    have hnotEmpty : chain.isEmpty = false := List.isEmpty_eq_false_iff.mpr hne
    rw [hnotEmpty, if_neg Bool.false_ne_true]
    exact ⟨hwell, hreal, hother, hmod, fun hshort => hbuilt (hshort hmod)⟩
  · cases hrun
    exact ⟨fun e he => absurd he List.not_mem_nil, hpt, hmod, rfl, fun _ => rfl⟩

/-- The byte of the multitrack prelude, if there is one. -/
def multitrackBytes (multitrackType : Option UInt8) (packetType : UInt8) : List UInt8 :=
  match multitrackType with
  | some ty => [joinNibbles ty packetType]
  | none => []

/-- The FourCC, if there is one. -/
def fourccBytes (fourcc : Option FourCc) : List UInt8 :=
  match fourcc with
  | some f => f.bytes
  | none => []

/-- With a FourCC exactly where one is read, the two parts follow each other. -/
lemma ExHeader.buildPrelude_eq
    (hfourcc : h.fourcc = none ↔ h.multitrackType = some avMultitrackTypeManyTracksManyCodecs) :
    h.buildPrelude = multitrackBytes h.multitrackType h.packetType ++ fourccBytes h.fourcc := by
  obtain ⟨modEx, multitrackType, packetType, fourcc⟩ := h
  cases fourcc with
  | none =>
      have hmany : multitrackType = some avMultitrackTypeManyTracksManyCodecs := hfourcc.mp rfl
      subst hmany
      rfl
  | some f =>
      have hone : multitrackType ≠ some avMultitrackTypeManyTracksManyCodecs :=
        fun hmany => by simpa using hfourcc.mpr hmany
      cases multitrackType with
      | none => rfl
      | some ty =>
          have hty : ty ≠ avMultitrackTypeManyTracksManyCodecs := fun heq => hone (congrArg some heq)
          rw [ExHeader.buildPrelude]
          simp only [if_pos hty]
          rfl

lemma parseMultitrackPrelude_append {multitrackType : Option UInt8} {inner : UInt8}
    (htype : ∀ ty, multitrackType = some ty → ty.toNat < 16) (hinner : inner.toNat < 16)
    (hnot : inner ≠ multitrackValue) :
    (parseMultitrackPrelude what multitrackValue
        (if multitrackType.isSome then multitrackValue else inner)).run
      (multitrackBytes multitrackType inner ++ u) = (.ok (multitrackType, inner), u) := by
  rw [parseMultitrackPrelude]
  cases multitrackType with
  | none =>
      rw [Option.isSome_none, if_neg Bool.false_ne_true, if_neg hnot]
      rfl
  | some ty =>
      rw [Option.isSome_some, if_pos rfl, if_pos rfl, multitrackBytes, List.singleton_append,
        Eff.run_bind_ok Scan.byte_cons]
      simp only [low_joinNibbles (htype ty rfl) hinner, high_joinNibbles (htype ty rfl) hinner,
        if_neg hnot]
      rfl

lemma parseMultitrackPrelude_eq_ok {multitrackType : Option UInt8} {inner : UInt8}
    (hpt : packetType.toNat < 16)
    (hrun : (parseMultitrackPrelude what multitrackValue packetType).run rest
      = (.ok (multitrackType, inner), u)) :
    (∀ ty, multitrackType = some ty → ty.toNat < 16) ∧ inner.toNat < 16 ∧ inner ≠ multitrackValue ∧
      packetType = (if multitrackType.isSome then multitrackValue else inner) ∧
      rest = multitrackBytes multitrackType inner ++ u := by
  rw [parseMultitrackPrelude] at hrun
  by_cases hmt : packetType = multitrackValue
  · rw [if_pos hmt] at hrun
    obtain ⟨nibble, rest', hnibble, hrun⟩ := Eff.run_bind_eq_ok.mp hrun
    by_cases hinner : nibble &&& 0x0F = multitrackValue
    · simp only [if_pos hinner] at hrun
      cases hrun
    · simp only [if_neg hinner] at hrun
      cases hrun
      refine ⟨?_, toNat_low_lt nibble, hinner, hmt, ?_⟩
      · rintro ty ⟨⟩
        exact toNat_high_lt nibble
      · rw [Scan.byte_eq_ok.mp hnibble, multitrackBytes, joinNibbles_split]
        rfl
  · rw [if_neg hmt] at hrun
    cases hrun
    exact ⟨nofun, hpt, hmt, rfl, rfl⟩

lemma parseSharedFourCc_append {multitrackType : Option UInt8} {fourcc : Option FourCc}
    (hfourcc : fourcc = none ↔ multitrackType = some avMultitrackTypeManyTracksManyCodecs) :
    (parseSharedFourCc what multitrackType).run (fourccBytes fourcc ++ u) = (.ok fourcc, u) := by
  rw [parseSharedFourCc]
  cases fourcc with
  | none =>
      rw [if_pos (hfourcc.mp rfl)]
      rfl
  | some f =>
      rw [if_neg (fun hmany => by simpa using hfourcc.mpr hmany), fourccBytes,
        Eff.run_bind_ok FourCc.read_append]
      rfl

lemma parseSharedFourCc_eq_ok {multitrackType : Option UInt8} {fourcc : Option FourCc}
    (hrun : (parseSharedFourCc what multitrackType).run rest = (.ok fourcc, u)) :
    (fourcc = none ↔ multitrackType = some avMultitrackTypeManyTracksManyCodecs) ∧
      rest = fourccBytes fourcc ++ u := by
  rw [parseSharedFourCc] at hrun
  split_ifs at hrun with hmany
  · cases hrun
    exact ⟨iff_of_true rfl hmany, rfl⟩
  · obtain ⟨f, rest', hf, hrun⟩ := Eff.run_bind_eq_ok.mp hrun
    cases hrun
    exact ⟨iff_of_false nofun hmany, FourCc.read_eq_ok.mp hf⟩

/-- The packet type of the first byte is a nibble. -/
lemma ExHeader.WellFormed.toNat_headerPt_lt (hh : h.WellFormed modExValue multitrackValue)
    (hmod : modExValue.toNat < 16) (hmt : multitrackValue.toNat < 16) :
    (h.headerPt modExValue multitrackValue).toNat < 16 := by
  rw [ExHeader.headerPt, ExHeader.postModExPt]
  split_ifs
  · exact hmt
  · exact hh.packetType_lt
  · exact hmod

/-- **Round trip**: a well-formed header is read back, and what follows is left. -/
theorem parse_buildExHeader (hh : h.WellFormed modExValue multitrackValue)
    (hmod : modExValue.toNat < 16) (hmt : multitrackValue.toNat < 16)
    (hne : multitrackValue ≠ modExValue) :
    (parseExHeader what modExValue multitrackValue (h.headerPt modExValue multitrackValue)).run
        (h.build modExValue multitrackValue ++ u) = (.ok h, u) := by
  have hpost : (h.postModExPt multitrackValue).toNat < 16 ∧
      h.postModExPt multitrackValue ≠ modExValue := by
    rw [ExHeader.postModExPt]
    cases hty : h.multitrackType with
    | none => exact ⟨hh.packetType_lt, hh.not_modEx hty⟩
    | some ty => exact ⟨hmt, hne⟩
  obtain ⟨hpostlt, hpostne⟩ := hpost
  rw [ExHeader.build, ExHeader.buildPrelude_eq hh.fourcc, List.append_assoc, List.append_assoc]
  refine (Eff.run_bind_ok (parseModExPrelude_build hh.modEx hmod hpostlt hpostne)).trans ?_
  refine (Eff.run_bind_ok (parseMultitrackPrelude_append hh.type_lt hh.packetType_lt
    hh.not_multitrack)).trans ?_
  exact (Eff.run_bind_ok (parseSharedFourCc_append hh.fourcc)).trans rfl

/-- **Canonical headers**: a header that was read is well formed, starts as announced, and is the
built one when no modifier's size is escaped without need. -/
theorem parseExHeader_eq_ok (hpt : packetType.toNat < 16)
    (hrun : (parseExHeader what modExValue multitrackValue packetType).run rest = (.ok h, u)) :
    h.WellFormed modExValue multitrackValue ∧ packetType = h.headerPt modExValue multitrackValue ∧
      ((packetType = modExValue → shortSizes modExValue (rest.length + 1) rest = true) →
        rest = h.build modExValue multitrackValue ++ u) := by
  obtain ⟨⟨chain, real⟩, rest₁, hchain, hrun⟩ := Eff.run_bind_eq_ok.mp hrun
  obtain ⟨⟨multitrackType, inner⟩, rest₂, hmulti, hrun⟩ := Eff.run_bind_eq_ok.mp hrun
  obtain ⟨fourcc, rest₃, hshared, hrun⟩ := Eff.run_bind_eq_ok.mp hrun
  cases hrun
  obtain ⟨hwell, hreal, hother, hhead, hbuilt⟩ := parseModExPrelude_eq_ok hpt hchain
  obtain ⟨htype, hinner, hnot, hpost, hrest₁⟩ := parseMultitrackPrelude_eq_ok hreal hmulti
  obtain ⟨hfourcc, hrest₂⟩ := parseSharedFourCc_eq_ok hshared
  have hnotMod : multitrackType = none → inner ≠ modExValue := by
    rintro rfl
    rw [hpost] at hother
    exact hother
  refine ⟨⟨hwell, htype, hinner, hnot, hnotMod, hfourcc⟩, ?_, fun hshort => ?_⟩
  · rw [hhead, ExHeader.headerPt, ExHeader.postModExPt, hpost]
  · have hprelude := ExHeader.buildPrelude_eq (h := ⟨chain, multitrackType, inner, fourcc⟩) hfourcc
    rw [hbuilt hshort, hrest₁, hrest₂, ExHeader.build, hprelude, hpost, List.append_assoc,
      List.append_assoc]
    rfl

end

end Rtmp.Flv
