import Rtmp.Error
import Rtmp.Lib.Scan

/-!
The ModEx prelude of an enhanced tag: a chain of sized modifiers, each followed by a byte whose low
nibble says what comes next.

* `parseModExChain`, `buildModExChain`: the two directions, for audio and for video;
* `ModEx.WellFormed`: a type of one nibble and `1..=65536` bytes of data;
* `parse_buildModExChain` (**round trip**): a built chain is read back, and what follows is left;
* `parseModExChain_eq_ok` (**canonical chains**): a chain that was read is well formed, and is the
  built one when all of its sizes are in their shortest form (`shortSizes`).
-/

namespace Rtmp.Flv

/-! ### Nibbles -/

lemma shiftRight_and_nibble : ∀ b : UInt8, (b >>> 4) &&& (0x0F : UInt8) = b >>> 4 :=
  Bytes.forall_byte (by decide +kernel)

lemma toNat_high_lt (b : UInt8) : ((b >>> 4) &&& 0x0F).toNat < 16 := by
  rw [UInt8.toNat_and]
  exact Nat.lt_succ_of_le Nat.and_le_right

lemma toNat_low_lt (b : UInt8) : (b &&& 0x0F).toNat < 16 := by
  rw [UInt8.toNat_and]
  exact Nat.lt_succ_of_le Nat.and_le_right

/-- Two nibbles in a byte. -/
def joinNibbles (high low : UInt8) : UInt8 := ((high &&& 0x0F) <<< 4) ||| (low &&& 0x0F)

/-- A byte is its two nibbles. -/
lemma joinNibbles_split : ∀ b : UInt8, joinNibbles ((b >>> 4) &&& 0x0F) (b &&& 0x0F) = b :=
  Bytes.forall_byte (by decide +kernel)

lemma and_nibble {a : UInt8} (h : a.toNat < 16) : a &&& 0x0F = a := by
  apply UInt8.toNat_inj.mp
  rw [UInt8.toNat_and]
  exact Nat.and_two_pow_sub_one_of_lt_two_pow (n := 4) h

lemma toNat_joinNibbles {high low : UInt8} (hh : high.toNat < 16) (hl : low.toNat < 16) :
    (joinNibbles high low).toNat = 16 * high.toNat + low.toNat := by
  rw [joinNibbles, and_nibble hh, and_nibble hl, UInt8.toNat_or, UInt8.toNat_shiftLeft]
  change high.toNat <<< 4 % 2 ^ 8 ||| low.toNat = _
  have hlt : high.toNat <<< 4 < 2 ^ 8 := by
    rw [Nat.shiftLeft_eq]
    omega
  rw [Nat.mod_eq_of_lt hlt, ← Nat.shiftLeft_add_eq_or_of_lt (by omega), Nat.shiftLeft_eq]
  omega

lemma high_joinNibbles {high low : UInt8} (hh : high.toNat < 16) (hl : low.toNat < 16) :
    (joinNibbles high low >>> 4) &&& 0x0F = high := by
  rw [shiftRight_and_nibble]
  apply UInt8.toNat_inj.mp
  rw [UInt8.toNat_shiftRight, toNat_joinNibbles hh hl]
  change (16 * high.toNat + low.toNat) >>> 4 = _
  rw [Nat.shiftRight_eq_div_pow]
  omega

lemma low_joinNibbles {high low : UInt8} (hh : high.toNat < 16) (hl : low.toNat < 16) :
    joinNibbles high low &&& 0x0F = low := by
  apply UInt8.toNat_inj.mp
  rw [UInt8.toNat_and, toNat_joinNibbles hh hl]
  have hmod : (16 * high.toNat + low.toNat) &&& 0x0F = (16 * high.toNat + low.toNat) % 2 ^ 4 :=
    Nat.and_two_pow_sub_one_eq_mod _ 4
  change (16 * high.toNat + low.toNat) &&& 0x0F = _
  rw [hmod]
  omega

/-! ### The chain -/

/-- One modifier. -/
structure ModEx where
  modExType : UInt8
  data : List UInt8
  deriving DecidableEq, Repr

/-- The type is a nibble on the wire, and the size is stored less one in at most 16 bits. -/
def ModEx.WellFormed (e : ModEx) : Prop :=
  e.modExType.toNat < 16 ∧ 1 ≤ e.data.length ∧ e.data.length ≤ 65536

/-- The size of the data: one byte, or three if that byte is at its largest. -/
def parseModExSize (what : String) : Eff Error (List UInt8) ℕ := do
  let b ← Scan.byte (.other
    ("Enhanced RTMP " ++ what ++ " ModEx: truncated reading modExDataSize"))
  if b.toNat + 1 = 256 then
    let v ← Scan.uintBe 2 (.other
      ("Enhanced RTMP " ++ what ++ " ModEx: truncated reading 16-bit modExDataSize"))
    pure (v + 1)
  else
    pure (b.toNat + 1)

/-- One modifier, and the packet type that comes after it. -/
def parseModExEntry (what : String) : Eff Error (List UInt8) (ModEx × UInt8) := do
  let size ← parseModExSize what
  let data ← Scan.bytes size fun _ => .other
    ("Enhanced RTMP " ++ what ++ " ModEx: truncated reading " ++ toString size ++ "-byte modExData")
  let nibble ← Scan.byte (.other
    ("Enhanced RTMP " ++ what ++ " ModEx: truncated reading modExType/packetType nibble"))
  pure (⟨(nibble >>> 4) &&& 0x0F, data⟩, nibble &&& 0x0F)

/-- Modifiers until one is followed by another packet type, for at most `rounds` of them. -/
def parseModExEntries (what : String) (modExValue : UInt8) :
    (rounds : ℕ) → Eff Error (List UInt8) (List ModEx × UInt8)
  | 0 => Eff.fail (.other ("Enhanced RTMP " ++ what ++ " ModEx: truncated reading modExDataSize"))
  | rounds + 1 => do
      let (entry, next) ← parseModExEntry what
      if next ≠ modExValue then pure ([entry], next)
      else
        let (chain, real) ← parseModExEntries what modExValue rounds
        pure (entry :: chain, real)

/-- The chain and the packet type behind it.  Every modifier takes bytes, so the rounds are never used
up. -/
def parseModExChain (what : String) (modExValue : UInt8) :
    Eff Error (List UInt8) (List ModEx × UInt8) where
  run rest := (parseModExEntries what modExValue (rest.length + 1)).run rest

/-- The size of the data, escaped where the one-byte form would be the escape itself. -/
def sizeBytes (len : ℕ) : List UInt8 :=
  if 1 ≤ len ∧ len ≤ 255 then [UInt8.ofNat (len - 1)]
  else 0xFF :: Bytes.toBe 2 (min (len - 1) 0xFFFF)

/-- A modifier, and the packet type that comes after it. -/
def ModEx.bytes (e : ModEx) (next : UInt8) : List UInt8 :=
  sizeBytes e.data.length ++ (e.data ++ [joinNibbles e.modExType next])

def buildModExChain (modExValue realPacketType : UInt8) : List ModEx → List UInt8
  | [] => []
  | e :: es =>
      e.bytes (if es.isEmpty then realPacketType else modExValue)
        ++ buildModExChain modExValue realPacketType es

/-- The size at the front of the input is not escaped without need. -/
def shortSize (rest : List UInt8) : Bool :=
  rest.head? ≠ some 0xFF || 255 ≤ Bytes.ofBe ((rest.drop 1).take 2)

/-- No size of the chain at the front of the input is escaped without need. -/
def shortSizes (modExValue : UInt8) : (rounds : ℕ) → List UInt8 → Bool
  | 0, _ => true
  | rounds + 1, rest =>
      shortSize rest && match (parseModExEntry "").run rest with
        | (.ok (_, next), rest') => next ≠ modExValue || shortSizes modExValue rounds rest'
        | (.error _, _) => true

/-! ### One modifier -/

section Entry

variable {what : String} {rest u : List UInt8} {e : ModEx} {next : UInt8}

lemma parse_sizeBytes {len : ℕ} (h1 : 1 ≤ len) (h2 : len ≤ 65536) :
    (parseModExSize what).run (sizeBytes len ++ u) = (.ok len, u) := by
  rw [sizeBytes, parseModExSize]
  by_cases hshort : 1 ≤ len ∧ len ≤ 255
  · have hbyte : (UInt8.ofNat (len - 1)).toNat = len - 1 := by
      rw [UInt8.toNat_ofNat', Nat.mod_eq_of_lt (by omega)]
    rw [if_pos hshort, List.singleton_append, Eff.run_bind_ok Scan.byte_cons, hbyte,
      if_neg (by omega), Nat.sub_add_cancel h1]
    rfl
  · have hmin : min (len - 1) 0xFFFF = len - 1 := min_eq_left (by omega)
    have hlt : len - 1 < 256 ^ 2 := by
      norm_num
      omega
    rw [if_neg hshort, hmin, List.cons_append, Eff.run_bind_ok Scan.byte_cons, if_pos (by decide),
      Eff.run_bind_ok (Scan.uintBe_append hlt), Nat.sub_add_cancel h1]
    rfl

/-- A size that was read is between one and 65536, and is the built one unless it was escaped without
need. -/
lemma parseModExSize_eq_ok {size : ℕ} (h : (parseModExSize what).run rest = (.ok size, u)) :
    1 ≤ size ∧ size ≤ 65536 ∧ (shortSize rest = true → rest = sizeBytes size ++ u) := by
  obtain ⟨b, rest₁, hb, h⟩ := Eff.run_bind_eq_ok.mp h
  have hrest := Scan.byte_eq_ok.mp hb
  have hb256 := b.toNat_lt
  split_ifs at h with hesc
  · obtain ⟨v, rest₂, hv, h⟩ := Eff.run_bind_eq_ok.mp h
    cases h
    obtain ⟨hlt, hrest₁⟩ := Scan.uintBe_eq_ok.mp hv
    have hvlt : v < 65536 := hlt
    have h255 : b.toNat = (0xFF : UInt8).toNat := by
      change b.toNat = 255
      omega
    have hbyte : b = 0xFF := UInt8.toNat_inj.mp h255
    refine ⟨Nat.succ_le_succ (Nat.zero_le v), hvlt, fun hshort => ?_⟩
    have htake : (Bytes.toBe 2 v ++ u).take 2 = Bytes.toBe 2 v :=
      List.take_left' (Bytes.length_toBe 2 v)
    -- the escape may spell a size that a single byte could, but not here
    have hlong : 255 ≤ v := by
      rw [shortSize, hrest, hbyte, hrest₁, List.drop_one, List.tail_cons, htake,
        Bytes.ofBe_toBe hlt] at hshort
      simpa using hshort
    have hmin : min v 0xFFFF = v := min_eq_left (by omega)
    rw [sizeBytes, if_neg (by omega), Nat.add_sub_cancel, hmin, hrest, hbyte, hrest₁]
    rfl
  · cases h
    refine ⟨Nat.succ_le_succ (Nat.zero_le _), by omega, fun _ => ?_⟩
    have hofNat : UInt8.ofNat b.toNat = b := UInt8.ofNat_toNat
    rw [sizeBytes, if_pos ⟨by omega, by omega⟩, Nat.add_sub_cancel, hofNat, hrest]
    rfl

/-- A built modifier is read back. -/
lemma parse_bytes (he : e.WellFormed) (hnext : next.toNat < 16) :
    (parseModExEntry what).run (e.bytes next ++ u) = (.ok (e, next), u) := by
  obtain ⟨htype, h1, h2⟩ := he
  rw [ModEx.bytes, List.append_assoc, List.append_assoc, parseModExEntry,
    Eff.run_bind_ok (parse_sizeBytes h1 h2), Eff.run_bind_ok (Scan.bytes_append rfl),
    List.singleton_append, Eff.run_bind_ok Scan.byte_cons, high_joinNibbles htype hnext,
    low_joinNibbles htype hnext]
  rfl

/-- A modifier that was read is well formed, and is the built one unless its size was escaped without
need. -/
lemma parseModExEntry_eq_ok (h : (parseModExEntry what).run rest = (.ok (e, next), u)) :
    e.WellFormed ∧ next.toNat < 16 ∧ (shortSize rest = true → rest = e.bytes next ++ u) := by
  obtain ⟨size, rest₁, hsize, h⟩ := Eff.run_bind_eq_ok.mp h
  obtain ⟨data, rest₂, hdata, h⟩ := Eff.run_bind_eq_ok.mp h
  obtain ⟨nibble, rest₃, hnibble, h⟩ := Eff.run_bind_eq_ok.mp h
  cases h
  obtain ⟨h1, h2, hshort⟩ := parseModExSize_eq_ok hsize
  obtain ⟨rfl, hrest₁⟩ := Scan.bytes_eq_ok.mp hdata
  have hrest₂ := Scan.byte_eq_ok.mp hnibble
  refine ⟨⟨toNat_high_lt nibble, h1, h2⟩, toNat_low_lt nibble, fun hs => ?_⟩
  rw [hshort hs, hrest₁, hrest₂, ModEx.bytes, joinNibbles_split, List.append_assoc, List.append_assoc]
  rfl

/-- The texts of the errors do not matter to a successful read. -/
lemma parseModExEntry_what (what' : String)
    (h : (parseModExEntry what).run rest = (.ok (e, next), u)) :
    (parseModExEntry what').run rest = (.ok (e, next), u) := by
  obtain ⟨size, rest₁, hsize, h⟩ := Eff.run_bind_eq_ok.mp h
  obtain ⟨data, rest₂, hdata, h⟩ := Eff.run_bind_eq_ok.mp h
  obtain ⟨nibble, rest₃, hnibble, h⟩ := Eff.run_bind_eq_ok.mp h
  have hsize' : (parseModExSize what').run rest = (.ok size, rest₁) := by
    obtain ⟨b, rest₀, hb, hsize⟩ := Eff.run_bind_eq_ok.mp hsize
    rw [parseModExSize, Eff.run_bind_ok (Scan.byte_eq_ok.mpr (Scan.byte_eq_ok.mp hb))]
    split_ifs at hsize ⊢
    · obtain ⟨v, rest', hv, hsize⟩ := Eff.run_bind_eq_ok.mp hsize
      exact (Eff.run_bind_ok (Scan.uintBe_eq_ok.mpr (Scan.uintBe_eq_ok.mp hv))).trans hsize
    · exact hsize
  rw [parseModExEntry, Eff.run_bind_ok hsize',
    Eff.run_bind_ok (Scan.bytes_eq_ok.mpr (Scan.bytes_eq_ok.mp hdata)),
    Eff.run_bind_ok (Scan.byte_eq_ok.mpr (Scan.byte_eq_ok.mp hnibble))]
  exact h

end Entry

/-! ### Chains -/

section Chain

variable {what : String} {modExValue real : UInt8} {rest u : List UInt8} {chain : List ModEx}

lemma length_le_buildModExChain : chain.length ≤ (buildModExChain modExValue real chain).length := by
  induction chain with
  | nil => exact Nat.zero_le _
  | cons e es ih =>
      rw [buildModExChain, ModEx.bytes, List.length_cons]
      simp only [List.length_append, List.length_singleton]
      omega

/-- **Round trip**: a built chain is read back with the packet type behind it. -/
theorem parse_buildModExChain (hne : chain ≠ []) (hchain : ∀ e ∈ chain, e.WellFormed)
    (hmod : modExValue.toNat < 16) (hreal : real.toNat < 16) (hother : real ≠ modExValue) :
    (parseModExChain what modExValue).run (buildModExChain modExValue real chain ++ u)
      = (.ok (chain, real), u) := by
  -- the rounds bound the chain, by induction on its entries
  have hrounds : ∀ rounds, chain.length ≤ rounds →
      (parseModExEntries what modExValue rounds).run (buildModExChain modExValue real chain ++ u)
        = (.ok (chain, real), u) := by
    induction chain with
    | nil => exact absurd rfl hne
    | cons e es ih =>
        intro rounds hlen
        obtain ⟨rounds, rfl⟩ := Nat.exists_eq_add_of_le' (Nat.le_of_add_left_le hlen)
        have he := hchain e List.mem_cons_self
        have hes := fun e' he' => hchain e' (List.mem_cons_of_mem e he')
        rw [buildModExChain, List.append_assoc, parseModExEntries]
        cases es with
        | nil =>
            rw [List.isEmpty_nil, if_pos rfl, Eff.run_bind_ok (parse_bytes he hreal)]
            simp only [if_pos hother]
            rfl
        | cons e' es =>
            have hmore := ih (List.cons_ne_nil e' es) hes rounds (Nat.le_of_succ_le_succ hlen)
            rw [List.isEmpty_cons, if_neg Bool.false_ne_true, Eff.run_bind_ok (parse_bytes he hmod)]
            simp only [if_neg (not_not_intro (rfl : modExValue = modExValue))]
            rw [Eff.run_bind_ok hmore]
            rfl
  -- an entry takes at least a byte, so there are rounds enough
  have hle : chain.length ≤ (buildModExChain modExValue real chain).length :=
    length_le_buildModExChain
  have hrun := hrounds ((buildModExChain modExValue real chain ++ u).length + 1)
    (by rw [List.length_append]; omega)
  exact hrun

/-- **Canonical chains**: a chain that was read is well formed and ends at another packet type, and it
is the built one when no size is escaped without need. -/
theorem parseModExChain_eq_ok
    (h : (parseModExChain what modExValue).run rest = (.ok (chain, real), u)) :
    chain ≠ [] ∧ (∀ e ∈ chain, e.WellFormed) ∧ real.toNat < 16 ∧ real ≠ modExValue ∧
      (shortSizes modExValue (rest.length + 1) rest = true →
        rest = buildModExChain modExValue real chain ++ u) := by
  have hrounds : ∀ rounds rest chain,
      (parseModExEntries what modExValue rounds).run rest = (.ok (chain, real), u) →
        chain ≠ [] ∧ (∀ e ∈ chain, e.WellFormed) ∧ real.toNat < 16 ∧ real ≠ modExValue ∧
          (shortSizes modExValue rounds rest = true →
            rest = buildModExChain modExValue real chain ++ u) := by
    intro rounds
    induction rounds with
    | zero => exact fun rest chain h => by cases h
    | succ rounds ih =>
        intro rest chain h
        obtain ⟨⟨e, next⟩, rest₁, hentry, h⟩ := Eff.run_bind_eq_ok.mp h
        obtain ⟨he, hnext, hshort⟩ := parseModExEntry_eq_ok hentry
        simp only [shortSizes, parseModExEntry_what "" hentry, Bool.and_eq_true]
        -- the nibble after an entry says whether another one follows
        by_cases hlast : next ≠ modExValue
        · simp only [if_pos hlast] at h
          cases h
          refine ⟨List.cons_ne_nil _ _, ?_, hnext, hlast, fun hs => ?_⟩
          · rintro e' he'
            rw [List.mem_singleton.mp he']
            exact he
          · rw [hshort hs.1, buildModExChain, buildModExChain, List.append_nil]
            rfl
        · simp only [if_neg hlast] at h
          obtain ⟨⟨es, real'⟩, rest₂, hes, h⟩ := Eff.run_bind_eq_ok.mp h
          cases h
          obtain ⟨hne, hwell, hreal, hother, hbuilt⟩ := ih _ _ hes
          have hnext : next = modExValue := not_not.mp hlast
          refine ⟨List.cons_ne_nil _ _, ?_, hreal, hother, fun hs => ?_⟩
          · intro e' he'
            rcases List.mem_cons.mp he' with rfl | hmem
            · exact he
            · exact hwell e' hmem
          · have hmore : shortSizes modExValue rounds rest₁ = true := by simpa [hnext] using hs.2
            have hnotEmpty : es.isEmpty = false := List.isEmpty_eq_false_iff.mpr hne
            rw [hshort hs.1, hbuilt hmore, buildModExChain, hnotEmpty, if_neg Bool.false_ne_true,
              hnext, List.append_assoc]
  exact hrounds _ _ _ h

end Chain

end Rtmp.Flv
