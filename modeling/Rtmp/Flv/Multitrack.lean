import Rtmp.Flv.ModEx

/-!
Multitrack bodies: FourCCs and track lists.

* `Multitrack.parse`, `Multitrack.encode`: the track list, in the three layouts of its type;
* `Multitrack.parse_encode`, `Multitrack.parse_eq_ok` (**tracks**): the two are inverse on well-formed
  track lists, and only these are read.
-/

namespace Rtmp.Flv

/-! ### FourCCs -/

/-- Four bytes that name a codec. -/
structure FourCc where
  c0 : UInt8
  c1 : UInt8
  c2 : UInt8
  c3 : UInt8
  deriving DecidableEq, Repr

namespace FourCc

def bytes (f : FourCc) : List UInt8 := [f.c0, f.c1, f.c2, f.c3]

/-- What stands for a FourCC that is missing. -/
def zero : FourCc := ⟨0, 0, 0, 0⟩

def read (truncated : Error) : Eff Error (List UInt8) FourCc := do
  let bs ← Scan.bytes 4 fun _ => truncated
  pure ⟨bs.getD 0 0, bs.getD 1 0, bs.getD 2 0, bs.getD 3 0⟩

variable {e : Error} {f : FourCc} {rest u : List UInt8}

lemma read_append : (read e).run (f.bytes ++ u) = (.ok f, u) := by
  have hlen : f.bytes.length = 4 := rfl
  rw [read, Eff.run_bind_ok (Scan.bytes_append hlen)]
  rfl

lemma read_eq_ok : (read e).run rest = (.ok f, u) ↔ rest = f.bytes ++ u := by
  constructor
  · intro h
    obtain ⟨bs, s, hbs, hf⟩ := Eff.run_bind_eq_ok.mp h
    cases hf
    obtain ⟨hlen, rfl⟩ := Scan.bytes_eq_ok.mp hbs
    obtain ⟨a, b, c, d, rfl⟩ := List.length_eq_four.mp hlen
    rfl
  · rintro rfl
    exact read_append

end FourCc

/-! ### Track lists -/

def avMultitrackTypeOneTrack : UInt8 := 0

def avMultitrackTypeManyTracksManyCodecs : UInt8 := 2

/-- One track; it has a FourCC of its own where every track has. -/
structure MultitrackTrack where
  fourcc : Option FourCc
  trackId : UInt8
  body : List UInt8
  deriving DecidableEq, Repr

structure Multitrack where
  multitrackType : UInt8
  tracks : List MultitrackTrack
  deriving DecidableEq, Repr

/-- The FourCC of a track, where every track has one of its own. -/
def parseTrackFourCc (multitrackType : UInt8) : Eff Error (List UInt8) (Option FourCc) :=
  if multitrackType = avMultitrackTypeManyTracksManyCodecs then do
    let f ← FourCc.read (.other "Multitrack: truncated reading per-track FourCC")
    pure (some f)
  else pure none

/-- One track of a list of the given type. -/
def parseTrack (multitrackType : UInt8) : Eff Error (List UInt8) MultitrackTrack := do
  let fourcc ← parseTrackFourCc multitrackType
  let trackId ← Scan.byte (.other "Multitrack: truncated reading trackId")
  if multitrackType = avMultitrackTypeOneTrack then
    let body ← Scan.all
    pure ⟨fourcc, trackId, body⟩
  else
    let size ← Scan.uintBe 3 (.other "Multitrack: truncated reading sizeOfTrack UI24")
    let body ← Scan.bytes size fun left => .other
      ("Multitrack: sizeOfTrack=" ++ toString size ++ " overruns remaining " ++ toString left
        ++ " bytes")
    pure ⟨fourcc, trackId, body⟩

/-- Tracks up to the end of the input, or the only one, for at most `rounds` of them. -/
def parseTracks (multitrackType : UInt8) : (rounds : ℕ) → Eff Error (List UInt8) (List MultitrackTrack)
  | 0 => pure []
  | rounds + 1 => do
      let track ← parseTrack multitrackType
      let left ← Eff.gets List.length
      if multitrackType = avMultitrackTypeOneTrack ∨ left = 0 then pure [track]
      else
        let tracks ← parseTracks multitrackType rounds
        pure (track :: tracks)

/-- A whole body.  Every track takes bytes, so the rounds are never used up. -/
def Multitrack.parse (multitrackType : UInt8) : Eff Error (List UInt8) Multitrack := do
  let left ← Eff.gets List.length
  if left = 0 then Eff.fail (.other "Multitrack: empty track list (need at least one track)")
  else
    let tracks ← parseTracks multitrackType left
    pure ⟨multitrackType, tracks⟩

def MultitrackTrack.encode (multitrackType : UInt8) (t : MultitrackTrack) : List UInt8 :=
  (if multitrackType = avMultitrackTypeManyTracksManyCodecs then (t.fourcc.getD .zero).bytes else [])
    ++ (t.trackId :: ((if multitrackType = avMultitrackTypeOneTrack then []
      else Bytes.toBe 3 (t.body.length &&& 0x00FFFFFF)) ++ t.body))

/-- A list of one track only has its first. -/
def Multitrack.encode (m : Multitrack) : List UInt8 :=
  ((if m.multitrackType = avMultitrackTypeOneTrack then m.tracks.take 1 else m.tracks).map
    (MultitrackTrack.encode m.multitrackType)).flatten

/-- A track has the fields its layout carries, and a size that the layout can say. -/
structure MultitrackTrack.WellFormed (multitrackType : UInt8) (t : MultitrackTrack) : Prop where
  fourcc : t.fourcc.isSome ↔ multitrackType = avMultitrackTypeManyTracksManyCodecs
  size : multitrackType ≠ avMultitrackTypeOneTrack → t.body.length < 2 ^ 24

/-- The type is a nibble on the wire; there are tracks, and one of them if the type says so. -/
structure Multitrack.WellFormed (m : Multitrack) : Prop where
  type_lt : m.multitrackType.toNat < 16
  nonempty : m.tracks ≠ []
  one : m.multitrackType = avMultitrackTypeOneTrack → m.tracks.length = 1
  tracks : ∀ t ∈ m.tracks, t.WellFormed m.multitrackType

section Tracks

variable {ty : UInt8} {t : MultitrackTrack} {rest u : List UInt8}

lemma parseTrackFourCc_append (h : t.fourcc.isSome ↔ ty = avMultitrackTypeManyTracksManyCodecs) :
    (parseTrackFourCc ty).run
        ((if ty = avMultitrackTypeManyTracksManyCodecs then (t.fourcc.getD .zero).bytes else []) ++ u)
      = (.ok t.fourcc, u) := by
  rw [parseTrackFourCc]
  split_ifs with hmany
  · obtain ⟨f, hf⟩ := Option.isSome_iff_exists.mp (h.mpr hmany)
    rw [hf, Option.getD_some, Eff.run_bind_ok FourCc.read_append]
    rfl
  · have hnone : t.fourcc = none := by
      rw [← Option.not_isSome_iff_eq_none]
      exact fun hsome => hmany (h.mp hsome)
    rw [hnone]
    rfl

/-- A written track is read back; the only track of a list takes all there is. -/
lemma parseTrack_encode (ht : t.WellFormed ty) (hu : ty = avMultitrackTypeOneTrack → u = []) :
    (parseTrack ty).run (t.encode ty ++ u) = (.ok t, u) := by
  rw [parseTrack, MultitrackTrack.encode, List.append_assoc,
    Eff.run_bind_ok (parseTrackFourCc_append ht.fourcc), List.cons_append,
    Eff.run_bind_ok Scan.byte_cons]
  by_cases hone : ty = avMultitrackTypeOneTrack
  · rw [if_pos hone, if_pos hone, List.nil_append, hu hone, List.append_nil]
    rfl
  · have hlt := ht.size hone
    have hmask : t.body.length &&& 0x00FFFFFF = t.body.length :=
      Nat.and_two_pow_sub_one_of_lt_two_pow hlt
    rw [if_neg hone, if_neg hone, List.append_assoc, hmask,
      Eff.run_bind_ok (Scan.uintBe_append (by norm_num; omega)),
      Eff.run_bind_ok (Scan.bytes_append rfl)]
    rfl

/-- A track that was read is well formed and is the written one. -/
lemma parseTrack_eq_ok (h : (parseTrack ty).run rest = (.ok t, u)) :
    t.WellFormed ty ∧ rest = t.encode ty ++ u ∧ (ty = avMultitrackTypeOneTrack → u = []) := by
  obtain ⟨fourcc, rest₁, hfourcc, h⟩ := Eff.run_bind_eq_ok.mp h
  obtain ⟨trackId, rest₂, hid, h⟩ := Eff.run_bind_eq_ok.mp h
  have hrest₁ := Scan.byte_eq_ok.mp hid
  -- a code is on the wire in the third mode only
  have hfront : (fourcc.isSome ↔ ty = avMultitrackTypeManyTracksManyCodecs) ∧
      rest = (if ty = avMultitrackTypeManyTracksManyCodecs then (fourcc.getD .zero).bytes else [])
        ++ rest₁ := by
    rw [parseTrackFourCc] at hfourcc
    split_ifs at hfourcc ⊢ with hmany
    · obtain ⟨f, rest', hf, hfourcc⟩ := Eff.run_bind_eq_ok.mp hfourcc
      cases hfourcc
      exact ⟨⟨fun _ => hmany, fun _ => rfl⟩, FourCc.read_eq_ok.mp hf⟩
    · cases hfourcc
      exact ⟨⟨fun hsome => (Bool.false_ne_true hsome).elim, fun hty => absurd hty hmany⟩, rfl⟩
  obtain ⟨hiff, hrest⟩ := hfront
  -- a single track has no size, it takes what is left
  by_cases hone : ty = avMultitrackTypeOneTrack
  · rw [if_pos hone] at h
    cases h
    refine ⟨⟨hiff, fun hne => absurd hone hne⟩, ?_, fun _ => rfl⟩
    rw [hrest, hrest₁, MultitrackTrack.encode, if_pos hone, List.append_nil]
    rfl
  · rw [if_neg hone] at h
    obtain ⟨size, rest₃, hsize, h⟩ := Eff.run_bind_eq_ok.mp h
    obtain ⟨body, rest₄, hbody, h⟩ := Eff.run_bind_eq_ok.mp h
    cases h
    obtain ⟨hlt, hrest₂⟩ := Scan.uintBe_eq_ok.mp hsize
    obtain ⟨rfl, hrest₃⟩ := Scan.bytes_eq_ok.mp hbody
    have hlt : body.length < 2 ^ 24 := lt_of_lt_of_eq hlt (by norm_num)
    have hmask : body.length &&& 0x00FFFFFF = body.length :=
      Nat.and_two_pow_sub_one_of_lt_two_pow hlt
    refine ⟨⟨hiff, fun _ => hlt⟩, ?_, fun h => absurd h hone⟩
    rw [hrest, hrest₁, hrest₂, hrest₃, MultitrackTrack.encode, if_neg hone, hmask]
    simp only [List.append_assoc, List.cons_append]

lemma length_pos_encode : 0 < (t.encode ty).length := by
  rw [MultitrackTrack.encode, List.length_append, List.length_cons]
  omega

lemma parseTracks_encode {ts : List MultitrackTrack} (hne : ts ≠ [])
    (hts : ∀ t ∈ ts, t.WellFormed ty) (hone : ty = avMultitrackTypeOneTrack → ts.length = 1)
    {rounds : ℕ} (hrounds : ts.length ≤ rounds) :
    (parseTracks ty rounds).run (ts.map (MultitrackTrack.encode ty)).flatten = (.ok ts, []) := by
  induction ts generalizing rounds with
  | nil => exact absurd rfl hne
  | cons t ts ih =>
      obtain ⟨rounds, rfl⟩ := Nat.exists_eq_add_of_le' (Nat.le_of_add_left_le hrounds)
      have ht := hts t List.mem_cons_self
      -- with one track nothing may follow
      have hempty : ty = avMultitrackTypeOneTrack → (ts.map (MultitrackTrack.encode ty)).flatten
          = [] := by
        intro hty
        have hlen : ts = [] := List.eq_nil_of_length_eq_zero (Nat.succ.inj (hone hty))
        rw [hlen]
        rfl
      rw [List.map_cons, List.flatten_cons, parseTracks,
        Eff.run_bind_ok (parseTrack_encode ht hempty), Eff.run_bind_ok (Eff.run_gets _ _)]
      cases ts with
      | nil =>
          rw [if_pos (.inr rfl)]
          rfl
      | cons t' ts =>
          have hmore : ¬ (ty = avMultitrackTypeOneTrack ∨
              ((t' :: ts).map (MultitrackTrack.encode ty)).flatten.length = 0) := by
            rintro (hty | hzero)
            · exact absurd (hone hty) (by simp)
            · have hpos : 0 < (t'.encode ty).length := length_pos_encode
              rw [List.map_cons, List.flatten_cons, List.length_append] at hzero
              omega
          have hts' := fun t'' ht'' => hts t'' (List.mem_cons_of_mem t ht'')
          have hrun := ih (List.cons_ne_nil t' ts) hts' (fun hty => absurd (.inl hty) hmore)
            (Nat.le_of_succ_le_succ hrounds)
          rw [if_neg hmore, Eff.run_bind_ok hrun]
          rfl

lemma parseTracks_eq_ok {ts : List MultitrackTrack} {rounds : ℕ} (hrounds : rest.length ≤ rounds)
    (hrest : rest ≠ []) (h : (parseTracks ty rounds).run rest = (.ok ts, u)) :
    ts ≠ [] ∧ (∀ t ∈ ts, t.WellFormed ty) ∧ (ty = avMultitrackTypeOneTrack → ts.length = 1) ∧
      rest = (ts.map (MultitrackTrack.encode ty)).flatten ∧ u = [] := by
  induction rounds generalizing rest ts with
  | zero => exact absurd (List.eq_nil_of_length_eq_zero (Nat.le_zero.mp hrounds)) hrest
  | succ rounds ih =>
      obtain ⟨t, rest₁, ht, h⟩ := Eff.run_bind_eq_ok.mp h
      obtain ⟨left, rest₂, hleft, h⟩ := Eff.run_bind_eq_ok.mp h
      cases hleft
      obtain ⟨hwell, hfront, hall⟩ := parseTrack_eq_ok ht
      split_ifs at h with hlast
      · cases h
        -- it ended for one of two reasons, and nothing is left in both
        have hu : u = [] := hlast.elim hall List.eq_nil_of_length_eq_zero
        subst hu
        refine ⟨List.cons_ne_nil _ _, ?_, fun _ => rfl, ?_, rfl⟩
        · intro t' ht'
          rw [List.mem_singleton.mp ht']
          exact hwell
        · rw [hfront]
          rfl
      · obtain ⟨hmany, hleft⟩ := not_or.mp hlast
        obtain ⟨ts', rest₃, hts, h⟩ := Eff.run_bind_eq_ok.mp h
        cases h
        have hpos : 0 < (t.encode ty).length := length_pos_encode
        have hlen : rest₁.length ≤ rounds := by
          rw [hfront, List.length_append] at hrounds
          omega
        have hne : rest₁ ≠ [] := fun hnil => hleft (by rw [hnil]; rfl)
        obtain ⟨-, hwells, -, hback, hu⟩ := ih hlen hne hts
        refine ⟨List.cons_ne_nil _ _, ?_, fun hty => absurd hty hmany, ?_, hu⟩
        · intro t' ht'
          rcases List.mem_cons.mp ht' with rfl | hmem
          · exact hwell
          · exact hwells t' hmem
        · rw [hfront, hback, List.map_cons, List.flatten_cons]

end Tracks

/-- **Tracks**: a well-formed track list is read back from its encoding. -/
theorem Multitrack.parse_encode {m : Multitrack} (hm : m.WellFormed) :
    (Multitrack.parse m.multitrackType).run m.encode = (.ok m, []) := by
  -- the encoder writes the first track alone, which is the only one
  have htake : (if m.multitrackType = avMultitrackTypeOneTrack then m.tracks.take 1 else m.tracks)
      = m.tracks := by
    split_ifs with hone
    · exact List.take_of_length_le (hm.one hone).le
    · rfl
  -- there are bytes enough for as many rounds
  have hlen : m.tracks.length ≤ m.encode.length := by
    rw [Multitrack.encode, htake, List.length_flatten, List.map_map]
    have hsum : ∀ ts : List MultitrackTrack, ts.length
        ≤ (ts.map (List.length ∘ MultitrackTrack.encode m.multitrackType)).sum := by
      intro ts
      induction ts with
      | nil => exact Nat.le_refl 0
      | cons t ts ih =>
          have hpos : 0 < (t.encode m.multitrackType).length := length_pos_encode
          rw [List.length_cons, List.map_cons, List.sum_cons, Function.comp_apply]
          omega
    exact hsum m.tracks
  have hpos : m.encode.length ≠ 0 := by
    have htracks := List.length_pos_iff.mpr hm.nonempty
    omega
  have hrun := parseTracks_encode hm.nonempty hm.tracks hm.one hlen
  have hencode : m.encode = (m.tracks.map (MultitrackTrack.encode m.multitrackType)).flatten := by
    rw [Multitrack.encode, htake]
  rw [Multitrack.parse, Eff.run_bind_ok (Eff.run_gets _ _), if_neg hpos]
  rw [← hencode] at hrun
  rw [Eff.run_bind_ok hrun]
  rfl

/-- A track list that was read is well formed and is the encoded one, up to the end of the input. -/
theorem Multitrack.parse_eq_ok {ty : UInt8} {rest u : List UInt8} {m : Multitrack}
    (hty : ty.toNat < 16) (h : (Multitrack.parse ty).run rest = (.ok m, u)) :
    m.WellFormed ∧ m.multitrackType = ty ∧ rest = m.encode ∧ u = [] := by
  obtain ⟨left, rest₁, hleft, h⟩ := Eff.run_bind_eq_ok.mp h
  cases hleft
  split_ifs at h with hzero
  · cases h
  · obtain ⟨ts, rest₂, hts, h⟩ := Eff.run_bind_eq_ok.mp h
    cases h
    have hne : rest ≠ [] := fun hnil => hzero (by rw [hnil]; rfl)
    obtain ⟨hnonempty, hwell, hone, hrest, hu⟩ := parseTracks_eq_ok (Nat.le_refl _) hne hts
    refine ⟨⟨hty, hnonempty, hone, hwell⟩, rfl, ?_, hu⟩
    rw [hrest, Multitrack.encode]
    split_ifs with h1
    · rw [List.take_of_length_le (hone h1).le]
    · rfl

end Rtmp.Flv
