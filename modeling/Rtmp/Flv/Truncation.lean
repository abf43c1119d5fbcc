import Rtmp.Flv.Boundary

/-!
Files that were cut off.

* `Call.torn_prefix`: the beginning of a tag is the beginning of a frame;
* `FlvReader.new_short`: a header that is not all there is no header;
* `FlvReader.reads_prefix`: of the beginning of a row of tags the whole ones are read;
* `reads_truncated` (**truncation**): so they are of the beginning of a file, and what follows them is
  the end of the stream between two tags, and a truncation anywhere else.
-/

namespace Rtmp.Flv

namespace Call

variable {c : Call}

/-- The eleven bytes in front of the payload. -/
def header (c : Call) : List UInt8 :=
  c.rawType :: (ui24Bytes (UInt32.ofNat c.payload.length)
    ++ (ui24Bytes c.timestampMs ++ [(c.timestampMs >>> 24).toUInt8, 0, 0, 0]))

lemma length_header (c : Call) : c.header.length = 11 := rfl

lemma bytes_eq (c : Call) :
    c.bytes = c.header ++ (c.payload ++ Bytes.toBe 4 (11 + c.payload.length)) := by
  simp [bytes, tagBytes, header]

lemma length_bytes (c : Call) : c.bytes.length = c.payload.length + 15 := by
  rw [bytes, List.length_append, length_tagBytes, Bytes.length_toBe]
  omega

lemma streamId_header (c : Call) : streamId c.header = 0 := rfl

lemma dataSize_header (hc : c.Fits) : dataSize c.header = c.payload.length := by
  have hlt : c.payload.length < 256 ^ 3 := by
    have hle : c.payload.length ≤ 0x00FFFFFF := hc
    omega
  have hfield : (c.header.drop 1).take 3 = ui24Bytes (UInt32.ofNat c.payload.length) := rfl
  rw [dataSize, hfield, ui24Bytes_ofNat (hlt.trans (by norm_num)), Bytes.ofBe_toBe hlt]

/-- The beginning of a tag is the beginning of a frame. -/
lemma torn_prefix {maxTagSize : UInt32} {bytes : List UInt8} (hc : c.Fits)
    (hsize : c.payload.length ≤ maxTagSize.toNat) (hcut : bytes <+: c.bytes) (hne : bytes ≠ [])
    (hlt : bytes.length < c.bytes.length) : Torn maxTagSize bytes := by
  by_cases hheader : bytes.length < 11
  · exact .header hne hheader
  rw [bytes_eq] at hcut
  obtain ⟨rest, rfl⟩ : c.header <+: bytes :=
    List.prefix_of_prefix_length_le (List.prefix_append _ _) hcut (Nat.not_lt.mp hheader)
  rw [List.length_append, length_header, length_bytes] at hlt
  rw [← dataSize_header hc] at hsize hlt
  exact .body c.length_header hsize c.streamId_header (by omega)

end Call

namespace FlvReader

variable {r : FlvReader}

/-- Of the beginning of tags in a row the whole ones are read; then the source has ended, or ends
within a tag. -/
lemma reads_prefix {bytes : List UInt8} {cs : List Call} (hr : r.inner = bytes)
    (hopen : r.exhausted = false) (hcut : bytes <+: cs.flatMap Call.bytes)
    (hcs : ∀ c ∈ cs, c.payload.length ≤ r.maxTagSize.toNat ∧ c.Fits ∧ c.frame.decode = .ok c.tag) :
    ∃ whole rest r', cs = whole ++ rest ∧ (whole.flatMap Call.bytes).length ≤ bytes.length ∧
      (∀ c ∈ rest.head?, bytes.length < (whole.flatMap Call.bytes).length + c.bytes.length) ∧
      (Eff.times readTag whole.length).run r = (.ok (whole.map fun c => some c.tag), r') ∧
      (readTag.run r').1 = if bytes.length = (whole.flatMap Call.bytes).length then .ok none
        else .error .unexpectedEof := by
  induction cs generalizing r bytes with
  | nil =>
      have hnil : bytes = [] := List.prefix_nil.mp hcut
      refine ⟨[], [], r, rfl, Nat.zero_le _, nofun, rfl, ?_⟩
      rw [hnil] at hr ⊢
      rw [readTag_nil hr]
      rfl
  | cons c cs ih =>
      obtain ⟨hsize, hfits, hdecode⟩ := hcs c List.mem_cons_self
      rw [List.flatMap_cons] at hcut
      by_cases hwhole : c.bytes.length ≤ bytes.length
      · -- The tag is all there.
        obtain ⟨tail, rfl⟩ : c.bytes <+: bytes :=
          List.prefix_of_prefix_length_le (List.prefix_append _ _) hcut hwhole
        have hframe := readFrame_bytes hr hopen hsize hfits
        obtain ⟨whole, rest, r', rfl, hle, hnext, hreads, hlast⟩ := @ih (r.after tail c) tail rfl hopen
          ((List.prefix_append_right_inj _).mp hcut) fun c' hc' => hcs c' (List.mem_cons_of_mem _ hc')
        have hlen : ((c :: whole).flatMap Call.bytes).length
            = c.bytes.length + (whole.flatMap Call.bytes).length := by
          rw [List.flatMap_cons, List.length_append]
        refine ⟨c :: whole, rest, r', rfl, ?_, ?_, ?_, ?_⟩
        · rw [hlen, List.length_append]
          omega
        · intro c' hc'
          have hlt := hnext c' hc'
          rw [hlen, List.length_append]
          omega
        · rw [List.length_cons, Eff.times, Eff.run_bind_ok (readTag_of_frame hframe hdecode),
            Eff.run_bind_ok hreads]
          rfl
        · rw [hlast, hlen, List.length_append]
          simp only [Nat.add_left_cancel_iff]
      · have hlt := Nat.lt_of_not_le hwhole
        refine ⟨[], c :: cs, r, rfl, Nat.zero_le _, ?_, rfl, ?_⟩
        · rintro c' ⟨⟩
          rw [List.flatMap_nil, List.length_nil, Nat.zero_add]
          exact hlt
        · rw [List.flatMap_nil, List.length_nil]
          by_cases hnil : bytes = []
          · rw [hnil] at hr ⊢
            rw [readTag_nil hr]
            rfl
          · -- The stream ends within the tag.
            have hbytes : bytes <+: c.bytes :=
              List.prefix_of_prefix_length_le hcut (List.prefix_append _ _) hlt.le
            have htorn := Call.torn_prefix hfits hsize hbytes hnil hlt
            rw [← hr] at htorn
            obtain ⟨r', hrun, -⟩ := readFrame_torn htorn hopen
            rw [if_neg (by rwa [List.length_eq_zero_iff]), readTag, Eff.run_bind_error hrun]

/-- A header that is not all there is no header. -/
lemma new_short {flags : FlvHeaderFlags} {bytes : List UInt8}
    (hcut : bytes <+: (FlvWriter.new flags).inner) (hlt : bytes.length < 13) :
    FlvReader.new bytes = .error .unexpectedEof := by
  have hheader : (FlvWriter.new flags).inner = buildFlvHeader flags ++ Bytes.toBe 4 0 := rfl
  rw [FlvReader.new, withMaxTagSize, readFlvHeader]
  by_cases hshort : bytes.length < 9
  · rw [Eff.run_bind_error (readExactEof_short hshort)]
  · rw [hheader] at hcut
    obtain ⟨rest, rfl⟩ : buildFlvHeader flags <+: bytes :=
      List.prefix_of_prefix_length_le (List.prefix_append _ _) hcut (Nat.not_lt.mp hshort)
    have hrest : rest.length < 4 := by
      have hnine : (buildFlvHeader flags).length = 9 := rfl
      rw [List.length_append, hnine] at hlt
      omega
    have hsignature : (buildFlvHeader flags).take 3 = [0x46, 0x4C, 0x56] := rfl
    have hversion : (buildFlvHeader flags).getD 3 0 = flvVersion := rfl
    have hoffset : Bytes.ofBe ((buildFlvHeader flags).drop 5) = flvHeaderSize.toNat :=
      Bytes.ofBe_toBe (by decide : flvHeaderSize.toNat < 256 ^ 4)
    have hskip : (readExactEof 0).run rest = (.ok [], rest) := rfl
    have hread : (readExactEof 9).run (buildFlvHeader flags ++ rest)
        = (.ok (buildFlvHeader flags), rest) := readExactEof_append rfl
    rw [Eff.run_bind_ok hread, if_neg (not_not_intro hsignature),
      if_neg (not_not_intro hversion)]
    simp only [hoffset, Nat.sub_self, lt_irrefl, if_false]
    rw [Eff.run_bind_ok hskip, Eff.run_bind_error (readExactEof_short hrest)]

end FlvReader

/-- The calls of a session that succeeded. -/
def Call.written (cs : List Call) (outcomes : List (Except WriteError Unit)) : List Call :=
  ((cs.zip outcomes).filter fun p => decide (p.2 = .ok ())).map Prod.fst

lemma Call.written_outcomes (cs : List Call) :
    Call.written cs (cs.map Call.outcome) = cs.filter fun c => decide c.Fits := by
  induction cs with
  | nil => rfl
  | cons c cs ih =>
      rw [Call.written] at ih ⊢
      rw [List.map_cons, List.zip_cons_cons, List.filter_cons, List.filter_cons]
      by_cases hc : c.Fits
      · have houtcome : c.outcome = .ok () := if_pos hc
        simp only [decide_eq_true hc, houtcome, if_true, decide_true, List.map_cons, ih]
      · have houtcome : c.outcome ≠ .ok () := by
          rw [Call.outcome, if_neg hc]
          rintro ⟨⟩
        simp only [hc, houtcome, decide_false, Bool.false_eq_true, if_false, ih]

/-- **Truncation**: of the beginning of a file that is not all of it, a reader gets the tags that are
wholly there, with the sizes behind them, and then the end of the stream if it is cut off behind the
header or behind one of those sizes, and a truncation otherwise; within the header it is not opened
at all. -/
theorem reads_truncated {flags : FlvHeaderFlags} {cs : List Call} (hcs : ∀ c ∈ cs, c.WellFormed)
    {outcomes : List (Except WriteError Unit)} {w : FlvWriter}
    (hw : (Call.session cs).run (FlvWriter.new flags) = (.ok outcomes, w)) {bytes : List UInt8}
    (hcut : bytes <+: w.finish) (hproper : bytes ≠ w.finish) :
    (bytes.length < 13 → FlvReader.new bytes = .error .unexpectedEof) ∧
      (13 ≤ bytes.length → ∃ r whole rest r', FlvReader.new bytes = .ok r ∧
        Call.written cs outcomes = whole ++ rest ∧
        13 + (whole.flatMap Call.bytes).length ≤ bytes.length ∧
        (∃ c ∈ rest.head?, bytes.length < 13 + (whole.flatMap Call.bytes).length + c.bytes.length) ∧
        (Eff.times FlvReader.readTag whole.length).run r
          = (.ok (whole.map fun c => some c.tag), r') ∧
        (FlvReader.readTag.run r').1 = if bytes.length = 13 + (whole.flatMap Call.bytes).length
          then .ok none else .error .unexpectedEof) := by
  rw [run_session rfl cs] at hw
  cases hw
  rw [FlvWriter.finish, FlvWriter.inner_afterAll] at hcut hproper
  have hthirteen : (FlvWriter.new flags).inner.length = 13 := rfl
  constructor
  · intro hlt
    have hhead : bytes <+: (FlvWriter.new flags).inner :=
      List.prefix_of_prefix_length_le hcut (List.prefix_append _ _) (by omega)
    exact FlvReader.new_short hhead hlt
  · intro hle
    obtain ⟨tail, rfl⟩ : (FlvWriter.new flags).inner <+: bytes :=
      List.prefix_of_prefix_length_le (List.prefix_append _ _) hcut hle
    have htail := (List.prefix_append_right_inj _).mp hcut
    -- what was written are the calls that fit
    rw [Call.written_outcomes]
    set kept := cs.filter fun c => decide c.Fits
    have hkept : ∀ c ∈ kept, c.payload.length ≤ (min defaultMaxTagSize ui24Max).toNat ∧ c.Fits ∧
        c.frame.decode = .ok c.tag := by
      intro c hc
      obtain ⟨hmem, hfits⟩ := List.mem_filter.mp hc
      have hfits : c.Fits := of_decide_eq_true hfits
      exact ⟨hfits, hfits, Call.decode_frame (hcs c hmem) hfits⟩
    obtain ⟨whole, rest, r', hsplit, hbytes, hnext, hreads, hlast⟩ := @FlvReader.reads_prefix
      ⟨tail, flags, min defaultMaxTagSize ui24Max, 0, false, (FlvWriter.new flags).bytesWritten⟩
      tail kept rfl rfl htail hkept
    refine ⟨_, whole, rest, r', withMaxTagSize_new, hsplit, ?_, ?_, hreads, ?_⟩
    · rw [List.length_append, hthirteen]
      omega
    · cases rest with
      | nil =>
          -- with no call left the stream would be whole
          refine absurd (htail.eq_of_length_le ?_) fun h => hproper (congrArg _ h)
          rw [hsplit, List.append_nil]
          exact hbytes
      | cons c rest =>
          refine ⟨c, rfl, ?_⟩
          have hlt := hnext c rfl
          rw [List.length_append, hthirteen]
          omega
    · rw [hlast, List.length_append, hthirteen]
      simp only [Nat.add_left_cancel_iff]

/-- Two tags, cut off behind the first byte of the second. -/
theorem reads_truncated_second :
    let cs : List Call := [.raw 5 1 [0xAA], .raw 6 2 []]
    let w := ((FlvWriter.new ⟨true, true⟩).afterAll cs)
    ∃ r whole rest r', FlvReader.new (w.finish.take 30) = .ok r ∧
      Call.written cs [.ok (), .ok ()] = whole ++ rest ∧
      13 + (whole.flatMap Call.bytes).length ≤ 30 ∧
      (∃ c ∈ rest.head?, 30 < 13 + (whole.flatMap Call.bytes).length + c.bytes.length) ∧
      (Eff.times FlvReader.readTag whole.length).run r
        = (.ok (whole.map fun c => some c.tag), r') ∧
      (FlvReader.readTag.run r').1 = if 30 = 13 + (whole.flatMap Call.bytes).length
        then .ok none else .error .unexpectedEof := by
  intro cs w
  have hcs : ∀ c ∈ cs, c.WellFormed := by
    intro c hc
    rcases List.mem_pair.mp hc with rfl | rfl
    · exact ⟨by decide, by decide, by decide, by decide⟩
    · exact ⟨by decide, by decide, by decide, by decide⟩
  have hrun : (Call.session cs).run (FlvWriter.new ⟨true, true⟩) = (.ok [.ok (), .ok ()], w) :=
    run_session rfl cs
  have hlen : w.finish.length = 44 := by
    rw [FlvWriter.finish, FlvWriter.inner_afterAll]
    rfl
  have htake : (w.finish.take 30).length = 30 := by
    rw [List.length_take, hlen]
    rfl
  have hproper : w.finish.take 30 ≠ w.finish := by
    intro h
    have hsame := congrArg List.length h
    rw [htake, hlen] at hsame
    exact absurd hsame (by decide)
  have hread := (reads_truncated hcs hrun (List.take_prefix 30 _) hproper).2
  rw [htake] at hread
  exact hread (by decide)

end Rtmp.Flv
