import Rtmp.Error
import Rtmp.Lib.Quote
import Rtmp.Lib.Scan

/-!
The envelope of an encrypted FLV tag: the name of one filter and its parameters, in front of a body
that is passed on as it is.

* `EncryptedTag`, `parseEncryptedBody`, `EncryptedTag.encode`: the two directions;
* `EncryptedTag.WellFormed`: the name is that of the filter whose parameters the tag carries;
* `parseEncryptedBody_encode` (**round trip**): a well-formed tag is read back;
* `parseEncryptedBody_split`: where the parser splits a body;
* `parseEncryptedBody_eq_ok`: a tag that was read is well formed and encodes no longer than it was;
* **`envelopes_come_back`**: a body that was read gives a tag that comes back, with the same bytes
  behind the parameters.
-/

namespace Rtmp.Flv

def numFilters : UInt8 := 1

def filterNameEncryption : String := "Encryption"

def filterNameSelective : String := "SE"

/-- The length of an initialisation vector. -/
def ivLen : ℕ := 16

/-- An initialisation vector. -/
abbrev Iv := { bytes : List UInt8 // bytes.length = ivLen }

/-- What a filter says about its packet: a vector, or with selective encryption perhaps none. -/
inductive FilterParams where
  | encryption (iv : Iv)
  | selective (iv : Option Iv)
  deriving DecidableEq, Repr

namespace FilterParams

def encodedLen : FilterParams → ℕ
  | encryption _ => ivLen
  | selective iv => 1 + if iv.isSome then ivLen else 0

def encode : FilterParams → List UInt8
  | encryption iv => iv.1
  | selective none => [0x00]
  | selective (some iv) => 0x80 :: iv.1

/-- The filter that takes these parameters. -/
def filterName : FilterParams → String
  | encryption _ => filterNameEncryption
  | selective _ => filterNameSelective

end FilterParams

structure EncryptedTag where
  filterName : String
  params : FilterParams
  body : List UInt8
  deriving DecidableEq, Repr

namespace EncryptedTag

def encode (tag : EncryptedTag) : List UInt8 :=
  numFilters :: (Utf8.encode tag.filterName ++ 0 ::
    (Bytes.toBe 3 tag.params.encodedLen ++ (tag.params.encode ++ tag.body)))

/-- The parameters are those of the named filter. -/
def WellFormed (tag : EncryptedTag) : Prop := tag.filterName = tag.params.filterName

instance (tag : EncryptedTag) : Decidable tag.WellFormed := inferInstanceAs (Decidable (_ = _))

end EncryptedTag

/-- A name that ends before a zero byte. -/
def readFilterName : Eff Error (List UInt8) String where
  run rest :=
    match rest.dropWhile (· ≠ 0) with
    | [] => (.error (.other "FLV crypt: unterminated FilterName (§F.3.1)"), rest)
    | _nul :: rest' =>
        match Utf8.decode (rest.takeWhile (· ≠ 0)) with
        | some filterName => (.ok filterName, rest')
        | none => (.error (.other "FLV crypt: FilterName is not UTF-8 (§F.3.1)"), rest)

/-- The vector at the front of the parameters, whatever comes behind it. -/
def takeIv (bytes : List UInt8) : Option Iv :=
  if h : ivLen ≤ bytes.length then some ⟨bytes.take ivLen, List.length_take_of_le h⟩ else none

/-- The parameters of selective encryption: a bit that says whether there is a vector. -/
def parseSelectiveParams : List UInt8 → Except Error FilterParams
  | [] => .error (.other "FLV crypt: truncated SE EncryptedAU bitfield (§F.3.2)")
  | flags :: rest =>
      if flags &&& 0x80 ≠ 0 then
        match takeIv rest with
        | some iv => .ok (.selective (some iv))
        | none => .error (.other ("FLV crypt: encrypted SE FilterParams "
            ++ toString (rest.length + 1) ++ " bytes < 1 + 16-byte IV (§F.3.2)"))
      else .ok (.selective none)

/-- The parameters of the filter of that name. -/
def parseFilterParams (filterName : String) (paramsBytes : List UInt8) : Except Error FilterParams :=
  if filterName = filterNameEncryption then
    match takeIv paramsBytes with
    | some iv => .ok (.encryption iv)
    | none => .error (.other ("FLV crypt: 'Encryption' FilterParams " ++ toString paramsBytes.length
        ++ " bytes < 16-byte IV (§F.3.2)"))
  else if filterName = filterNameSelective then parseSelectiveParams paramsBytes
  else .error (.other ("FLV crypt: unknown FilterName " ++ Quote.quote filterName
    ++ " (§F.3.1 defines 'Encryption' / 'SE')"))

def readEncryptedBody : Eff Error (List UInt8) EncryptedTag := do
  let filters ← Scan.byte (.other "FLV crypt: truncated NumFilters (§F.3.1)")
  if filters ≠ numFilters then
    Eff.fail (.other ("FLV crypt: NumFilters " ++ toString filters.toNat ++ " != 1 (§F.3.1)"))
  else
    let filterName ← readFilterName
    let paramsLen ← Scan.uintBe 3 (.other "FLV crypt: truncated FilterParams Length (§F.3.1)")
    let paramsBytes ← Scan.bytes paramsLen fun _ =>
      .other ("FLV crypt: FilterParams Length " ++ toString paramsLen ++ " overruns body (§F.3.1)")
    let params ← Eff.ofExcept (parseFilterParams filterName paramsBytes)
    let body ← Scan.all
    pure { filterName, params, body }

def parseEncryptedBody (body : List UInt8) : Except Error EncryptedTag := (readEncryptedBody.run body).1

/-! ### The parts -/

section Parts

variable {rest u : List UInt8} {s : String} {iv : Iv} {params : FilterParams}

lemma readFilterName_append (hs : ∀ b ∈ Utf8.encode s, b ≠ 0) :
    readFilterName.run (Utf8.encode s ++ 0 :: u) = (.ok s, u) := by
  have hkeep : ∀ b ∈ Utf8.encode s, decide (b ≠ 0) = true := fun b hb => decide_eq_true (hs b hb)
  have hdrop : (Utf8.encode s ++ 0 :: u).dropWhile (· ≠ 0) = 0 :: u := by
    rw [List.dropWhile_append_of_pos hkeep]
    rfl
  have htake : (Utf8.encode s ++ 0 :: u).takeWhile (· ≠ 0) = Utf8.encode s := by
    rw [List.takeWhile_append_of_pos hkeep]
    exact List.append_nil _
  simp only [readFilterName, hdrop, htake, Utf8.decode_encode]

lemma readFilterName_eq_ok (h : readFilterName.run rest = (.ok s, u)) :
    rest = Utf8.encode s ++ 0 :: u := by
  rw [readFilterName] at h
  have hsplit := (List.takeWhile_append_dropWhile (p := (· ≠ 0)) (l := rest)).symm
  rcases hdrop : rest.dropWhile (· ≠ 0) with _ | ⟨nul, rest'⟩
  · simp only [hdrop] at h
    cases h
  · have hnul : nul = 0 := by
      have hne : rest.dropWhile (· ≠ 0) ≠ [] := by
        rw [hdrop]
        exact List.cons_ne_nil nul rest'
      have hhead := List.head_dropWhile_not (· ≠ (0 : UInt8)) hne
      simp only [hdrop, List.head_cons, decide_eq_false_iff_not, not_not] at hhead
      exact hhead
    cases hdecode : Utf8.decode (rest.takeWhile (· ≠ 0)) with
    | none =>
        simp only [hdrop, hdecode] at h
        cases h
    | some s' =>
        simp only [hdrop, hdecode] at h
        cases h
        rw [hnul] at hdrop
        rw [Utf8.encode_of_decode hdecode, ← hdrop]
        exact hsplit

lemma takeIv_append : takeIv (iv.1 ++ u) = some iv := by
  have hlen : ivLen ≤ (iv.1 ++ u).length := by
    rw [List.length_append, iv.2]
    exact Nat.le_add_right _ _
  rw [takeIv, dif_pos hlen, Option.some.injEq]
  exact Subtype.ext (List.take_left' iv.2)

lemma length_of_takeIv (h : takeIv rest = some iv) : ivLen ≤ rest.length := by
  rw [takeIv] at h
  split_ifs at h with hlen
  exact hlen

lemma FilterParams.length_encode : params.encode.length = params.encodedLen := by
  rcases params with iv | _ | iv
  · exact iv.2
  · rfl
  · rw [FilterParams.encode, List.length_cons, iv.2]
    rfl

/-- Parameters are read back under the name of their filter. -/
lemma parseFilterParams_encode : parseFilterParams params.filterName params.encode = .ok params := by
  have hother : filterNameSelective ≠ filterNameEncryption := by decide
  have htake : ∀ iv : Iv, takeIv iv.1 = some iv := by
    intro iv
    rw [← List.append_nil iv.1]
    exact takeIv_append
  rcases params with iv | _ | iv
  · rw [FilterParams.filterName, FilterParams.encode, parseFilterParams, if_pos rfl, htake]
  · rw [FilterParams.filterName, parseFilterParams, if_neg hother, if_pos rfl]
    rfl
  · rw [FilterParams.filterName, FilterParams.encode, parseFilterParams, if_neg hother, if_pos rfl,
      parseSelectiveParams, if_pos (by decide), htake]

/-- Parameters that were read belong to the named filter and encode no longer than they were. -/
lemma parseFilterParams_eq_ok (h : parseFilterParams s rest = .ok params) :
    s = params.filterName ∧ params.encodedLen ≤ rest.length := by
  rw [parseFilterParams] at h
  -- only with its flag set does a selective filter have a vector
  split_ifs at h with hwhole hselective
  · cases htake : takeIv rest with
    | none =>
        rw [htake] at h
        cases h
    | some iv =>
        rw [htake] at h
        cases h
        exact ⟨hwhole, length_of_takeIv htake⟩
  · cases rest with
    | nil => cases h
    | cons flags rest =>
        rw [parseSelectiveParams] at h
        split_ifs at h with hflag
        · cases htake : takeIv rest with
          | none =>
              rw [htake] at h
              cases h
          | some iv =>
              rw [htake] at h
              cases h
              have hlen := length_of_takeIv htake
              refine ⟨hselective, ?_⟩
              rw [FilterParams.encodedLen, Option.isSome_some, if_pos rfl, List.length_cons]
              omega
        · cases h
          exact ⟨hselective, Nat.succ_le_succ (Nat.zero_le _)⟩

end Parts

/-- No filter has a zero byte in its name. -/
lemma FilterParams.filterName_ne_zero (params : FilterParams) :
    ∀ b ∈ Utf8.encode params.filterName, b ≠ 0 := by
  have hwhole : ∀ b ∈ Utf8.encode filterNameEncryption, b ≠ 0 := by decide +kernel
  have hselective : ∀ b ∈ Utf8.encode filterNameSelective, b ≠ 0 := by decide +kernel
  cases params with
  | encryption iv => exact hwhole
  | selective iv => exact hselective

/-- **Round trip**: a well-formed tag is read back. -/
theorem parseEncryptedBody_encode {tag : EncryptedTag} (h : tag.WellFormed) :
    parseEncryptedBody tag.encode = .ok tag := by
  obtain ⟨filterName, params, body⟩ := tag
  have hname : filterName = params.filterName := h
  subst hname
  have hlen : params.encodedLen < 256 ^ 3 := by
    have hwhole : ivLen < 256 ^ 3 := by decide
    have hselective : 1 + ivLen < 256 ^ 3 := by decide
    rcases params with iv | _ | iv
    · exact hwhole
    · exact Nat.lt_of_le_of_lt (Nat.le_add_right 1 ivLen) hselective
    · exact hselective
  rw [parseEncryptedBody, EncryptedTag.encode, readEncryptedBody, Eff.run_bind_ok Scan.byte_cons,
    if_neg (not_not_intro rfl), Eff.run_bind_ok (readFilterName_append params.filterName_ne_zero),
    Eff.run_bind_ok (Scan.uintBe_append hlen),
    Eff.run_bind_ok (Scan.bytes_append FilterParams.length_encode), parseFilterParams_encode]
  rfl

/-- A body that was read is a header, parameters as long as it says, and the tag's own body. -/
lemma parseEncryptedBody_split {body : List UInt8} {tag : EncryptedTag}
    (h : parseEncryptedBody body = .ok tag) :
    ∃ paramsBytes, paramsBytes.length < 2 ^ 24 ∧
      parseFilterParams tag.filterName paramsBytes = .ok tag.params ∧
      body = numFilters :: (Utf8.encode tag.filterName ++ 0 ::
        (Bytes.toBe 3 paramsBytes.length ++ (paramsBytes ++ tag.body))) := by
  obtain ⟨s, hs⟩ : ∃ s, readEncryptedBody.run body = (.ok tag, s) := ⟨_, Prod.ext h rfl⟩
  obtain ⟨filters, rest₁, hfilters, hs⟩ := Eff.run_bind_eq_ok.mp hs
  split_ifs at hs with hone
  · cases hs
  · obtain ⟨filterName, rest₂, hname, hs⟩ := Eff.run_bind_eq_ok.mp hs
    obtain ⟨paramsLen, rest₃, hlen, hs⟩ := Eff.run_bind_eq_ok.mp hs
    obtain ⟨paramsBytes, rest₄, hbytes, hs⟩ := Eff.run_bind_eq_ok.mp hs
    obtain ⟨params, rest₅, hparams, hs⟩ := Eff.run_bind_eq_ok.mp hs
    obtain ⟨rest₆, rest₇, hbody, hs⟩ := Eff.run_bind_eq_ok.mp hs
    cases hbody
    cases hs
    rw [Eff.run_ofExcept, Prod.mk.injEq] at hparams
    obtain ⟨hparams, rfl⟩ := hparams
    -- put the pieces together again, from the last to the first
    obtain ⟨hlt, hrest₂⟩ := Scan.uintBe_eq_ok.mp hlen
    obtain ⟨hcount, hrest₃⟩ := Scan.bytes_eq_ok.mp hbytes
    refine ⟨paramsBytes, ?_, hparams, ?_⟩
    · rw [hcount]
      exact hlt.trans_eq (by norm_num)
    · rw [Scan.byte_eq_ok.mp hfilters, not_not.mp hone, readFilterName_eq_ok hname, hrest₂, hrest₃,
        hcount]

/-- A tag that was read is well formed and encodes no longer than it was: parameters behind the
vector are dropped. -/
theorem parseEncryptedBody_eq_ok {body : List UInt8} {tag : EncryptedTag}
    (h : parseEncryptedBody body = .ok tag) :
    tag.WellFormed ∧ tag.encode.length ≤ body.length := by
  obtain ⟨paramsBytes, -, hparams, hbody⟩ := parseEncryptedBody_split h
  obtain ⟨hfilter, hle⟩ := parseFilterParams_eq_ok hparams
  refine ⟨hfilter, ?_⟩
  rw [hbody, EncryptedTag.encode]
  simp only [List.length_cons, List.length_append, Bytes.length_toBe, FilterParams.length_encode]
  omega

/-- **Envelopes come back**: a tag whose name is that of its parameters' filter is read back, and so is
one that was read from any body, whose end it has as its own body, behind all of the parameters. -/
theorem envelopes_come_back :
    (∀ tag : EncryptedTag, tag.filterName = tag.params.filterName →
      parseEncryptedBody tag.encode = .ok tag) ∧
    ∀ body tag, parseEncryptedBody body = .ok tag →
      parseEncryptedBody tag.encode = .ok tag ∧
      (∃ front, tag.encode = front ++ tag.body) ∧
      ∃ paramsBytes, paramsBytes.length < 2 ^ 24 ∧
        body = numFilters :: (Utf8.encode tag.filterName ++ 0 ::
          (Bytes.toBe 3 paramsBytes.length ++ (paramsBytes ++ tag.body))) := by
  refine ⟨fun tag htag => parseEncryptedBody_encode htag, fun body tag h => ⟨?_, ?_, ?_⟩⟩
  · exact parseEncryptedBody_encode (parseEncryptedBody_eq_ok h).1
  · refine ⟨numFilters :: (Utf8.encode tag.filterName ++ 0 ::
      (Bytes.toBe 3 tag.params.encodedLen ++ tag.params.encode)), ?_⟩
    simp only [EncryptedTag.encode, List.cons_append, List.append_assoc]
  · obtain ⟨paramsBytes, hlen, -, hbody⟩ := parseEncryptedBody_split h
    exact ⟨paramsBytes, hlen, hbody⟩

/-- A packet in the clear, whose parameters are padded and whose body begins with a zero. -/
theorem envelopes_come_back_padded :
    let tag : EncryptedTag := ⟨filterNameSelective, .selective none, [0, 7]⟩
    parseEncryptedBody tag.encode = .ok tag := by
  intro tag
  exact (envelopes_come_back.2 [1, 83, 69, 0, 0, 0, 3, 0x7F, 1, 2, 0, 7] tag (by decide +kernel)).1

end Rtmp.Flv
