import Rtmp.Amf.Value
import Rtmp.Error
import Rtmp.Lib.Schema

/-!
The argument of `onMetaData`: typical properties in typed fields, and the others as they came.

* `OnMetaData`, `OnMetaData.fromAmf0`, `OnMetaData.toAmf0`;
* `OnMetaData.schema`, `OnMetaData.record`: the table of typical properties as a schema that drops
  misfits, and what `OnMetaData` is a record of; `record_setProperty` and `toAmf0_eq` connect the two;
* `fromAmf0_toAmf0` (**lossless**): an object comes back with all its properties if and only if each
  typical property has the type of its field, and an `OnMetaData` comes back always.
-/

namespace Rtmp.Flv

structure OnMetaData where
  audiocodecid : Option Binary64
  audiodatarate : Option Binary64
  audiodelay : Option Binary64
  audiosamplerate : Option Binary64
  audiosamplesize : Option Binary64
  canSeekToEnd : Option Bool
  creationdate : Option String
  duration : Option Binary64
  filesize : Option Binary64
  framerate : Option Binary64
  height : Option Binary64
  stereo : Option Bool
  videocodecid : Option Binary64
  videodatarate : Option Binary64
  width : Option Binary64
  audioTrackIdInfoMap : Option Amf0Value
  videoTrackIdInfoMap : Option Amf0Value
  extra : List (String × Amf0Value)
  deriving Repr

namespace OnMetaData

def default : OnMetaData :=
  ⟨none, none, none, none, none, none, none, none, none, none, none, none, none, none, none, none, none,
    []⟩

/-- Read one property; a value of another type than its field's leaves the field empty. -/
def setProperty (m : OnMetaData) (p : String × Amf0Value) : OnMetaData :=
  match p.1 with
  | "audiocodecid" => { m with audiocodecid := p.2.asF64 }
  | "audiodatarate" => { m with audiodatarate := p.2.asF64 }
  | "audiodelay" => { m with audiodelay := p.2.asF64 }
  | "audiosamplerate" => { m with audiosamplerate := p.2.asF64 }
  | "audiosamplesize" => { m with audiosamplesize := p.2.asF64 }
  | "canSeekToEnd" => { m with canSeekToEnd := p.2.asBool }
  | "creationdate" => { m with creationdate := p.2.asStr }
  | "duration" => { m with duration := p.2.asF64 }
  | "filesize" => { m with filesize := p.2.asF64 }
  | "framerate" => { m with framerate := p.2.asF64 }
  | "height" => { m with height := p.2.asF64 }
  | "stereo" => { m with stereo := p.2.asBool }
  | "videocodecid" => { m with videocodecid := p.2.asF64 }
  | "videodatarate" => { m with videodatarate := p.2.asF64 }
  | "width" => { m with width := p.2.asF64 }
  | "audioTrackIdInfoMap" => { m with audioTrackIdInfoMap := some p.2 }
  | "videoTrackIdInfoMap" => { m with videoTrackIdInfoMap := some p.2 }
  | _ => { m with extra := m.extra ++ [p] }

def fromAmf0 : Amf0Value → Except Error OnMetaData
  | .ecmaArray pairs | .object pairs => .ok (pairs.foldl setProperty default)
  | _ => .error (.other "onMetaData: argument must be an ECMA array or Object")

end OnMetaData

/-- A property, if it has a value. -/
def pushProperty (key : String) (val : Option Amf0Value) : List (String × Amf0Value) :=
  (val.map (key, ·)).toList

def pushNum (key : String) (val : Option Binary64) : List (String × Amf0Value) :=
  pushProperty key (val.map .number)

def pushBool (key : String) (val : Option Bool) : List (String × Amf0Value) :=
  pushProperty key (val.map .boolean)

def pushStr (key : String) (val : Option String) : List (String × Amf0Value) :=
  pushProperty key (val.map .string)

/-! ### Types of properties -/

def isNumber (v : Amf0Value) : Bool := v.asF64.isSome

def isBoolean (v : Amf0Value) : Bool := v.asBool.isSome

def isString (v : Amf0Value) : Bool := v.asStr.isSome

lemma map_asF64 (v : Amf0Value) : v.asF64.map .number = if isNumber v then some v else none := by
  cases v <;> rfl

lemma map_asBool (v : Amf0Value) : v.asBool.map .boolean = if isBoolean v then some v else none := by
  cases v <;> rfl

lemma map_asStr (v : Amf0Value) : v.asStr.map .string = if isString v then some v else none := by
  cases v <;> rfl

lemma number_injective {a b : Option Binary64} (h : a.map Amf0Value.number = b.map .number) : a = b :=
  Option.map_injective (fun _ _ heq => Amf0Value.number.inj heq) h

/-- The first field is written before the others. -/
lemma present_cons (k : String) (v : Option Amf0Value) (typed : List (String × Option Amf0Value)) :
    Schema.present ((k, v) :: typed) = pushProperty k v ++ Schema.present typed := by
  cases v <;> rfl

namespace OnMetaData

def toAmf0 (m : OnMetaData) : Amf0Value :=
  .ecmaArray (pushNum "audiocodecid" m.audiocodecid
    ++ (pushNum "audiodatarate" m.audiodatarate
    ++ (pushNum "audiodelay" m.audiodelay
    ++ (pushNum "audiosamplerate" m.audiosamplerate
    ++ (pushNum "audiosamplesize" m.audiosamplesize
    ++ (pushBool "canSeekToEnd" m.canSeekToEnd
    ++ (pushStr "creationdate" m.creationdate
    ++ (pushNum "duration" m.duration
    ++ (pushNum "filesize" m.filesize
    ++ (pushNum "framerate" m.framerate
    ++ (pushNum "height" m.height
    ++ (pushBool "stereo" m.stereo
    ++ (pushNum "videocodecid" m.videocodecid
    ++ (pushNum "videodatarate" m.videodatarate
    ++ (pushNum "width" m.width
    ++ (pushProperty "audioTrackIdInfoMap" m.audioTrackIdInfoMap
    ++ (pushProperty "videoTrackIdInfoMap" m.videoTrackIdInfoMap
    ++ m.extra)))))))))))))))))

/-! ### The table -/

/-- The typical properties, each with the values that its field takes. -/
def schema : Schema String Amf0Value where
  fields := [("audiocodecid", isNumber), ("audiodatarate", isNumber), ("audiodelay", isNumber),
    ("audiosamplerate", isNumber), ("audiosamplesize", isNumber), ("canSeekToEnd", isBoolean),
    ("creationdate", isString), ("duration", isNumber), ("filesize", isNumber), ("framerate", isNumber),
    ("height", isNumber), ("stereo", isBoolean), ("videocodecid", isNumber),
    ("videodatarate", isNumber),
    ("width", isNumber), ("audioTrackIdInfoMap", fun _ => true), ("videoTrackIdInfoMap", fun _ => true)]
  nodup := by decide
  keepsMisfits := false

/-- The fields in the order of the table. -/
def typed (m : OnMetaData) : List (String × Option Amf0Value) :=
  [("audiocodecid", m.audiocodecid.map .number), ("audiodatarate", m.audiodatarate.map .number),
    ("audiodelay", m.audiodelay.map .number), ("audiosamplerate", m.audiosamplerate.map .number),
    ("audiosamplesize", m.audiosamplesize.map .number), ("canSeekToEnd", m.canSeekToEnd.map .boolean),
    ("creationdate", m.creationdate.map .string), ("duration", m.duration.map .number),
    ("filesize", m.filesize.map .number), ("framerate", m.framerate.map .number),
    ("height", m.height.map .number), ("stereo", m.stereo.map .boolean),
    ("videocodecid", m.videocodecid.map .number), ("videodatarate", m.videodatarate.map .number),
    ("width", m.width.map .number), ("audioTrackIdInfoMap", m.audioTrackIdInfoMap),
    ("videoTrackIdInfoMap", m.videoTrackIdInfoMap)]

set_option maxRecDepth 4000 in
/-- What the fields hold is what they take. -/
lemma fits_typed (m : OnMetaData) : ∀ p ∈ Schema.present m.typed, schema.fits p = true := by
  rintro ⟨k, v⟩ hp
  have hrow := Schema.mem_present.mp hp
  simp only [typed, List.mem_cons, Prod.mk.injEq, List.not_mem_nil, or_false] at hrow
  rcases hrow with ⟨rfl, h⟩ | ⟨rfl, h⟩ | ⟨rfl, h⟩ | ⟨rfl, h⟩ | ⟨rfl, h⟩ | ⟨rfl, h⟩ | ⟨rfl, h⟩ |
    ⟨rfl, h⟩ | ⟨rfl, h⟩ | ⟨rfl, h⟩ | ⟨rfl, h⟩ | ⟨rfl, h⟩ | ⟨rfl, h⟩ | ⟨rfl, h⟩ | ⟨rfl, h⟩ |
    ⟨rfl, -⟩ | ⟨rfl, -⟩
  all_goals first
    | rfl
    | obtain ⟨w, -, rfl⟩ := Option.map_eq_some_iff.mp h.symm
      rfl

def record (m : OnMetaData) : schema.Record := ⟨m.typed, m.extra, rfl, m.fits_typed⟩

/-- A field is read as the schema says: a value that it takes is kept, and another empties the field. -/
lemma record_field {m m' : OnMetaData} {k : String} {v : Amf0Value} (takes : Amf0Value → Bool)
    (hfield : schema.fields.find? (fun f => f.1 = k) = some (k, takes))
    (htyped : m'.typed = OrderedMap.replace k (if takes v then some v else none) m.typed)
    (hextra : m'.extra = m.extra) : m'.record = m.record.insert (k, v) := by
  have hother : schema.isOther (k, v) = false := by
    rw [Schema.isOther, hfield]
    rfl
  have htaken : schema.taken (k, v) = if takes v then some v else none := by
    rw [Schema.taken, Schema.fits, hfield]
  rw [Schema.Record.insert_of_not_isOther _ hother]
  ext1
  · rw [Schema.Record.typed_set, htaken]
    exact htyped
  · exact hextra

set_option maxRecDepth 4000 in
/-- **The fields**: a property is read into the record of its schema. -/
lemma record_setProperty (m : OnMetaData) (p : String × Amf0Value) :
    (m.setProperty p).record = m.record.insert p := by
  obtain ⟨k, v⟩ := p
  rw [setProperty]
  split
  case h_18 =>
    have hother : schema.isOther (k, v) = true := by
      refine Schema.isOther_of_not_mem ?_
      simp only [Schema.names, schema, List.map_cons, List.map_nil, List.mem_cons, List.not_mem_nil,
        or_false, not_or]
      simp_all
    rw [Schema.Record.insert_of_isOther _ hother]
    rfl
  all_goals
    rename_i hk
    obtain rfl : k = _ := hk
    first
      | exact record_field isNumber rfl (by rw [← map_asF64]; rfl) rfl
      | exact record_field isBoolean rfl (by rw [← map_asBool]; rfl) rfl
      | exact record_field isString rfl (by rw [← map_asStr]; rfl) rfl
      | exact record_field (fun _ => true) rfl rfl rfl

lemma record_foldl (m : OnMetaData) (pairs : List (String × Amf0Value)) :
    (pairs.foldl setProperty m).record = pairs.foldl Schema.Record.insert m.record := by
  induction pairs generalizing m with
  | nil => rfl
  | cons p pairs ih => rw [List.foldl_cons, ih, record_setProperty, List.foldl_cons]

/-- **The object**: what is written is what the record has. -/
lemma toAmf0_eq (m : OnMetaData) : m.toAmf0 = .ecmaArray m.record.entries := by
  simp only [toAmf0, Schema.Record.entries, record, typed, present_cons, pushNum, pushBool, pushStr,
    List.append_assoc]
  rfl

lemma record_injective {m m' : OnMetaData} (h : m.record = m'.record) : m = m' := by
  have hboolean : ∀ {a b : Option Bool}, a.map Amf0Value.boolean = b.map .boolean → a = b :=
    fun h => Option.map_injective (fun _ _ heq => Amf0Value.boolean.inj heq) h
  have hstring : ∀ {a b : Option String}, a.map Amf0Value.string = b.map .string → a = b :=
    fun h => Option.map_injective (fun _ _ heq => Amf0Value.string.inj heq) h
  have htyped : m.typed = m'.typed := congrArg Schema.Record.typed h
  have hextra : m.extra = m'.extra := congrArg Schema.Record.extra h
  simp only [typed, List.cons.injEq, Prod.mk.injEq, true_and, and_true] at htyped
  obtain ⟨h1, h2, h3, h4, h5, h6, h7, h8, h9, h10, h11, h12, h13, h14, h15, h16, h17⟩ := htyped
  cases m
  cases m'
  simp only [OnMetaData.mk.injEq]
  exact ⟨number_injective h1, number_injective h2, number_injective h3, number_injective h4,
    number_injective h5, hboolean h6, hstring h7, number_injective h8, number_injective h9,
    number_injective h10, number_injective h11, hboolean h12, number_injective h13,
    number_injective h14, number_injective h15, h16, h17, hextra⟩

/-- **Lossless**: an object whose names are distinct is written with the properties it had, those
outside the table in their order, if and only if every typical property has the type of its field;
and an `OnMetaData` whose other properties are outside the table is read as it was written. -/
theorem fromAmf0_toAmf0 (pairs : List (String × Amf0Value)) (m : OnMetaData) :
    ((pairs.map Prod.fst).Nodup → ∀ value, value = .object pairs ∨ value = .ecmaArray pairs →
      ∃ m' out, fromAmf0 value = .ok m' ∧ m'.toAmf0 = .ecmaArray out ∧ (out.map Prod.fst).Nodup ∧
        (((∀ p, p ∈ out ↔ p ∈ pairs) ∧
            out.filter (fun p => p.1 ∉ schema.names) = pairs.filter fun p => p.1 ∉ schema.names) ↔
          ∀ p ∈ pairs, schema.fits p = true)) ∧
    ((∀ p ∈ m.extra, p.1 ∉ schema.names) → fromAmf0 m.toAmf0 = .ok m) := by
  constructor
  · intro hnodup value hvalue
    have hread : fromAmf0 value = .ok (pairs.foldl setProperty default) := by
      rcases hvalue with rfl | rfl <;> rfl
    have hrecord : (pairs.foldl setProperty default).record = Schema.Record.ofEntries schema pairs :=
      record_foldl default pairs
    refine ⟨_, _, hread, toAmf0_eq _, ?_, ?_⟩
    · rw [hrecord]
      exact Schema.Record.nodup_entries_ofEntries rfl hnodup
    · rw [hrecord, Schema.Record.mem_entries_ofEntries_iff rfl hnodup]
      exact and_iff_left (Schema.Record.filter_entries_ofEntries rfl)
  · intro hextra
    have hback := m.record.ofEntries_entries fun p hp => Schema.isOther_of_not_mem (hextra p hp)
    rw [toAmf0_eq]
    refine congrArg Except.ok (record_injective ?_)
    exact (record_foldl default m.record.entries).trans hback

/-- Two typical properties and another one between them. -/
theorem fromAmf0_toAmf0_three :
    let pairs : List (String × Amf0Value) :=
      [("width", .number (.ofNat 640)), ("encoder", .string "x"), ("stereo", .boolean true)]
    let m : OnMetaData := { OnMetaData.default with stereo := some true, extra := [("encoder", .null)] }
    (∃ m out, fromAmf0 (.object pairs) = .ok m ∧ m.toAmf0 = .ecmaArray out ∧ ∀ p, p ∈ out ↔ p ∈ pairs) ∧
      fromAmf0 m.toAmf0 = .ok m := by
  intro pairs m
  obtain ⟨hobjects, hrecords⟩ := fromAmf0_toAmf0 pairs m
  obtain ⟨m', out, hread, hwrite, -, hiff⟩ := hobjects (by decide) _ (.inl rfl)
  have hfits : ∀ p ∈ pairs, schema.fits p = true := by
    intro p hp
    rcases List.mem_cons.mp hp with rfl | hp
    · rfl
    · rcases List.mem_pair.mp hp with rfl | rfl <;> rfl
  refine ⟨⟨m', out, hread, hwrite, (hiff.mpr hfits).1⟩, hrecords fun p hp => ?_⟩
  rw [List.mem_singleton.mp hp]
  decide

/-- **A dropped property**: a duration that is given as a string is not written again. -/
theorem not_lossless_duration :
    let pairs : List (String × Amf0Value) := [("duration", .string "90"), ("encoder", .string "x")]
    (pairs.map Prod.fst).Nodup ∧
      ∃ m, fromAmf0 (.ecmaArray pairs) = .ok m ∧ m.toAmf0 = .ecmaArray [("encoder", .string "x")] ∧
        ¬ ∀ p, p ∈ [("encoder", Amf0Value.string "x")] ↔ p ∈ pairs := by
  intro pairs
  refine ⟨by decide, _, rfl, rfl, fun h => ?_⟩
  simpa using (h ("duration", .string "90")).mpr List.mem_cons_self

end OnMetaData

end Rtmp.Flv
