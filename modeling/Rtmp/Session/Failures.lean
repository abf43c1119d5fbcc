import Rtmp.Chunk.Walk
import Rtmp.Session.Isolation
import Rtmp.Session.Pings

/-!
Which failures of a publish session say that the input broke off.

* `NotEof`: the errors that do not; the parsers of tags, values, commands and shared objects fail with
  no other;
* `RtmpSession.handleMessage_eof`: a message that does is an aggregate whose body breaks off;
* `RtmpSession.round_breaksOff`: a round that does serves such a message.
-/

namespace Rtmp

open Eff (Raises)

/-- An error that does not say that the input broke off. -/
abbrev NotEof (e : Error) : Prop := e ≠ .unexpectedEof

/-! ### Tags -/

namespace Flv

/-- What holds of every parser of a tag. -/
abbrev TagErrors {α : Type} (x : Eff Error (List UInt8) α) : Prop := Raises (fun _ => True) NotEof x

lemma tagErrors_parseModExEntry (what : String) : TagErrors (parseModExEntry what) := by
  have hsize : TagErrors (parseModExSize what) := by
    refine (Scan.byte_raises nofun).bind fun b => .ite ?_ (.pure _)
    exact (Scan.uintBe_raises nofun).bind fun _ => .pure _
  exact hsize.bind fun size => (Scan.bytes_raises fun _ => nofun).bind fun _ =>
    (Scan.byte_raises nofun).bind fun _ => .pure _

lemma tagErrors_parseModExEntries (what : String) (modExValue : UInt8) (rounds : ℕ) :
    TagErrors (parseModExEntries what modExValue rounds) := by
  induction rounds with
  | zero => exact .fail nofun
  | succ rounds ih =>
      refine (tagErrors_parseModExEntry what).bind fun p => .ite (.pure _) ?_
      exact ih.bind fun _ => .pure _

lemma tagErrors_fourcc {e : Error} (he : NotEof e) : TagErrors (FourCc.read e) :=
  (Scan.bytes_raises fun _ => he).bind fun _ => .pure _

lemma tagErrors_parseExHeader (what : String) (modExValue multitrackValue packetType : UInt8) :
    TagErrors (parseExHeader what modExValue multitrackValue packetType) := by
  have hmodEx : TagErrors (parseModExChain what modExValue) :=
    fun s _ => tagErrors_parseModExEntries what modExValue (s.length + 1) s trivial
  refine .bind (.ite hmodEx (.pure _)) fun p => .bind ?_ fun q => .bind ?_ fun _ => .pure _
  · refine .ite ((Scan.byte_raises nofun).bind fun nibble => ?_) (.pure _)
    exact .ite (.fail nofun) (.pure _)
  · refine .ite (.pure _) (.bind (tagErrors_fourcc ?_) fun _ => .pure _)
    exact nofun

lemma tagErrors_parseMultitrack (multitrackType : UInt8) :
    TagErrors (Multitrack.parse multitrackType) := by
  have hfourcc : TagErrors (parseTrackFourCc multitrackType) :=
    .ite (.bind (tagErrors_fourcc (by exact nofun)) fun _ => .pure _) (.pure _)
  have htrack : TagErrors (parseTrack multitrackType) := by
    refine hfourcc.bind fun fourcc => (Scan.byte_raises nofun).bind fun trackId => .ite ?_ ?_
    · exact Scan.all_raises.bind fun _ => .pure _
    · exact (Scan.uintBe_raises nofun).bind fun size => (Scan.bytes_raises fun _ => nofun).bind
        fun _ => .pure _
  have htracks : ∀ rounds, TagErrors (parseTracks multitrackType rounds) := by
    intro rounds
    induction rounds with
    | zero => exact .pure _
    | succ rounds ih =>
        refine htrack.bind fun track => (Raises.gets _).bind fun left => .ite (.pure _) ?_
        exact ih.bind fun _ => .pure _
  exact (Raises.gets _).bind fun left => .ite (.fail nofun) ((htracks left).bind fun _ => .pure _)

lemma parseVideo_notEof (payload : List UInt8) (e : Error) (h : parseVideo payload = .error e) :
    NotEof e := by
  have hex : ∀ b0, TagErrors (parseExVideo b0) := by
    intro b0
    refine (tagErrors_parseExHeader _ _ _ _).bind fun header => ?_
    cases header.multitrackType with
    | some mtType => exact (tagErrors_parseMultitrack mtType).bind fun _ => .pure _
    | none =>
        refine Raises.bind (.ite ?_ (.pure _)) fun _ => Scan.all_raises.bind fun _ => .pure _
        exact (Scan.uintBe_raises nofun).bind fun _ => .pure _
  have hlegacy : ∀ b0, TagErrors (parseLegacyVideo b0) := by
    intro b0
    refine .ite (Scan.all_raises.bind fun _ => .pure _) (.ite ?_ ?_)
    · exact (Scan.bytes_raises fun _ => nofun).bind fun _ => Scan.all_raises.bind fun _ => .pure _
    · exact Scan.all_raises.bind fun _ => .pure _
  have hread : TagErrors readVideo :=
    (Scan.byte_raises nofun).bind fun b0 => .ite (hex b0) (hlegacy b0)
  exact (hread payload trivial).1 e h

lemma parseAudio_notEof (payload : List UInt8) (e : Error) (h : parseAudio payload = .error e) :
    NotEof e := by
  have hex : ∀ b0, TagErrors (parseExAudio b0) := by
    intro b0
    refine (tagErrors_parseExHeader _ _ _ _).bind fun header => ?_
    cases header.multitrackType with
    | some mtType => exact (tagErrors_parseMultitrack mtType).bind fun _ => .pure _
    | none => exact Scan.all_raises.bind fun _ => .pure _
  have hlegacy : ∀ b0, TagErrors (parseLegacyAudio b0) := by
    intro b0
    refine .ite ?_ (Scan.all_raises.bind fun _ => .pure _)
    exact (Scan.byte_raises nofun).bind fun _ => Scan.all_raises.bind fun _ => .pure _
  have hread : TagErrors readAudio :=
    (Scan.byte_raises nofun).bind fun b0 => .ite (hex b0) (hlegacy b0)
  exact (hread payload trivial).1 e h

end Flv

/-! ### AMF3 values -/

namespace Amf3

/-- No class has a reader of its own, as in a decoder that was just set up. -/
def Unregistered (d : Decoder) : Prop := d.externalizableHandlers = fun _ => none

/-- What holds of every step of the decoder without such readers. -/
abbrev ValueErrors {α : Type} (x : DecodeM α) : Prop :=
  Raises (fun s : List UInt8 × Decoder => Unregistered s.2) NotEof x

variable {child : DecodeM Amf3Value} {buf : List UInt8}

lemma readU29From_raises (n value : ℕ) : Raises (fun _ => True) NotEof (readU29From n value) := by
  induction n generalizing value with
  | zero => exact (Scan.byte_raises nofun).bind fun _ => .pure _
  | succ n ih => exact (Scan.byte_raises nofun).bind fun _ => .ite (.pure _) (ih _)

lemma readDouble_raises : Raises (fun _ => True) NotEof readDouble :=
  (Scan.uintBe_raises nofun).bind fun _ => .pure _

lemma valueErrors_header : ValueErrors (Eff.onFst readU29) := (readU29From_raises 3 0).onFst

lemma valueErrors_byte : ValueErrors (Eff.onFst readU8) := (Scan.byte_raises nofun).onFst

lemma valueErrors_gets {α : Type} (f : Decoder → α) : ValueErrors (Eff.onSnd (Eff.gets f)) :=
  (Raises.gets f).onSnd

/-- The tables change, the readers do not. -/
lemma valueErrors_modify {f : Decoder → Decoder}
    (h : ∀ d, (f d).externalizableHandlers = d.externalizableHandlers) :
    ValueErrors (Eff.onSnd (Eff.modify f)) :=
  (Raises.modify fun d hd => (h d).trans hd).onSnd

lemma valueErrors_lookupObject (idx : ℕ) : ValueErrors (lookupObject idx) := by
  refine (valueErrors_gets _).bind fun v => ?_
  cases v with
  | none => exact .fail nofun
  | some v => exact .pure v

lemma valueErrors_utf8 (n : ℕ) : ValueErrors (Eff.onFst (readUtf8Body n)) :=
  (Scan.utf8_raises (fun _ => nofun) fun _ => nofun).onFst

lemma notEof_invalidAmf0 (text : String) : NotEof (.invalidAmf0 text) := nofun

lemma valueErrors_readString : ValueErrors readString := by
  have hintern : ∀ s, ValueErrors (Eff.onSnd (Eff.modify (Decoder.internString s))) := by
    refine fun s => valueErrors_modify fun d => ?_
    rw [Decoder.internString]
    split_ifs <;> rfl
  refine valueErrors_header.bind fun header => .ite ((valueErrors_gets _).bind fun s => ?_) ?_
  · cases s with
    | none => exact .fail (notEof_invalidAmf0 _)
    | some s => exact .pure s
  · exact (valueErrors_utf8 _).bind fun s => (hintern s).bind fun _ => .pure _

lemma valueErrors_readObjectString : ValueErrors readObjectString := by
  refine valueErrors_header.bind fun header => .ite ((valueErrors_gets _).bind fun v => ?_) ?_
  · split
    · exact .pure _
    · exact .pure _
    · exact .fail nofun
    · exact .fail nofun
  · exact (valueErrors_utf8 _).bind fun _ => (valueErrors_modify fun _ => rfl).bind fun _ => .pure _

lemma valueErrors_byReference {inline : ℕ → DecodeM Amf3Value}
    (h : ∀ header, ValueErrors (inline header)) : ValueErrors (byReference inline) :=
  valueErrors_header.bind fun header => .ite (valueErrors_lookupObject _) (h header)

lemma valueErrors_readLeaf {leaf : ℕ → Eff Error (List UInt8) Amf3Value}
    (h : ∀ n, Raises (fun _ => True) NotEof (leaf n)) : ValueErrors (readLeaf leaf) :=
  valueErrors_byReference fun _ => ((h _).onFst : ValueErrors _).bind fun _ =>
    (valueErrors_modify fun _ => rfl).bind fun _ => .pure _

lemma valueErrors_inSlot {body : DecodeM Amf3Value} (h : ValueErrors body) :
    ValueErrors (inSlot body) := by
  refine Raises.bind (Raises.modifyGet fun d hd => ?_).onSnd fun slot => ?_
  · exact hd
  · exact h.bind fun _ => (valueErrors_modify fun _ => rfl).bind fun _ => .pure _

lemma valueErrors_readMembers (h : ValueErrors child) : ValueErrors (readMembers child) := by
  refine Raises.bind (Raises.gets _).onFst fun unread => Raises.collect ?_ _
  exact valueErrors_readString.bind fun k => .ite (.pure _) (h.bind fun _ => .pure _)

lemma valueErrors_readTraits (header : ℕ) : ValueErrors (readTraits header) := by
  refine .ite ((valueErrors_gets _).bind fun t => ?_) ?_
  · cases t with
    | none => exact .fail nofun
    | some t => exact .pure t
  · exact valueErrors_readString.bind fun _ => (valueErrors_readString.times _).bind fun _ =>
      (valueErrors_modify fun _ => rfl).bind fun _ => .pure _

/-- Without a reader for its class, an object of a length unknown is refused. -/
lemma valueErrors_readExternalizable (t : TraitDef) : ValueErrors (readExternalizable buf t) := by
  intro s hs
  have hnone : s.2.externalizableHandlers t.className = none := congrFun hs t.className
  have hget : (Eff.onSnd (Eff.gets fun d : Decoder => d.externalizableHandlers t.className) :
      DecodeM (Option ExternalizableReader)).run s = (.ok none, s) := by
    rw [← hnone]
    rfl
  have hfail : ∀ text, ValueErrors (Eff.fail (.invalidAmf0 text) : DecodeM Amf3Value) :=
    fun _ => .fail nofun
  rw [readExternalizable, Eff.run_bind_ok hget]
  exact hfail _ s hs

lemma valueErrors_readObjectBody (h : ValueErrors child) (t : TraitDef) :
    ValueErrors (readObjectBody child t) :=
  (h.times _).bind fun _ => .bind (.ite (valueErrors_readMembers h) (.pure _)) fun _ => .pure _

lemma valueErrors_readMarked (h : ValueErrors child) (marker : UInt8) :
    ValueErrors (readMarked buf child marker) := by
  rw [readMarked.eq_def]
  have hvector : ∀ {α : Type} {x : Eff Error (List UInt8) α} (make : UInt8 → List α → Amf3Value),
      Raises (fun _ => True) NotEof x → ValueErrors (readLeaf fun count => do
        let fixed ← readU8
        let items ← Eff.times x count
        pure (make fixed items)) :=
    fun make hx => valueErrors_readLeaf fun n =>
      (Scan.byte_raises (notEof_invalidAmf0 _)).bind fun _ => (hx.times n).bind fun _ => .pure _
  split
  -- the markers that stand for themselves are left for the end
  case h_5 =>
    refine Raises.bind (Raises.onFst ?_) fun _ => .pure _
    exact (readU29From_raises 3 0).bind fun _ => .ite (.pure _) (.pure _)
  case h_6 => exact Raises.bind readDouble_raises.onFst fun _ => .pure _
  case h_7 => exact valueErrors_readString.bind fun _ => .pure _
  case h_8 => exact valueErrors_readObjectString.bind fun _ => .pure _
  case h_9 => exact valueErrors_readLeaf fun _ => readDouble_raises.bind fun _ => .pure _
  case h_10 =>
    exact valueErrors_byReference fun _ => valueErrors_inSlot
      ((valueErrors_readMembers h).bind fun _ => (h.times _).bind fun _ => .pure _)
  case h_11 =>
    exact valueErrors_byReference fun header => (valueErrors_readTraits header).bind fun t =>
      valueErrors_inSlot
        (.ite (valueErrors_readExternalizable t) (valueErrors_readObjectBody h t))
  case h_12 => exact valueErrors_readObjectString.bind fun _ => .pure _
  case h_13 =>
    exact valueErrors_readLeaf fun _ => (Scan.bytes_raises fun _ => (notEof_invalidAmf0 _)).bind
      fun _ => .pure _
  case h_14 => exact hvector _ (Scan.uintBe_raises (notEof_invalidAmf0 _))
  case h_15 => exact hvector _ (Scan.uintBe_raises (notEof_invalidAmf0 _))
  case h_16 => exact hvector _ readDouble_raises
  case h_17 =>
    exact valueErrors_byReference fun _ => valueErrors_byte.bind fun _ =>
      valueErrors_readString.bind fun _ => valueErrors_inSlot ((h.times _).bind fun _ => .pure _)
  case h_18 =>
    exact valueErrors_byReference fun _ => valueErrors_byte.bind fun _ =>
      valueErrors_inSlot (((h.bind fun _ => h.bind fun _ => .pure _).times _).bind fun _ => .pure _)
  case h_19 => exact .fail (notEof_invalidAmf0 _)
  all_goals exact .pure _

lemma valueErrors_decodeFrom (fuel : ℕ) : ValueErrors (decodeFrom buf fuel) := by
  induction fuel with
  | zero => exact .fail nofun
  | succ fuel ih =>
      refine (valueErrors_gets _).bind fun depth => .ite (.fail nofun) ?_
      refine (valueErrors_modify (f := Decoder.enter) fun _ => rfl).bind fun _ => ?_
      have hinner : ValueErrors (decodeInner buf (decodeFrom buf fuel)) :=
        valueErrors_byte.bind fun marker => valueErrors_readMarked ih marker
      refine hinner.attempt_bind (fun v => ?_) fun e he => ?_
      · exact (valueErrors_modify (f := Decoder.leave) fun _ => rfl).bind fun _ => .pure v
      · exact (valueErrors_modify (f := Decoder.leave) fun _ => rfl).bind fun _ => .fail he

/-- What holds of every value holds of the values of a body. -/
lemma decodeDataMessage_notEof (e : Error) (h : decodeDataMessage buf = .error e) : NotEof e := by
  have hskip : ValueErrors skipAvmplus := by
    refine Raises.bind (Raises.gets _).onFst fun unread => .ite ?_ (.pure _)
    exact Raises.bind (Raises.modify fun _ _ => trivial).onFst fun _ => .ite (.fail nofun) (.pure _)
  have hnext : ValueErrors (decodeDataNext buf) := by
    refine Raises.bind (Raises.gets _).onFst fun unread => .ite (.pure _) ?_
    exact hskip.bind fun _ => (valueErrors_decodeFrom decodeFuel).bind fun _ => .pure _
  exact (hnext.collect (buf.length + 1) (buf, {}) rfl).1 e h

lemma decode_raises : Raises (fun _ => True) NotEof decode :=
  .of_errors fun s => (valueErrors_decodeFrom decodeFuel (s, {}) rfl).1

end Amf3

/-! ### AMF0 values -/

namespace Amf

/-- What holds of every step of the decoder. -/
abbrev ValueErrors {α : Type} (x : DecodeM α) : Prop := Raises (fun _ => True) NotEof x

variable {child : DecodeM Amf0Value}

lemma valueErrors_onFst {α : Type} {x : Eff Error (List UInt8) α}
    (h : Raises (fun _ => True) NotEof x) : ValueErrors (Eff.onFst x) :=
  h.onFst (K := fun _ => True)

lemma valueErrors_onSnd {α : Type} {x : Eff Error RefTable α}
    (h : Raises (fun _ => True) NotEof x) : ValueErrors (Eff.onSnd x) :=
  h.onSnd

lemma readU8_raises : Raises (fun _ => True) NotEof readU8 := Scan.byte_raises nofun

lemma readU16Be_raises : Raises (fun _ => True) NotEof readU16Be := Scan.uintBe_raises nofun

lemma readU32Be_raises : Raises (fun _ => True) NotEof readU32Be := Scan.uintBe_raises nofun

lemma readDouble_raises : Raises (fun _ => True) NotEof readDouble :=
  (Scan.uintBe_raises nofun).bind fun _ => .pure _

lemma readUtf8Body_raises (n : ℕ) : Raises (fun _ => True) NotEof (readUtf8Body n) :=
  Scan.utf8_raises (fun _ => nofun) fun _ => nofun

lemma readUtf8Short_raises : Raises (fun _ => True) NotEof readUtf8Short :=
  readU16Be_raises.bind readUtf8Body_raises

lemma readUtf8Long_raises : Raises (fun _ => True) NotEof readUtf8Long :=
  readU32Be_raises.bind readUtf8Body_raises

lemma valueErrors_inSlot {empty : Amf0Value} {body : DecodeM Amf0Value} (h : ValueErrors body) :
    ValueErrors (inSlot empty body) := by
  refine (valueErrors_onSnd (.modifyGet fun _ _ => trivial)).bind fun slot => ?_
  exact h.bind fun _ => (valueErrors_onSnd (.modify fun _ _ => trivial)).bind fun _ => .pure _

lemma valueErrors_readContainer (h : ValueErrors child)
    (make : List (String × Amf0Value) → Amf0Value) : ValueErrors (readContainer child make) := by
  have hproperty : ValueErrors (readProperty child) := by
    refine (valueErrors_onFst readUtf8Short_raises).bind fun key => .ite ?_ ?_
    · exact (valueErrors_onFst readU8_raises).bind fun _ => .ite (.pure _) (.fail nofun)
    · exact h.bind fun _ => .pure _
  refine valueErrors_inSlot (Raises.bind ?_ fun _ => .pure _)
  exact (valueErrors_onFst (.gets _)).bind fun unread => hproperty.collect _

lemma valueErrors_decodeMarked (h : ValueErrors child) : ValueErrors (decodeMarked child) := by
  refine (valueErrors_onFst readU8_raises).bind fun marker => ?_
  have hreference : ValueErrors readReference := by
    refine (valueErrors_onFst readU16Be_raises).bind fun idx => ?_
    refine (valueErrors_onSnd (.gets id)).bind fun refs => ?_
    cases refs[idx]? with
    | none => exact .fail nofun
    | some v => exact .pure v
  -- whatever the other decoder fails with, it is reported as a bad value
  have havmplus : ValueErrors readAvmplus := by
    have hattempt : Raises (fun _ => True) NotEof (Eff.attempt Amf3.decode) :=
      fun _ _ => ⟨nofun, trivial⟩
    refine (valueErrors_onFst hattempt).bind fun r => ?_
    cases r with
    | ok v => exact .pure _
    | error e => exact .fail nofun
  split
  case h_1 => exact (valueErrors_onFst readDouble_raises).bind fun _ => .pure _
  case h_2 => exact (valueErrors_onFst readU8_raises).bind fun _ => .pure _
  case h_3 => exact (valueErrors_onFst readUtf8Short_raises).bind fun _ => .pure _
  case h_4 => exact (valueErrors_onFst readUtf8Long_raises).bind fun _ => .pure _
  case h_7 => exact valueErrors_readContainer h _
  case h_8 =>
    exact (valueErrors_onFst readU32Be_raises).bind fun _ => valueErrors_readContainer h _
  case h_9 =>
    exact (valueErrors_onFst readU32Be_raises).bind fun count =>
      valueErrors_inSlot ((h.times count).bind fun _ => .pure _)
  case h_10 =>
    exact (valueErrors_onFst readDouble_raises).bind fun _ =>
      (valueErrors_onFst (readU16Be_raises.bind fun _ => .pure _)).bind fun _ => .pure _
  case h_11 => exact havmplus
  case h_13 => exact (valueErrors_onFst readUtf8Long_raises).bind fun _ => .pure _
  case h_14 =>
    exact (valueErrors_onFst readUtf8Short_raises).bind fun _ => valueErrors_readContainer h _
  case h_15 => exact hreference
  case h_16 => exact .fail nofun
  all_goals exact .pure _

lemma valueErrors_decodeAtDepth (room : ℕ) : ValueErrors (decodeAtDepth room) := by
  induction room with
  | zero => exact .fail nofun
  | succ room ih => exact valueErrors_decodeMarked ih

lemma decodeAll_notEof {buf : List UInt8} (e : Error) (h : decodeAll buf = .error e) :
    NotEof e := by
  have hnext : ValueErrors decodeNext := by
    refine (valueErrors_onFst (.gets _)).bind fun unread => .ite (.pure _) ?_
    exact (valueErrors_decodeAtDepth _).bind fun _ => .pure _
  exact (hnext.collect (buf.length + 1) (buf, []) trivial).1 e h

lemma decodeFront_raises : Raises (fun _ => True) NotEof decodeFront :=
  .of_errors fun s => (valueErrors_decodeAtDepth _ (s, []) trivial).1

end Amf

/-! ### Messages -/

section SharedObject

variable {V : Type} {decodeValue : Eff Error (List UInt8) V}

lemma readBareString_raises : Raises (fun _ => True) NotEof readBareString :=
  (Scan.uintBe_raises nofun).bind fun _ => Scan.utf8_raises (fun _ => nofun) fun _ => nofun

/-- The events of a shared object fail as their values do. -/
lemma parseEvents_raises (h : Raises (fun _ => True) NotEof decodeValue) (data : List UInt8)
    (eventType : UInt8) : Raises (fun _ => True) NotEof (parseEvents decodeValue data eventType) := by
  have hpair : Raises (fun _ => True) NotEof (readPair decodeValue) :=
    (Raises.gets _).bind fun _ => .ite (.pure _)
      (readBareString_raises.bind fun _ => h.bind fun _ => .pure _)
  have harg : Raises (fun _ => True) NotEof (readArg decodeValue) :=
    (Raises.gets _).bind fun _ => .ite (.pure _) (h.bind fun _ => .pure _)
  rw [parseEvents.eq_def]
  split
  case h_3 => exact readBareString_raises.bind fun _ => h.bind fun _ => .pure _
  case h_4 => exact (hpair.collect _).bind fun _ => .pure _
  case h_5 =>
    refine Raises.bind ?_ fun _ => .pure _
    exact (Raises.gets _).bind fun _ => .ite (.pure _) readBareString_raises
  case h_6 => exact readBareString_raises.bind fun _ => (harg.collect _).bind fun _ => .pure _
  case h_7 => exact readBareString_raises.bind fun _ => readBareString_raises.bind fun _ => .pure _
  case h_9 => exact readBareString_raises.bind fun _ => .pure _
  case h_10 => exact readBareString_raises.bind fun _ => .pure _
  all_goals exact .pure _

lemma parseMessage_raises (h : Raises (fun _ => True) NotEof decodeValue) :
    Raises (fun _ => True) NotEof (parseMessage decodeValue) := by
  have hevent : Raises (fun _ => True) NotEof (readEvent decodeValue) := by
    refine (Raises.gets _).bind fun left => .ite (.pure _) ?_
    refine (Scan.bytes_raises fun _ => nofun).bind fun header => ?_
    refine (Scan.bytes_raises fun _ => nofun).bind fun data => ?_
    exact (Raises.ofExcept (parseEvents_raises h data _ data trivial).1).bind fun _ => .pure _
  refine (Scan.uintBe_raises nofun).bind fun nameLen => ?_
  refine (Scan.utf8_raises (fun _ => nofun) fun _ => nofun).bind fun name => ?_
  refine (Scan.bytes_raises fun _ => nofun).bind fun header => (Raises.gets _).bind fun left => ?_
  exact (hevent.collect _).bind fun _ => .pure _

end SharedObject

lemma parseSharedObject_notEof (msg : Message) (e : Error) (h : parseSharedObject msg = .error e) :
    NotEof e := by
  rw [parseSharedObject] at h
  split_ifs at h
  · exact (parseMessage_raises Amf.decodeFront_raises msg.payload trivial).1 e h
  · rw [SharedObjectMessage.parseAmf3] at h
    cases hparse : ((parseMessage Amf3.decode).run msg.payload).1 with
    | ok so =>
        rw [hparse] at h
        cases h
    | error e' =>
        rw [hparse] at h
        cases h
        exact (parseMessage_raises Amf3.decode_raises msg.payload trivial).1 e hparse
  · cases h
    exact nofun

lemma Amf3.decodeMessageToAmf0_notEof (buf : List UInt8) (e : Error)
    (h : decodeMessageToAmf0 buf = .error e) : NotEof e := by
  rw [decodeMessageToAmf0] at h
  split_ifs at h
  · exact Amf.decodeAll_notEof e h
  · cases hdecode : decodeDataMessage buf with
    | ok values =>
        rw [hdecode] at h
        cases h
    | error e' =>
        rw [hdecode] at h
        cases h
        exact decodeDataMessage_notEof e hdecode

lemma NetStreamCommand.parse_notEof (values : List Amf0Value) (e : Error)
    (h : NetStreamCommand.parse values = .error e) : NotEof e := by
  have hrequire : ∀ {α β : Type} (arg : Option α) (text : String) (f : α → Except Error β),
      (∀ a e, f a = .error e → NotEof e) → ∀ e, require arg text >>= f = .error e → NotEof e := by
    intro α β arg text f hf e h
    cases arg with
    | none =>
        cases h
        exact nofun
    | some a => exact hf a e h
  rw [NetStreamCommand.parse.eq_def] at h
  revert h
  cases Rtmp.commandName values with
  | none => exact nofun
  | some name =>
      dsimp only
      -- one command after the other, each of them with what it requires
      split_ifs
      · exact hrequire _ _ _ (fun _ _ h => by cases h) e
      · exact hrequire _ _ _ (fun _ _ h => by cases h) e
      · exact hrequire _ _ _ (fun _ _ h => by cases h) e
      · exact hrequire _ _ _ (fun _ => hrequire _ _ _ fun _ _ h => by cases h) e
      · exact hrequire _ _ _ (fun _ _ h => by cases h) e
      · exact hrequire _ _ _ (fun _ _ h => by cases h) e
      · exact nofun

lemma readU32Be_notEof (buf : List UInt8) (e : Error) (h : readU32Be buf = .error e) :
    NotEof e := by
  rw [readU32Be] at h
  split_ifs at h
  cases h
  rintro ⟨⟩

lemma parseSetPeerBandwidth_notEof (payload : List UInt8) (e : Error)
    (h : parseSetPeerBandwidth payload = .error e) : NotEof e := by
  rw [parseSetPeerBandwidth] at h
  split_ifs at h
  cases h
  exact nofun

/-- The reader fails with what the wire fails with, or refuses a chunk. -/
lemma ChunkReader.readMessage_raises : Raises (fun _ => True) NotEof readMessage := by
  have hclosed : Closed fun x => Raises (fun _ => True) NotEof x :=
    { pure := Raises.pure
      bind := Raises.bind
      readExactCounted := fun n => .of_errors fun r e he => by
        simp only [readExactCounted] at he
        rcases hread : readExact n r.stream with ⟨kind | bs, rest⟩
        all_goals rw [hread] at he
        all_goals cases he
        exact nofun
      requireState := fun csid text => .of_errors fun r e he => by
        simp only [requireState] at he
        cases hstates : r.states csid <;> simp only [hstates] at he <;> cases he
        exact nofun
      setState := fun _ _ => .modify fun _ _ => trivial
      gets := Raises.gets
      exhausted := .fail nofun }
  exact fun r _ => hclosed.readChunks (r.stream.length + 1) r trivial

/-! ### Rounds -/

/-- A message that is an aggregate and breaks off inside one of its messages. -/
def BreaksOff (msg : Message) : Prop := parseAggregate msg = .error .unexpectedEof

instance (msg : Message) : Decidable (BreaksOff msg) := inferInstanceAs (Decidable (_ = _))

/-- Only an aggregate breaks off. -/
lemma BreaksOff.msgTypeId {msg : Message} (h : BreaksOff msg) : msg.msgTypeId = msgAggregate := by
  by_contra hne
  rw [BreaksOff, parseAggregate, if_pos hne] at h
  cases h

namespace RtmpSession

open Flv Session

/-- **What the input of a publish session has to do with it**: a message is served with the error of an
input that broke off if and only if it is an aggregate that breaks off. -/
lemma handleMessage_eof (msg : Message) (s : RtmpSession) :
    ((handleMessage msg).run s).1 = .error .unexpectedEof ↔ BreaksOff msg := by
  constructor
  · have htotal : ∀ {α : Type} {x : SessionM PublishState α}, Eff.Total x →
        Raises (fun _ => True) (fun e => e = .unexpectedEof → BreaksOff msg) x := by
      refine fun hx => .of_errors fun s e he => ?_
      obtain ⟨a, t, hrun⟩ := hx s
      rw [hrun] at he
      cases he
    have hparsed : ∀ {α β : Type} {x : Except Error α} {f : α → SessionM PublishState β},
        (∀ e, x = .error e → NotEof e) →
        (∀ a, Raises (fun _ => True) (fun e => e = .unexpectedEof → BreaksOff msg) (f a)) →
        Raises (fun _ => True) (fun e => e = .unexpectedEof → BreaksOff msg)
          (Eff.ofExcept x >>= f) :=
      fun hx hf => (Raises.ofExcept fun e he heof => absurd heof (hx e he)).bind hf
    have hcommand : ∀ values, Raises (fun _ => True) (fun e => e = .unexpectedEof → BreaksOff msg)
        (handleCommandValues values) := by
      refine fun values => Raises.bind ?_ fun _ => .pure _
      rw [Session.classifyCommand]
      cases commandName values with
      | none => exact hparsed (NetStreamCommand.parse_notEof values) fun _ => .pure _
      | some name =>
          refine .ite ((Raises.modify fun _ _ => trivial).bind fun _ => .pure _) ?_
          refine hparsed (NetStreamCommand.parse_notEof values) fun cmd => ?_
          cases cmd with
          | some cmd => exact .pure _
          | none => exact .ite (.pure _) (.ite (.pure _) (.pure _))
    -- one arm after the other, and the aggregate is the only one that can
    have hmessage : Raises (fun _ => True) (fun e => e = .unexpectedEof → BreaksOff msg)
        (handleMessage msg) := by
      refine .ite (hparsed (parseAudio_notEof _) fun _ => .pure _) ?_
      refine .ite (hparsed (parseVideo_notEof _) fun _ => .pure _) ?_
      refine .ite (hparsed Amf.decodeAll_notEof fun _ => htotal (total_dispatchDataValues _)) ?_
      refine .ite (hparsed (Amf3.decodeMessageToAmf0_notEof _) fun _ =>
        htotal (total_dispatchDataValues _)) ?_
      refine .ite (hparsed Amf.decodeAll_notEof hcommand) ?_
      refine .ite (hparsed (Amf3.decodeMessageToAmf0_notEof _) hcommand) ?_
      refine .ite (hparsed (parseSharedObject_notEof msg) fun _ => .pure _) ?_
      refine .ite (Raises.bind ?_ fun _ => .pure _) ?_
      · exact (Raises.ofExcept fun e he heof => he.trans (congrArg _ heof)).bind fun _ =>
          .modify fun _ _ => trivial
      refine .ite (Raises.bind ?_ fun _ => .pure _) ?_
      · exact hparsed (readU32Be_notEof _) fun _ => htotal (Eff.Total.modify _).zoom
      refine .ite (Raises.bind ?_ fun _ => .pure _) ?_
      · exact hparsed (readU32Be_notEof _) fun _ => htotal (Eff.Total.modify _).zoom
      refine .ite (Raises.bind ?_ fun _ => .pure _) (.pure _)
      exact hparsed (parseSetPeerBandwidth_notEof _) fun limit =>
        htotal ((Bookkeeping.applyPeerBandwidth limit.1 limit.2).bind .adoptWindow).total
    exact fun h => (hmessage s trivial).1 _ h rfl
  · intro h
    have hrun : (handleAggregate msg : SessionM PublishState Unit).run s
        = (.error .unexpectedEof, s) := by
      rw [handleAggregate, h, Eff.run_ofExcept_error_bind]
    rw [handleMessage]
    simp only [h.msgTypeId]
    exact congrArg Prod.fst (Eff.run_bind_error hrun)

/-- The message that the next round serves breaks off. -/
def ServesBroken (s : RtmpSession) : Prop :=
  ∃ msg rest, s.serving = some (msg, rest) ∧ BreaksOff msg

/-- A round has a result that says that the input broke off if and only if the message it serves
does. -/
theorem round_breaksOff (s : RtmpSession) :
    (dispatcher.round s).1 = some (.error .unexpectedEof) ↔ ServesBroken s := by
  have hsettle : ∀ p : Except Error (Option StreamPacket) × RtmpSession,
      (Dispatcher.settle p).1 = some (.error .unexpectedEof) ↔ p.1 = .error .unexpectedEof := by
    rintro ⟨e | _ | ev, t⟩ <;> simp [Dispatcher.settle]
  have hserves : ServesBroken s ↔ ∃ p, s.serving = some p ∧ BreaksOff p.1 := by
    rw [ServesBroken, Prod.exists]
  have hrounded := dispatcher.rounded s
  rw [hserves]
  generalize s.serving = served at hrounded ⊢
  generalize dispatcher.round s = p at hrounded ⊢
  cases hrounded with
  | ended => simp
  | @sub msg rest =>
      rw [hsettle]
      simp only [Option.some.injEq, exists_eq_left']
      exact handleMessage_eof msg (s.withQueue rest)
  | @read msg r =>
      obtain ⟨_, t, hack, -⟩ := Bookkeeping.maybeSendAck (s.withReader r)
      have hrun : (dispatcher.serve msg).run (s.withReader r) = (handleMessage msg).run t :=
        Eff.run_bind_ok hack
      rw [hsettle, hrun]
      simp only [Option.some.injEq, exists_eq_left']
      exact handleMessage_eof msg t
  | closes => simp
  | @fails e r hopen hqueue hread =>
      -- no error of the reader is the one that a body gives
      have hnot : NotEof e := ChunkReader.readMessage_raises.error trivial hread
      simpa using hnot

end RtmpSession

end Rtmp
