import Rtmp.Message.Framings
import Rtmp.SharedObject

/-!
Shared-object messages are read back from what is built of them.

* `ReadsBack`: a reader of values takes exactly what was written for a value, and something was;
* `SoEvent.Writable`, `SharedObjectMessage.Buildable`: the names and values of an event can be
  written, and every body fits its length field;
* `buildEvent_parseEvents`: the body of an event splits into the same names and values again;
* `buildMessage_parseMessage`: so does the body of a message, in any encoding of the values;
* `sharedObject_roundTrip` (**shared objects**): in both formats, and across the bridge from AMF3.
-/

namespace Rtmp

open Amf (writeUtf8Short length_writeUtf8Short)

/-- The reader takes exactly the bytes written for `v`, and there is at least one. -/
structure ReadsBack {V : Type} (decodeValue : Eff Error (List UInt8) V)
    (encodeValue : V → List UInt8) (v : V) : Prop where
  read : ∀ rest, decodeValue.run (encodeValue v ++ rest) = (.ok v, rest)
  length_pos : 0 < (encodeValue v).length

lemma ReadsBack.read_last {V : Type} {decodeValue : Eff Error (List UInt8) V}
    {encodeValue : V → List UInt8} {v : V} (h : ReadsBack decodeValue encodeValue v) :
    decodeValue.run (encodeValue v) = (.ok v, []) := by
  have hread := h.read []
  rwa [List.append_nil] at hread

/-! ### Bare strings -/

/-- The length of a bare string fits its field. -/
def FitsBare (s : String) : Prop := (Utf8.encode s).length ≤ 65535

instance (s : String) : Decidable (FitsBare s) :=
  inferInstanceAs (Decidable ((Utf8.encode s).length ≤ 65535))

/-- A bare string is written as an AMF0 property name is. -/
lemma FitsBare.write {s : String} (h : FitsBare s) : writeBareString s = .ok (writeUtf8Short s) :=
  if_pos h

lemma FitsBare.read {s : String} (h : FitsBare s) (rest : List UInt8) :
    readBareString.run (writeUtf8Short s ++ rest) = (.ok s, rest) := by
  have hlen : (Utf8.encode s).length < 256 ^ 2 := Nat.lt_succ_of_le h
  rw [readBareString, writeUtf8Short, List.append_assoc, Eff.run_bind_ok (Scan.uintBe_append hlen)]
  exact Scan.utf8_append rfl

lemma FitsBare.read_last {s : String} (h : FitsBare s) :
    readBareString.run (writeUtf8Short s) = (.ok s, []) := by
  have hread := h.read []
  rwa [List.append_nil] at hread

/-! ### Events -/

namespace SoEvent

variable {V : Type}

/-- The names fit their length fields, the values satisfy `good`, and an event of another type is
not of one of the known ones. -/
def Writable (good : V → Prop) : SoEvent V → Prop
  | requestChange name value => FitsBare name ∧ good value
  | change pairs => ∀ p ∈ pairs, FitsBare p.1 ∧ good p.2
  | success name | remove name | requestRemove name => FitsBare name
  | sendMessage handler args => FitsBare handler ∧ ∀ v ∈ args, good v
  | status code level => FitsBare code ∧ FitsBare level
  | unknown eventType _ => ¬ (1 ≤ eventType ∧ eventType ≤ 11)
  | use | release | clear | useSuccess => True

lemma Writable.mono {good good' : V → Prop} (h : ∀ v, good v → good' v) {event : SoEvent V}
    (hevent : event.Writable good) : event.Writable good' := by
  cases event with
  | requestChange name value => exact hevent.imp_right (h value)
  | change pairs => exact fun p hp => (hevent p hp).imp_right (h p.2)
  | sendMessage handler args => exact hevent.imp_right fun hargs v hv => h v (hargs v hv)
  | _ => exact hevent

end SoEvent

section

variable {V : Type} {decodeValue : Eff Error (List UInt8) V} {encodeValue : V → List UInt8}

/-- Names and values in a row are taken apart again. -/
lemma collects_writePairs {pairs : List (String × V)}
    (h : ∀ p ∈ pairs, FitsBare p.1 ∧ ReadsBack decodeValue encodeValue p.2) :
    ∃ data, writePairs encodeValue pairs = .ok data ∧ pairs.length ≤ data.length ∧
      Eff.Collects (readPair decodeValue) data pairs [] := by
  induction pairs with
  | nil => exact ⟨[], rfl, Nat.le_refl 0, .done rfl⟩
  | cons p pairs ih =>
      obtain ⟨name, value⟩ := p
      obtain ⟨hname, hvalue⟩ := h (name, value) List.mem_cons_self
      obtain ⟨rest, hwrite, hlen, hcollects⟩ := ih fun q hq => h q (List.mem_cons_of_mem _ hq)
      refine ⟨writeUtf8Short name ++ encodeValue value ++ rest, ?_, ?_, .more ?_ hcollects⟩
      · rw [writePairs, hname.write, hwrite]
        rfl
      · have hbare := length_writeUtf8Short name
        simp only [List.length_append, List.length_cons]
        omega
      · have hne : ¬ (writeUtf8Short name ++ encodeValue value ++ rest).length = 0 := by
          have hpos : 0 < (encodeValue value).length := hvalue.length_pos
          simp only [List.length_append]
          omega
        rw [readPair, Eff.run_gets_bind, if_neg hne, List.append_assoc,
          Eff.run_bind_ok (hname.read _), Eff.run_bind_ok (hvalue.read _)]
        rfl

/-- Values in a row are taken apart again. -/
lemma collects_args {args : List V} (h : ∀ v ∈ args, ReadsBack decodeValue encodeValue v) :
    args.length ≤ (args.flatMap encodeValue).length ∧
      Eff.Collects (readArg decodeValue) (args.flatMap encodeValue) args [] := by
  induction args with
  | nil => exact ⟨Nat.le_refl 0, .done rfl⟩
  | cons v args ih =>
      have hv := h v List.mem_cons_self
      obtain ⟨hlen, hcollects⟩ := ih fun w hw => h w (List.mem_cons_of_mem _ hw)
      have hpos := hv.length_pos
      rw [List.flatMap_cons, List.length_append, List.length_cons]
      refine ⟨by omega, .more ?_ hcollects⟩
      have hne : ¬ (encodeValue v ++ args.flatMap encodeValue).length = 0 := by
        rw [List.length_append]
        omega
      rw [readArg, Eff.run_gets_bind, if_neg hne, Eff.run_bind_ok (hv.read _)]
      rfl

/-- An event of none of the known types keeps its body as it is. -/
lemma parseEvents_unknown {data : List UInt8} {eventType : UInt8}
    (h : ¬ (1 ≤ eventType ∧ eventType ≤ 11)) :
    parseEvents decodeValue data eventType = pure (.unknown eventType data) := by
  unfold parseEvents
  split <;> first | rfl | exact absurd (by decide) h

/-- The body of an event is read as that event. -/
lemma buildEvent_parseEvents {event : SoEvent V}
    (h : event.Writable (ReadsBack decodeValue encodeValue)) :
    ∃ data, buildEvent encodeValue event = .ok data ∧
      ((parseEvents decodeValue data event.eventType).run data).1 = .ok event := by
  cases event with
  | use => exact ⟨[], rfl, rfl⟩
  | release => exact ⟨[], rfl, rfl⟩
  | clear => exact ⟨[], rfl, rfl⟩
  | useSuccess => exact ⟨[], rfl, rfl⟩
  | requestChange name value =>
      obtain ⟨hname, hvalue⟩ := h
      refine ⟨writeUtf8Short name ++ encodeValue value, by rw [buildEvent, hname.write]; rfl, ?_⟩
      rw [SoEvent.eventType, parseEvents, Eff.run_bind_ok (hname.read _),
        Eff.run_bind_ok hvalue.read_last]
      rfl
  | change pairs =>
      obtain ⟨data, hwrite, hlen, hcollects⟩ := collects_writePairs h
      refine ⟨data, hwrite, ?_⟩
      rw [SoEvent.eventType, parseEvents, Eff.run_bind_ok (hcollects.run (Nat.lt_succ_of_le hlen))]
      rfl
  | success name =>
      by_cases hname : name = ""
      · subst hname
        exact ⟨[], rfl, rfl⟩
      · -- a name that is not empty does not look like the bare acknowledgement
        have hfits : FitsBare name := h
        have hne : ¬ (writeUtf8Short name).length = 0 := by
          rw [length_writeUtf8Short]
          omega
        refine ⟨writeUtf8Short name, by rw [buildEvent, if_neg hname, hfits.write], ?_⟩
        have hread : readSuccessName.run (writeUtf8Short name) = (.ok name, []) := by
          rw [readSuccessName, Eff.run_gets_bind, if_neg hne, hfits.read_last]
        rw [SoEvent.eventType, parseEvents, Eff.run_bind_ok hread]
        rfl
  | sendMessage handler args =>
      obtain ⟨hhandler, hargs⟩ := h
      obtain ⟨hlen, hcollects⟩ := collects_args hargs
      refine ⟨writeUtf8Short handler ++ args.flatMap encodeValue,
        by rw [buildEvent, hhandler.write]; rfl, ?_⟩
      -- an argument takes at least a byte
      have hfuel : args.length < (writeUtf8Short handler ++ args.flatMap encodeValue).length + 1 := by
        rw [List.length_append]
        omega
      rw [SoEvent.eventType, parseEvents, Eff.run_bind_ok (hhandler.read _),
        Eff.run_bind_ok (hcollects.run hfuel)]
      rfl
  | status code level =>
      obtain ⟨hcode, hlevel⟩ := h
      refine ⟨writeUtf8Short code ++ writeUtf8Short level,
        by rw [buildEvent, hcode.write, hlevel.write]; rfl, ?_⟩
      rw [SoEvent.eventType, parseEvents, Eff.run_bind_ok (hcode.read _),
        Eff.run_bind_ok hlevel.read_last]
      rfl
  | remove name =>
      refine ⟨writeUtf8Short name, FitsBare.write h, ?_⟩
      rw [SoEvent.eventType, parseEvents, Eff.run_bind_ok (FitsBare.read_last h)]
      rfl
  | requestRemove name =>
      refine ⟨writeUtf8Short name, FitsBare.write h, ?_⟩
      rw [SoEvent.eventType, parseEvents, Eff.run_bind_ok (FitsBare.read_last h)]
      rfl
  | unknown eventType data =>
      refine ⟨data, rfl, ?_⟩
      rw [SoEvent.eventType, parseEvents_unknown h]
      rfl

/-! ### Messages -/

namespace SharedObjectMessage

/-- The names fit their length fields, the values satisfy `good`, and the body of every event fits
its own. -/
structure Buildable (encodeValue : V → List UInt8) (good : V → Prop)
    (msg : SharedObjectMessage V) : Prop where
  name : FitsBare msg.name
  events : ∀ event ∈ msg.events, event.Writable good
  sizes : ∀ event ∈ msg.events, ∀ data, buildEvent encodeValue event = .ok data →
    data.length < 2 ^ 32

end SharedObjectMessage

/-- Events in a row are taken apart again, each at its own length. -/
lemma collects_writeEvents {events : List (SoEvent V)}
    (h : ∀ event ∈ events, event.Writable (ReadsBack decodeValue encodeValue))
    (hsizes : ∀ event ∈ events, ∀ data, buildEvent encodeValue event = .ok data →
      data.length < 2 ^ 32) :
    ∃ bs, writeEvents encodeValue events = .ok bs ∧ events.length ≤ bs.length ∧
      Eff.Collects (readEvent decodeValue) bs events [] := by
  induction events with
  | nil => exact ⟨[], rfl, Nat.le_refl 0, .done rfl⟩
  | cons event events ih =>
      obtain ⟨data, hbuild, hparse⟩ := buildEvent_parseEvents (h event List.mem_cons_self)
      have hsize := hsizes event List.mem_cons_self data hbuild
      obtain ⟨rest, hwrite, hlen, hcollects⟩ := ih
        (fun e he => h e (List.mem_cons_of_mem _ he))
        fun e he => hsizes e (List.mem_cons_of_mem _ he)
      have hheader : (event.eventType :: Bytes.toBe 4 data.length).length = 5 := by
        rw [List.length_cons, Bytes.length_toBe]
      refine ⟨event.eventType :: Bytes.toBe 4 data.length ++ data ++ rest, ?_, ?_,
        .more ?_ hcollects⟩
      · rw [writeEvents, hbuild, hwrite]
        exact if_pos hsize
      · rw [List.length_append, List.length_append, hheader, List.length_cons]
        omega
      · have hne : ¬ (event.eventType :: Bytes.toBe 4 data.length ++ data ++ rest).length = 0 := by
          rw [List.length_append, List.length_append, hheader]
          omega
        have hdata : data.length
            = Bytes.ofBe ((event.eventType :: Bytes.toBe 4 data.length).drop 1) :=
          (Bytes.ofBe_toBe (hsize.trans_eq (by norm_num))).symm
        have hevent : ((parseEvents decodeValue data
            ((event.eventType :: Bytes.toBe 4 data.length).getD 0 0)).run data).1 = .ok event :=
          hparse
        rw [readEvent, Eff.run_gets_bind, if_neg hne, List.append_assoc,
          Eff.run_bind_ok (Scan.bytes_append hheader)]
        rw [Eff.run_bind_ok (Scan.bytes_append hdata), hevent]
        rfl

/-- **Framing**: what is built of a message is read as that message, whatever encodes the values. -/
theorem buildMessage_parseMessage {msg : SharedObjectMessage V}
    (h : msg.Buildable encodeValue (ReadsBack decodeValue encodeValue)) :
    ∃ body, buildMessage encodeValue msg = .ok body ∧
      ((parseMessage decodeValue).run body).1 = .ok msg := by
  obtain ⟨events, hwrite, hlen, hcollects⟩ := collects_writeEvents h.events h.sizes
  have hname : (Utf8.encode msg.name).length < 256 ^ 2 := Nat.lt_succ_of_le h.name
  refine ⟨writeUtf8Short msg.name ++ (Bytes.toBe 4 msg.version.toNat ++ Bytes.toBe 4 msg.flags.toNat
    ++ [0, 0, 0, 0]) ++ events, ?_, ?_⟩
  · rw [buildMessage, h.name.write, hwrite]
    rfl
  · have hheader : (Bytes.toBe 4 msg.version.toNat ++ Bytes.toBe 4 msg.flags.toNat
        ++ [0, 0, 0, 0]).length = 12 := by
      simp
    rw [parseMessage, writeUtf8Short, List.append_assoc, List.append_assoc,
      Eff.run_bind_ok (Scan.uintBe_append hname), Eff.run_bind_ok (Scan.utf8_append rfl),
      Eff.run_bind_ok (Scan.bytes_append hheader), Eff.run_gets_bind,
      Eff.run_bind_ok (hcollects.run (Nat.lt_succ_of_le hlen)), List.append_assoc,
      List.drop_left' (Bytes.length_toBe 4 _), u32OfBe_toBe_append, u32OfBe_toBe_append]
    rfl

end

/-! ### The two formats -/

/-- An AMF0 value is read back with a reference table of its own. -/
lemma Amf.readsBack {v : Amf0Value} (hv : v.Encodable) (hheight : v.height ≤ maxDecodeDepth) :
    ReadsBack Amf.decodeFront Amf.encode v where
  read rest := by
    have hreads : Amf.Reads maxDecodeDepth [] (Amf.encode v ++ rest) (.value v) _ rest :=
      Amf.reads_encode v (hv.spellable v) hheight
    have hrun : (Amf.decodeAtDepth maxDecodeDepth).run (Amf.encode v ++ rest, [])
        = (.ok v, (rest, [] ++ v.complexes)) := hreads.read
    change ((_, _) : Except Error Amf0Value × List UInt8) = _
    rw [hrun]
  length_pos := by
    have hreads : Amf.Reads maxDecodeDepth [] (Amf.encode v ++ []) (.value v) _ [] :=
      Amf.reads_encode v (hv.spellable v) hheight
    have hlen := hreads.length_le
    rw [List.append_nil] at hlen
    exact Nat.lt_of_succ_le ((Nat.le_add_left 1 0).trans hlen)

lemma Amf3.readsBack {v : Amf3Value} (hv : v.Literal) : ReadsBack Amf3.decode Amf3.encode v where
  read _ := Amf3.decode_literal_alone hv
  length_pos := by
    obtain ⟨marker, bs, hencode, -, -⟩ := Amf3.encode_eq_cons v
    rw [hencode]
    exact Nat.succ_pos _

lemma SharedObjectMessage.Buildable.mono {V : Type} {encodeValue : V → List UInt8}
    {good good' : V → Prop} (hgood : ∀ v, good v → good' v) {msg : SharedObjectMessage V}
    (h : msg.Buildable encodeValue good) : msg.Buildable encodeValue good' where
  name := h.name
  events event hevent := (h.events event hevent).mono hgood
  sizes := h.sizes

/-- **Shared objects**: a message over AMF0 values or over AMF3 values is read back from its body,
and the one over AMF3 values is received as the message that holds, event by event, the AMF0 form of
its values. -/
theorem sharedObject_roundTrip :
    (∀ msg : SharedObjectMessage Amf0Value,
      msg.Buildable Amf.encode (fun v => v.Encodable ∧ v.height ≤ maxDecodeDepth) →
      msg.buildAmf0 >>= SharedObjectMessage.parseAmf0 = .ok msg) ∧
    ∀ msg : SharedObjectMessage Amf3Value, msg.Buildable Amf3.encode Amf3Value.Literal →
      msg.buildAmf3 >>= SharedObjectMessage.parseAmf3 = .ok msg ∧
      ∀ msgStreamId, msg.toMessageAmf3 msgStreamId >>= parseSharedObject
        = .ok { msg with events := msg.events.map (.map Amf3Value.toAmf0) } := by
  constructor
  · intro msg hmsg
    obtain ⟨body, hbuild, hparse⟩ := buildMessage_parseMessage
      (hmsg.mono fun v hv => Amf.readsBack hv.1 hv.2)
    rw [SharedObjectMessage.buildAmf0, hbuild]
    exact hparse
  · intro msg hmsg
    obtain ⟨body, hbuild, hparse⟩ := buildMessage_parseMessage
      (hmsg.mono fun v hv => Amf3.readsBack hv)
    have hparseAmf3 : SharedObjectMessage.parseAmf3 body = .ok msg := hparse
    refine ⟨?_, fun msgStreamId => ?_⟩
    · rw [SharedObjectMessage.buildAmf3, hbuild]
      exact hparse
    · rw [SharedObjectMessage.toMessageAmf3, SharedObjectMessage.buildAmf3, hbuild]
      change SharedObjectMessage.toAmf0 <$> SharedObjectMessage.parseAmf3 body = _
      rw [hparseAmf3]
      rfl

/-- An object with every kind of body: none, a name, names and values, values alone, and bytes that
are kept as they are. -/
theorem sharedObject_roundTrip_mixed :
    let msg0 : SharedObjectMessage Amf0Value :=
      { name := "s", version := 1, flags := 0
        events := [.use, .success "", .change [("a", .null), ("", .boolean true)], .unknown 12 [7]] }
    let msg3 : SharedObjectMessage Amf3Value :=
      { name := "s", version := 2, flags := 1
        events := [.status "c" "l", .sendMessage "h" [.null, .integer 5], .remove "a"] }
    msg0.buildAmf0 >>= SharedObjectMessage.parseAmf0 = .ok msg0 ∧
      msg3.buildAmf3 >>= SharedObjectMessage.parseAmf3 = .ok msg3 ∧
      msg3.toMessageAmf3 0 >>= parseSharedObject = .ok
        { name := "s", version := 2, flags := 1
          events := [.status "c" "l", .sendMessage "h" [.null, .number (.ofInt 5)],
            .remove "a"] } := by
  intro msg0 msg3
  obtain ⟨hall0, hall3⟩ := sharedObject_roundTrip
  have hmsg0 : msg0.Buildable Amf.encode (fun v => v.Encodable ∧ v.height ≤ maxDecodeDepth) := by
    refine ⟨by decide, ?_, ?_⟩
    · simp only [msg0, List.forall_mem_cons, SoEvent.Writable]
      exact ⟨trivial, by decide, ⟨⟨by decide, trivial, by decide⟩, ⟨by decide, trivial, by decide⟩,
        nofun⟩, by decide, nofun⟩
    · simp only [msg0, List.forall_mem_cons]
      refine ⟨?_, ?_, ?_, ?_, nofun⟩ <;> (intro data hdata; cases hdata; decide)
  have hmsg3 : msg3.Buildable Amf3.encode Amf3Value.Literal := by
    refine ⟨by decide, ?_, ?_⟩
    · simp only [msg3, List.forall_mem_cons, SoEvent.Writable]
      exact ⟨⟨by decide, by decide⟩, ⟨by decide, ⟨trivial, trivial, by decide⟩,
        ⟨⟨by decide, by decide⟩, trivial, by decide⟩, nofun⟩, by decide, nofun⟩
    · simp only [msg3, List.forall_mem_cons]
      refine ⟨?_, ?_, ?_, nofun⟩ <;> (intro data hdata; cases hdata; decide)
  exact ⟨hall0 msg0 hmsg0, (hall3 msg3 hmsg3).1, (hall3 msg3 hmsg3).2 0⟩

end Rtmp
