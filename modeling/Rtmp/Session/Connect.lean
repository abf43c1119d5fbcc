import Rtmp.Message.CapsRoundTrip
import Rtmp.Session.Dialogue

/-!
The connect exchange and the creation of a message stream, message by message.

* `commandOf_connect`, `commandOf_connectResult`: what the two sides read out of the connect command
  and its reply, with `ConnectCapabilities.advertised`;
* `hears_connect`, `hears_prepare`: what a server goes on with;
* `hears_quiet`, `hears_result`: what a client does;
* `connected`: the exchange as part of a dialogue; `asked`: a command that the server answers.
-/

namespace Rtmp

open Amf0Value Link
open Eff (Steady)
open Duplex (Net)
open Relation (ReflTransGen)

/-! ### Texts in messages -/

namespace Amf

lemma length_text_le (s : String) : (Utf8.encode s).length ≤ (encode (.string s)).length := by
  rw [encode]
  split_ifs
  · rw [List.length_cons, writeUtf8Short, List.length_append]
    omega
  · rw [List.length_cons, writeUtf8Long, List.length_append]
    omega

lemma length_item_le {v : Amf0Value} {vs : List Amf0Value} (h : v ∈ vs) :
    (encode v).length ≤ (encodeItems vs).length := by
  induction vs with
  | nil => exact absurd h List.not_mem_nil
  | cons w vs ih =>
      rw [encodeItems, List.length_append]
      rcases List.mem_cons.mp h with rfl | h
      · omega
      · exact (ih h).trans (Nat.le_add_left _ _)

lemma length_property_le {p : String × Amf0Value} {ps : List (String × Amf0Value)} (h : p ∈ ps) :
    (encode p.2).length ≤ (writeObjectBody ps).length := by
  induction ps with
  | nil => exact absurd h List.not_mem_nil
  | cons q ps ih =>
      rw [writeObjectBody, List.length_append, List.length_append]
      rcases List.mem_cons.mp h with rfl | h
      · omega
      · have hmore := ih h
        omega

/-- A text among the arguments of a command is no longer than the command. -/
lemma length_argument_le {name text : String} {tx : Binary64} {commandObject : Amf0Value}
    {args : List Amf0Value} (h : .string text ∈ args) :
    (Utf8.encode text).length ≤ (encodeCommand name tx commandObject args).length :=
  (length_text_le text).trans (length_item_le (.tail _ (.tail _ (.tail _ h))))

/-- Nor is one in an object of the command. -/
lemma length_member_le {name key text : String} {tx : Binary64} {commandObject : Amf0Value}
    {args : List Amf0Value} {ps : List (String × Amf0Value)}
    (hobject : .object ps ∈ commandObject :: args)
    (h : (key, .string text) ∈ ps) :
    (Utf8.encode text).length ≤ (encodeCommand name tx commandObject args).length := by
  have hmember : (Utf8.encode text).length ≤ (encode (.object ps)).length := by
    rw [encode, List.length_cons]
    exact ((length_text_le text).trans (length_property_le h)).trans (Nat.le_succ _)
  exact hmember.trans (length_item_le (.tail _ (.tail _ hobject)))

end Amf

/-! ### Capability blocks among other properties -/

namespace ConnectCapabilities

variable {c : ConnectCapabilities} {ps : List (String × Amf0Value)}

/-- An object of other properties and a block can be put into a message. -/
lemma spellable_object (hps : Plain ps) (hc : c.Carried) :
    (Amf0Value.object (ps ++ c.encodeInto)).Spellable ∧
      (Amf0Value.object (ps ++ c.encodeInto)).height ≤ maxDecodeDepth := by
  have hblock := encodable_encodeInto hc
  constructor
  · refine Amf0Value.Encodable.spellable _ (Amf.encodablePairs_iff.mpr fun p hp => ?_)
    rcases List.mem_append.mp hp with hp | hp
    · exact Amf.encodablePairs_iff.mp hps.encodable p hp
    · exact (hblock p hp).1
  · have hall : Amf0Value.heightPairs (ps ++ c.encodeInto) ≤ maxDecodeDepth - 1 := by
      refine Amf.heightPairs_le_iff.mpr fun p hp => ?_
      rcases List.mem_append.mp hp with hp | hp
      · exact Amf.heightPairs_le_iff.mp (Nat.le_sub_one_of_lt hps.height) p hp
      · exact (hblock p hp).2.trans (by decide)
    rw [Amf0Value.height]
    rw [maxDecodeDepth] at hall ⊢
    omega

/-- A block behind other properties is found. -/
lemma fromAmf0_append (hps : ∀ p ∈ ps, p.1 ∉ properties) (c : ConnectCapabilities) :
    fromAmf0 (.object (ps ++ c.encodeInto)) = c := by
  have hback : fromAmf0 (.object (ps ++ c.encodeInto ++ [])) = c := fromAmf0_encodeInto c hps (by simp)
  rwa [List.append_nil] at hback

/-- The block that a reply advertises: the object encoding is named, and without anything else it is not
taken for one. -/
def advertised (c : ConnectCapabilities) : ConnectCapabilities :=
  if c.hasEnhancedRtmpProperty then { c with objectEncoding := some (c.objectEncoding.getD 0) }
  else .default

/-- The object encoding of a reply stands where the block has it. -/
lemma encodeInto_named (c : ConnectCapabilities) :
    (if c.objectEncoding.isNone then [("objectEncoding", Amf0Value.number (.ofNat 0))] else [])
        ++ c.encodeInto
      = ({ c with objectEncoding := some (c.objectEncoding.getD 0) } :
        ConnectCapabilities).encodeInto := by
  obtain ⟨list, video, audio, mask, encoding⟩ := c
  cases encoding <;> rfl

end ConnectCapabilities

/-! ### What the commands carry -/

/-- The properties of a connect command beside the block. -/
def connectProperties (app tcUrl flashVer : String) : List (String × Amf0Value) :=
  [("app", .string app), ("type", .string "nonprivate"), ("flashVer", .string flashVer),
    ("tcUrl", .string tcUrl), ("fpad", .boolean false), ("capabilities", .number (.ofNat 15)),
    ("audioCodecs", .number (.ofNat 0x0FFF)), ("videoCodecs", .number (.ofNat 0x00FF)),
    ("videoFunction", .number (.ofNat 1))]

/-- The object of a connect command. -/
def connectObject (app tcUrl flashVer : String) (caps : ConnectCapabilities) : Amf0Value :=
  .object (connectProperties app tcUrl flashVer ++ caps.encodeInto)

section Connect

variable {app tcUrl flashVer : String} {caps : ConnectCapabilities} {tx : Binary64}

lemma plain_connectProperties (happ : (Utf8.encode app).length < 2 ^ 32)
    (htcUrl : (Utf8.encode tcUrl).length < 2 ^ 32)
    (hflashVer : (Utf8.encode flashVer).length < 2 ^ 32) :
    ConnectCapabilities.Plain (connectProperties app tcUrl flashVer) := by
  have hkeys : ∀ k ∈ ["app", "type", "flashVer", "tcUrl", "fpad", "capabilities", "audioCodecs",
      "videoCodecs", "videoFunction"], Key k := by decide +kernel
  have htype : (Utf8.encode "nonprivate").length < 2 ^ 32 := by decide +kernel
  refine ⟨by simp [connectProperties, ConnectCapabilities.properties], ?_, ?_⟩
  · simp only [List.forall_mem_cons, List.not_mem_nil, false_implies, implies_true, and_true] at hkeys
    obtain ⟨h₁, h₂, h₃, h₄, h₅, h₆, h₇, h₈, h₉⟩ := hkeys
    exact ⟨h₁, happ, h₂, htype, h₃, hflashVer, h₄, htcUrl, h₅, trivial, h₆, trivial, h₇, trivial, h₈,
      trivial, h₉, trivial, trivial⟩
  · have hall : heightPairs (connectProperties app tcUrl flashVer) ≤ 1 := by
      refine Amf.heightPairs_le_iff.mpr fun p hp => ?_
      simp only [connectProperties, List.mem_cons, List.not_mem_nil, or_false] at hp
      rcases hp with rfl | rfl | rfl | rfl | rfl | rfl | rfl | rfl | rfl <;> exact le_refl 1
    exact Nat.lt_of_le_of_lt hall (by decide)

/-- What a server reads out of a connect command. -/
lemma commandOf_connect (happ : (Utf8.encode app).length < 2 ^ 32)
    (htcUrl : (Utf8.encode tcUrl).length < 2 ^ 32) (hflashVer : (Utf8.encode flashVer).length < 2 ^ 32)
    (hcaps : caps.Carried) :
    commandOf (buildConnectWithCaps tx app tcUrl flashVer caps)
      = some [.string "connect", .number tx, connectObject app tcUrl flashVer caps] :=
  commandOf_eq_some.mpr ⟨rfl, Amf.decodeAll_encodeCommand (by decide) tx
    (ConnectCapabilities.spellable_object (plain_connectProperties happ htcUrl hflashVer) hcaps) nofun⟩

lemma infoText_app : infoText (connectObject app tcUrl flashVer caps) "app" = app := by
  simp [infoText, connectObject, connectProperties, Amf0Value.get, Amf0Value.asStr]

lemma infoText_tcUrl : infoText (connectObject app tcUrl flashVer caps) "tcUrl" = tcUrl := by
  simp [infoText, connectObject, connectProperties, Amf0Value.get, Amf0Value.asStr]

lemma fromAmf0_connectObject : ConnectCapabilities.fromAmf0 (connectObject app tcUrl flashVer caps)
    = caps :=
  ConnectCapabilities.fromAmf0_append
    (by simp [connectProperties, ConnectCapabilities.properties]) caps

end Connect

/-- What a server says of itself in the reply to a connect command. -/
def serverProperties : List (String × Amf0Value) :=
  [("fmsVer", .string "FMS/3,0,1,123"), ("capabilities", .number (.ofNat 31)),
    ("mode", .number (.ofNat 1))]

/-- What it says of the connection. -/
def connectionProperties : List (String × Amf0Value) :=
  [("level", .string "status"), ("code", .string "NetConnection.Connect.Success"),
    ("description", .string "Connection accepted.")]

lemma plain_serverProperties : ConnectCapabilities.Plain serverProperties := by
  have hkeys : ∀ k ∈ ["fmsVer", "capabilities", "mode"], Key k := by decide +kernel
  have htext : (Utf8.encode "FMS/3,0,1,123").length < 2 ^ 32 := by decide +kernel
  simp only [List.forall_mem_cons, List.not_mem_nil, false_implies, implies_true, and_true] at hkeys
  obtain ⟨h₁, h₂, h₃⟩ := hkeys
  exact ⟨by decide, ⟨h₁, htext, h₂, trivial, h₃, trivial, trivial⟩, by decide⟩

lemma plain_connectionProperties : ConnectCapabilities.Plain connectionProperties := by
  have hkeys : ∀ k ∈ ["level", "code", "description"], Key k := by decide +kernel
  have htexts : ∀ s ∈ ["status", "NetConnection.Connect.Success", "Connection accepted."],
      (Utf8.encode s).length < 2 ^ 32 := by decide +kernel
  simp only [List.forall_mem_cons, List.not_mem_nil, false_implies, implies_true, and_true]
    at hkeys htexts
  obtain ⟨h₁, h₂, h₃⟩ := hkeys
  obtain ⟨t₁, t₂, t₃⟩ := htexts
  exact ⟨by decide, ⟨h₁, t₁, h₂, t₂, h₃, t₃, trivial⟩, by decide⟩

/-- The values of the reply. -/
def connectReply (tx : Binary64) (caps : ConnectCapabilities) : List Amf0Value :=
  [.string "_result", .number tx, .object serverProperties,
    .object (connectionProperties
      ++ ({ caps with objectEncoding := some (caps.objectEncoding.getD 0) } :
        ConnectCapabilities).encodeInto)]

section Reply

variable {caps : ConnectCapabilities} {tx : Binary64}

/-- What a client reads out of the reply. -/
lemma commandOf_connectResult (hcaps : caps.Carried) :
    commandOf (buildConnectResultWithCaps tx caps) = some (connectReply tx caps) := by
  have hnamed : ({ caps with objectEncoding := some (caps.objectEncoding.getD 0) } :
      ConnectCapabilities).Carried := ⟨hcaps.count, hcaps.texts, hcaps.video, hcaps.audio⟩
  have hbuild : buildConnectResultWithCaps tx caps
      = sessionCommand "_result" tx (.object serverProperties) [.object (connectionProperties
        ++ ({ caps with objectEncoding := some (caps.objectEncoding.getD 0) } :
          ConnectCapabilities).encodeInto)] := by
    rw [← ConnectCapabilities.encodeInto_named, ← List.append_assoc]
    rfl
  have hserver : (Amf0Value.object serverProperties).Spellable ∧
      (Amf0Value.object serverProperties).height ≤ maxDecodeDepth :=
    ⟨Encodable.spellable _ plain_serverProperties.encodable, by decide⟩
  rw [hbuild]
  refine commandOf_eq_some.mpr ⟨rfl, Amf.decodeAll_encodeCommand (by decide) tx hserver fun v hv => ?_⟩
  rw [List.mem_singleton.mp hv]
  exact ConnectCapabilities.spellable_object plain_connectionProperties hnamed

/-- The block that it finds there. -/
lemma extractServerCaps_connectReply : extractServerCaps (connectReply tx caps) = caps.advertised := by
  have hserver : ConnectCapabilities.fromAmf0 (.object serverProperties) = .default :=
    ConnectCapabilities.takeAll_plain plain_serverProperties.other
  have hblock := ConnectCapabilities.fromAmf0_append plain_connectionProperties.other
    { caps with objectEncoding := some (caps.objectEncoding.getD 0) }
  have hsame : ({ caps with objectEncoding := some (caps.objectEncoding.getD 0) } :
      ConnectCapabilities).hasEnhancedRtmpProperty = caps.hasEnhancedRtmpProperty := rfl
  rw [connectReply]
  simp only [extractServerCaps, hserver, hblock, hsame]
  rw [if_neg (by decide), ConnectCapabilities.advertised]

end Reply

/-! ### What is heard -/

section Hearing

variable {msg : Message} {values : List Amf0Value} {tx : Binary64} {serverCaps : ConnectCapabilities}
  {connect : ConnectRequest} {st : Preparing}

/-- A command is not protocol control. -/
lemma negotiate_command {σ β : Type} (h : msg.msgTypeId = msgCommandAmf0) (st : σ)
    (other : LinkM (σ ⊕ β)) :
    negotiate msg st other = other := by
  rw [negotiate, if_neg (h.trans_ne (by decide)), if_neg (h.trans_ne (by decide)),
    if_neg fun hlimit => h.trans_ne (by decide) hlimit.1]

/-- Nor is an event. -/
lemma negotiate_userControl {σ β : Type} (h : msg.msgTypeId = msgUserControl) (st : σ)
    (other : LinkM (σ ⊕ β)) : negotiate msg st other = other := by
  rw [negotiate, if_neg (h.trans_ne (by decide)), if_neg (h.trans_ne (by decide)),
    if_neg fun hlimit => h.trans_ne (by decide) hlimit.1]

lemma heeding_command (h : commandOf msg = some values) (l : Link) : heeding msg l = l := by
  rw [heeding, heed_command (commandOf_eq_some.mp h).1]

lemma heeding_userControl (h : msg.msgTypeId = msgUserControl) (l : Link) : heeding msg l = l := by
  rw [heeding, heed, if_neg (h.trans_ne (by decide)), if_neg (h.trans_ne (by decide)),
    if_neg fun hlimit => h.trans_ne (by decide) hlimit.1]

lemma commandBody_of_commandOf (h : commandOf msg = some values) : commandBody msg = .ok values := by
  obtain ⟨htype, hdecode⟩ := commandOf_eq_some.mp h
  rw [commandBody, if_neg (by rw [htype]; decide), hdecode]

/-- The size a client announces before it connects. -/
lemma hears_connect_control (hwell : WellFormed msg) (hcommand : msg.msgTypeId ≠ msgCommandAmf0)
    (hcommand' : msg.msgTypeId ≠ msgCommandAmf3) :
    Hears (awaitConnect serverCaps) msg (awaitConnect serverCaps) := by
  rw [awaitConnect_eq]
  refine hears_waitFor (fun () msg => shrinks_connectStep serverCaps msg) fun l => ?_
  refine Eff.run_bind_ok (negotiate_control hwell (fun l => ?_) l)
  rw [if_neg (not_or.mpr ⟨hcommand, hcommand'⟩)]
  rfl

/-- The connect command is answered. -/
lemma hears_connect {cmdObj : Amf0Value}
    (h : commandOf msg = some [.string "connect", .number tx, cmdObj]) :
    Hears (awaitConnect serverCaps) msg (answerConnect tx serverCaps >>= fun _ =>
      pure ⟨infoText cmdObj "tcUrl", infoText cmdObj "app", .fromAmf0 cmdObj⟩) := by
  have htype := (commandOf_eq_some.mp h).1
  have hstep : connectStep serverCaps msg
      = connectCommand serverCaps [.string "connect", .number tx, cmdObj] >>= fun r =>
      pure (.inr r) := by
    rw [connectStep, negotiate_command htype, if_pos (.inl htype), commandBody_of_commandOf h]
    rfl
  have hcommand : connectCommand serverCaps [.string "connect", .number tx, cmdObj]
      = answerConnect tx serverCaps >>= fun _ =>
        pure ⟨infoText cmdObj "tcUrl", infoText cmdObj "app", .fromAmf0 cmdObj⟩ := rfl
  rw [awaitConnect_eq]
  refine hears_waitFor (fun () msg => shrinks_connectStep serverCaps msg) fun l => ?_
  rw [heeding_command h, hstep, hcommand]
  simp only [Eff.bind_assoc, Eff.pure_bind, Sum.elim_inr]

/-- A command between connect and the direction is obeyed. -/
lemma hears_prepare (h : commandOf msg = some values) :
    Hears (waitFor (requestStep connect) st) msg (prepareCommand st values >>= Sum.elim
      (waitFor (requestStep connect))
      fun cmd => pure (toRequest connect st.bufferLengthMs (max msg.msgStreamId 1) cmd)) := by
  have htype := (commandOf_eq_some.mp h).1
  refine hears_waitFor (shrinks_requestStep connect) fun l => ?_
  rw [heeding_command h, requestStep, negotiate_command htype, if_neg (by rw [htype]; decide),
    if_pos (.inl htype), commandBody_of_commandOf h, Eff.ofExcept_ok_bind, Eff.bind_assoc]
  congr 2
  funext r
  cases r <;> rfl

/-- A buffer length is noted. -/
lemma hears_setBufferLength (streamId bufferMs : UInt32) :
    Hears (waitFor (requestStep connect) st) (buildUserControlSetBufferLength streamId bufferMs)
      (waitFor (requestStep connect) { st with bufferLengthMs := some bufferMs }) := by
  have hparse : UserControlEvent.parse (buildUserControlSetBufferLength streamId bufferMs).payload
      = .ok (.setBufferLength streamId bufferMs) :=
    UserControlEvent.parse_built (.setBufferLength streamId bufferMs) nofun
  refine hears_waitFor (shrinks_requestStep connect) fun l => ?_
  have hstep : requestStep connect st (buildUserControlSetBufferLength streamId bufferMs)
      = pure (.inl (st.bufferLength (buildUserControlSetBufferLength streamId bufferMs).payload)) := rfl
  rw [hstep, Preparing.bufferLength, hparse]
  rfl

/-- A message that is no reply to the transaction, and no error. -/
lemma hears_quiet (htx : Binary64.eq (.ofInt (-1)) tx = false) (hwell : WellFormed msg)
    (hforeign : ∀ values, commandOf msg = some values → ¬ RepliesTo tx values)
    (hquiet : ¬ Refuses msg) :
    Hears (waitForResult tx) msg (waitForResult tx) := by
  rw [waitForResult_eq]
  refine hears_waitFor (fun () msg => shrinks_resultStep tx msg) fun l => ?_
  exact Eff.run_bind_ok (run_resultStep_quiet htx hwell hforeign hquiet l)

/-- Protocol control is no reply. -/
lemma hears_control (htx : Binary64.eq (.ofInt (-1)) tx = false) (hwell : WellFormed msg)
    (htype : msg.msgTypeId ≠ msgCommandAmf0) : Hears (waitForResult tx) msg (waitForResult tx) := by
  have hnone : ∀ values, commandOf msg ≠ some values := fun values h =>
    htype (commandOf_eq_some.mp h).1
  refine hears_quiet htx hwell (fun values h => absurd h (hnone values)) ?_
  rintro ⟨values, h, -⟩
  exact hnone values h

/-- Nor is the result of another transaction. -/
lemma hears_other {m n : ℕ} (hm : m < 2 ^ 53) (hn : n < 2 ^ 53) (hne : m ≠ n)
    (htx : Binary64.eq (.ofInt (-1)) (.ofNat n) = false) {args : List Amf0Value}
    (h : commandOf msg = some (.string "_result" :: .number (.ofNat m) :: args)) :
    Hears (waitForResult (.ofNat n)) msg (waitForResult (.ofNat n)) := by
  refine hears_quiet htx ⟨fun hcontrol => ?_, fun _ => by rw [h]; rfl⟩ (fun values hvalues => ?_) ?_
  · rw [(commandOf_eq_some.mp h).1] at hcontrol
    exact absurd hcontrol (by decide)
  · obtain rfl := Option.some.inj (h.symm.trans hvalues)
    rintro ⟨-, t, ht, heq⟩
    obtain rfl : Binary64.ofNat m = t := Option.some.inj ht
    exact hne ((Binary64.eq_ofNat_iff hm hn).mp heq)
  · rintro ⟨values, hvalues, hname⟩
    obtain rfl := Option.some.inj (h.symm.trans hvalues)
    exact absurd (Option.some.inj (hname : some "_result" = some "_error")) (by decide)

/-- The result itself. -/
lemma hears_result {n : ℕ} (hn : n < 2 ^ 53) {args : List Amf0Value}
    (h : commandOf msg = some (.string "_result" :: .number (.ofNat n) :: args)) :
    Hears (waitForResult (.ofNat n)) msg (pure (.string "_result" :: .number (.ofNat n) :: args)) := by
  rw [waitForResult_eq]
  refine hears_waitFor (fun () msg => shrinks_resultStep (.ofNat n) msg) fun l => ?_
  rw [heeding_command h]
  exact Eff.run_bind_ok (run_resultStep_result h ⟨.inl rfl, _, rfl,
    (Binary64.eq_ofNat_iff hn hn).mpr rfl⟩ rfl l)

end Hearing

/-! ### The exchange -/

lemma sendable_control {msg : Message} (h : msg.payload.length < 2 ^ 24) :
    Sendable (csidProtocolControl, msg) :=
  ⟨(by decide : 2 ≤ csidProtocolControl.toNat ∧ csidProtocolControl.toNat ≤ 65599), h⟩

lemma sendable_command {msg : Message} (h : msg.payload.length < 2 ^ 24) :
    Sendable (csidCommand, msg) :=
  ⟨(by decide : 2 ≤ csidCommand.toNat ∧ csidCommand.toNat ≤ 65599), h⟩

/-- The blocks of the exchange can be spelled, and its messages have a length that a chunk header
can hold. -/
structure Connectable (u : RtmpUrl) (caps serverCaps : ConnectCapabilities) : Prop where
  client : caps.Carried
  server : serverCaps.Carried
  connect : (buildConnectWithCaps (.ofNat 1) u.app u.tcUrl flashVer caps).payload.length < 2 ^ 24
  result : (buildConnectResultWithCaps (.ofNat 1) serverCaps).payload.length < 2 ^ 24

namespace Connectable

variable {u : RtmpUrl} {caps serverCaps : ConnectCapabilities}

/-- A text of the connect command. -/
lemma text (h : Connectable u caps serverCaps) {key text : String}
    (hmem : (key, .string text) ∈ connectProperties u.app u.tcUrl flashVer) :
    (Utf8.encode text).length < 2 ^ 32 := by
  have hle : (Utf8.encode text).length
      ≤ (buildConnectWithCaps (.ofNat 1) u.app u.tcUrl flashVer caps).payload.length :=
    Amf.length_member_le (List.mem_singleton_self _) (List.mem_append_left _ hmem)
  exact (hle.trans_lt h.connect).trans (by norm_num)

lemma app (h : Connectable u caps serverCaps) : (Utf8.encode u.app).length < 2 ^ 32 := h.text (.head _)

lemma tcUrl (h : Connectable u caps serverCaps) : (Utf8.encode u.tcUrl).length < 2 ^ 32 :=
  h.text (.tail _ (.tail _ (.tail _ (.head _))))

end Connectable

/-- **The connect exchange**: a client announces its chunk size and connects, and the server
answers; the chunk size of the server is still on its way when the client goes on. -/
theorem connected {α γ : Type} {u : RtmpUrl} {caps serverCaps : ConnectCapabilities}
    {f : List Amf0Value → LinkM α} {g : ConnectRequest → LinkM γ} (hf : ∀ values, Steady (f values))
    (hg : ∀ request, Steady (g request)) (h : Connectable u caps serverCaps) :
    ReflTransGen Dialogue
      ⟨do
          announceChunkSize clientChunkSize
          write csidCommand (buildConnectWithCaps (.ofNat 1) u.app u.tcUrl flashVer caps)
          let values ← waitForResult (.ofNat 1)
          f values,
        awaitConnect serverCaps >>= g, [], []⟩
      ⟨f (connectReply (.ofNat 1) serverCaps), g ⟨u.tcUrl, u.app, caps⟩, [],
        [buildSetChunkSize serverChunkSize]⟩ := by
  have htx : Binary64.eq (.ofInt (-1)) (.ofNat 1) = false := by decide +kernel
  have hreply : commandOf (buildConnectWithCaps (.ofNat 1) u.app u.tcUrl flashVer caps) = some _ :=
    commandOf_connect h.app h.tcUrl (by decide +kernel) h.client
  have hserver : ((answerConnect (.ofNat 1) serverCaps >>= fun _ =>
        pure ⟨infoText (connectObject u.app u.tcUrl flashVer caps) "tcUrl",
          infoText (connectObject u.app u.tcUrl flashVer caps) "app",
          .fromAmf0 (connectObject u.app u.tcUrl flashVer caps)⟩) >>= g)
      = (do
          write csidProtocolControl (buildWindowAckSize windowAckSize)
          write csidProtocolControl (buildSetPeerBandwidth windowAckSize peerBandwidthLimitDynamic)
          write csidProtocolControl (buildUserControlStreamBegin 0)
          write csidCommand (buildConnectResultWithCaps (.ofNat 1) serverCaps)
          announceChunkSize serverChunkSize
          g ⟨u.tcUrl, u.app, caps⟩ : LinkM γ) := by
    rw [infoText_app, infoText_tcUrl, fromAmf0_connectObject]
    simp only [answerConnect, Eff.bind_assoc, Eff.pure_bind]
  -- the three messages before the result are read and passed over
  have hcontrol : ∀ {msg : Message} (k : List Amf0Value → LinkM α), WellFormed msg →
      msg.msgTypeId ≠ msgCommandAmf0 →
      Hears (waitForResult (.ofNat 1) >>= k) msg (waitForResult (.ofNat 1) >>= k) :=
    fun k hwell htype => (hears_control htx hwell htype).bind k
  have hcommand : msgCommandAmf0 ≠ msgSetChunkSize := by decide
  -- the size and the command, each read as soon as it is sent
  refine .head (.leftTells (tells_announce_bind (by decide) _) inferInstance) ?_
  refine .head (.rightHears ((hears_connect_control ?_ (by decide) (by decide)).bind g)) ?_
  · exact ⟨fun _ => by decide, fun h => absurd h (by decide)⟩
  refine .head (.leftTells (tells_write_bind (sendable_command h.connect) hcommand _) inferInstance) ?_
  refine .head (.rightHears ((hears_connect hreply).bind g)) ?_
  -- now the server is the one that sends
  rw [hserver]
  refine .head (.rightTells (tells_write_bind (sendable_control (by decide)) (by decide) _)
    inferInstance) ?_
  refine .head (.leftHears (hcontrol _ ?_ (by decide))) ?_
  · exact ⟨fun _ => by decide, fun h => absurd h (by decide)⟩
  refine .head (.rightTells (tells_write_bind (sendable_control (by decide)) (by decide) _)
    inferInstance) ?_
  refine .head (.leftHears (hcontrol _ ?_ (by decide))) ?_
  · exact ⟨fun _ => by decide, fun h => absurd h (by decide)⟩
  refine .head (.rightTells (tells_write_bind (sendable_control (by decide)) (by decide) _)
    inferInstance) ?_
  refine .head (.leftHears (hcontrol _ ?_ (by decide))) ?_
  · exact ⟨fun _ => by decide, fun h => absurd h (by decide)⟩
  refine .head (.rightTells (tells_write_bind (sendable_command h.result) hcommand _) inferInstance) ?_
  refine .head (.leftHears ((hears_result (by norm_num) (commandOf_connectResult h.server)).bind _)) ?_
  exact .single (.rightTells (tells_announce_bind (by decide) _) (hg _))

/-! ### The creation of a message stream -/

/-- A server as it waits. -/
lemma RtmpServer.serveSession_eq {γ : Type} (serverCaps : ConnectCapabilities)
    (g : SessionRequest → LinkM γ) : RtmpServer.serveSession serverCaps g
      = awaitConnect serverCaps >>= fun connect => waitFor (requestStep connect) ⟨1, none⟩ >>= g := by
  simp only [RtmpServer.serveSession, driveUntilRequest, Eff.bind_assoc, awaitRequest_eq]

section Create

variable {st : Preparing} {tx : Binary64} {args : List Amf0Value}

lemma prepareCommand_release {name : String} (h : name = "releaseStream" ∨ name = "FCPublish") :
    prepareCommand st (.string name :: .number tx :: args)
      = write csidCommand (sessionCommand "_result" tx .null [.undefined]) >>= fun _ =>
      pure (.inl st) :=
  (Eff.ofExcept_ok_bind name _).trans (if_pos h)

lemma prepareCommand_create : prepareCommand st (.string "createStream" :: .number tx :: args)
    = write csidCommand (buildCreateStreamResult tx (.ofNat st.nextStreamId.toNat)) >>= fun _ =>
      pure (.inl { st with nextStreamId := st.nextStreamId + 1 }) :=
  (Eff.ofExcept_ok_bind "createStream" _).trans ((if_neg (by decide)).trans (if_pos rfl))

lemma commandOf_createStream (tx : Binary64) :
    commandOf (buildCreateStream tx) = some [.string "createStream", .number tx, .null] :=
  commandOf_sessionCommand (by decide) tx fun _ hv => absurd hv List.not_mem_nil

/-- The values of a result that names a stream. -/
lemma commandOf_createStreamResult (streamId : UInt32) :
    commandOf (buildCreateStreamResult tx (.ofNat streamId.toNat))
      = some [.string "_result", .number tx, .null, .number (.ofNat streamId.toNat)] :=
  commandOf_sessionCommand (by decide) tx fun v hv => by
    rw [List.mem_singleton.mp hv]
    exact ⟨trivial, (by decide : 1 ≤ maxDecodeDepth)⟩

/-- The stream that is named is the one that is used. -/
lemma hears_createStreamResult {n : ℕ} (hn : n < 2 ^ 53) (streamId : UInt32) :
    Hears (waitForCreateStreamResult (.ofNat n))
      (buildCreateStreamResult (.ofNat n) (.ofNat streamId.toNat)) (pure streamId) := by
  refine ((hears_result hn (commandOf_createStreamResult streamId)).bind _).congr fun l => ?_
  rw [Eff.pure_bind]
  show (pure (Binary64.ofNat streamId.toNat).toU32 : LinkM UInt32).run l = _
  rw [Binary64.toU32_ofNat]

/-- What precedes it is passed over. -/
lemma Link.Hears.create {msg : Message} (h : Hears (waitForResult tx) msg (waitForResult tx)) :
    Hears (waitForCreateStreamResult tx) msg (waitForCreateStreamResult tx) := h.bind _

/-- A command that the server answers, while the client goes on. -/
lemma asked {α γ : Type} {connect : ConnectRequest} {st st' : Preparing} {cmd reply : Message}
    {values : List Amf0Value} {f : Unit → LinkM α} {h : SessionRequest → LinkM γ} {l : List Message}
    (hf : Steady (f ())) (hh : ∀ req, Steady (h req)) (hcmd : commandOf cmd = some values)
    (hprepare : prepareCommand st values = write csidCommand reply >>= fun _ => pure (.inl st'))
    (hlen : cmd.payload.length < 2 ^ 24) (hreply : reply.payload.length < 2 ^ 24)
    (htype : reply.msgTypeId ≠ msgSetChunkSize) :
    ReflTransGen Dialogue ⟨write csidCommand cmd >>= f, waitFor (requestStep connect) st >>= h, [], l⟩
      ⟨f (), waitFor (requestStep connect) st' >>= h, [], l ++ [reply]⟩ := by
  have hcommand : cmd.msgTypeId ≠ msgSetChunkSize := by
    rw [(commandOf_eq_some.mp hcmd).1]
    decide
  have hhears : Hears (waitFor (requestStep connect) st >>= h) cmd
      (write csidCommand reply >>= fun _ => waitFor (requestStep connect) st' >>= h) := by
    refine ((hears_prepare hcmd).bind h).congr fun l => ?_
    rw [hprepare]
    simp only [Eff.bind_assoc, Eff.pure_bind, Sum.elim_inl]
  refine .head (.leftTells (tells_write_bind (sendable_command hlen) hcommand f) hf) ?_
  refine .head (.rightHears hhears) ?_
  exact .single (.rightTells (tells_write_bind (sendable_command hreply) htype _) inferInstance)

end Create

end Rtmp
