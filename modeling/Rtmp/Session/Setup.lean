import Rtmp.Message.StreamControl
import Rtmp.Session.ChunkSize

/-!
What the replies of a server come to while a client is set up.

* `ChunkReader.Offers`: the messages that are read in a row, with what is done to the reader after each;
* `waitForCreateStreamResult_reply` (**replies**): which replies to createStream are taken for what they
  are, among messages that are no replies to it;
* `connectParsed_succeeds` (**leniency**): every status settles the wait for the start of a
  publication.
-/

namespace Rtmp

namespace ChunkReader

/-- Read in a row, each followed by `after`, these are the next messages. -/
inductive Offers (after : Message → ChunkReader → ChunkReader) : ChunkReader → List Message → Prop
  | nil {r : ChunkReader} : Offers after r []
  | cons {r r' : ChunkReader} {msg : Message} {msgs : List Message}
      (h : readMessage.run r = (.ok msg, r')) (hrest : Offers after (after msg r') msgs) :
      Offers after r (msg :: msgs)

/-- Every message takes input. -/
lemma Offers.length_le {after : Message → ChunkReader → ChunkReader} {r : ChunkReader}
    {msgs : List Message} (hafter : ∀ msg r, (after msg r).stream = r.stream)
    (h : Offers after r msgs) : msgs.length ≤ r.stream.length := by
  induction h with
  | nil => exact Nat.zero_le _
  | cons hread _ ih =>
      rw [hafter] at ih
      have hlt := readMessage_shrinks hread
      rw [List.length_cons]
      omega

/-- Messages that change nothing are read as they were sent. -/
lemma Delivers.offers {after : Message → ChunkReader → ChunkReader} {r : ChunkReader}
    {msgs : List Message} (hafter : ∀ msg ∈ msgs, ∀ r, after msg r = r) (h : Delivers r msgs) :
    Offers after r msgs := by
  induction h with
  | nil => exact .nil
  | cons hread _ ih =>
      refine .cons hread ?_
      rw [hafter _ List.mem_cons_self]
      exact ih fun msg hmsg => hafter msg (List.mem_cons_of_mem _ hmsg)

end ChunkReader

open Link
open ChunkReader (Offers)

namespace Link

variable {σ β : Type} {after : Message → ChunkReader → ChunkReader}

lemma run_hear {l : Link} {msg : Message} {r : ChunkReader}
    (h : ChunkReader.readMessage.run l.reader = (.ok msg, r)) :
    hear.run l = (.ok msg, { l with reader := r, heard := l.heard ++ [msg] }) :=
  Eff.run_bind_ok (Eff.run_zoom h)

/-- A wait goes through messages that do not settle it. -/
lemma run_await_quiet {step : σ → Message → LinkM (σ ⊕ β)} {st : σ} {pre rest : List Message}
    (hquiet : ∀ msg ∈ pre, ∀ l : Link,
      (step st msg).run l = (.ok (.inl st), { l with reader := after msg l.reader }))
    {l : Link} (h : Offers after l.reader (pre ++ rest)) (rounds : ℕ) :
    ∃ l', (await step (pre.length + rounds) st).run l = (await step rounds st).run l' ∧
      Offers after l'.reader rest := by
  induction pre generalizing l with
  | nil => exact ⟨l, by rw [List.length_nil, Nat.zero_add], h⟩
  | cons msg pre ih =>
      cases h with
      | @cons _ r _ _ hread hrest =>
          obtain ⟨hmsg, hpre⟩ := List.forall_mem_cons.mp hquiet
          obtain ⟨l', hrun, hoffers⟩ := ih hpre
            (l := ⟨after msg r, l.writer, l.heard ++ [msg]⟩) hrest
          refine ⟨l', ?_, hoffers⟩
          rw [← hrun, List.length_cons, Nat.add_right_comm, await, Eff.run_bind_ok (run_hear hread),
            Eff.run_bind_ok (hmsg _)]

/-- A message that settles a wait, one way or the other. -/
lemma run_await_settled {step : σ → Message → LinkM (σ ⊕ β)} {st : σ} {msg : Message}
    {out : Except Error β} {rest : List Message}
    (hsettles : ∀ l, ((step st msg).run l).1 = out.map .inr) {l : Link}
    (h : Offers after l.reader (msg :: rest)) (rounds : ℕ) :
    ((await step (rounds + 1) st).run l).1 = out := by
  cases h with
  | @cons _ r _ _ hread hrest =>
      rw [await, Eff.run_bind_ok (run_hear hread), Eff.run_bind]
      have hrun := hsettles { l with reader := r, heard := l.heard ++ [msg] }
      rcases hstep : (step st msg).run { l with reader := r, heard := l.heard ++ [msg] } with ⟨res, l'⟩
      rw [hstep] at hrun
      obtain rfl : res = out.map .inr := hrun
      cases out <;> rfl

/-- So does a wait as a whole. -/
lemma run_waitFor {step : σ → Message → LinkM (σ ⊕ β)} {st : σ} {pre rest : List Message}
    {msg : Message} {out : Except Error β} (hafter : ∀ msg r, (after msg r).stream = r.stream)
    (hquiet : ∀ msg ∈ pre, ∀ l : Link,
      (step st msg).run l = (.ok (.inl st), { l with reader := after msg l.reader }))
    (hsettles : ∀ l, ((step st msg).run l).1 = out.map .inr) {l : Link}
    (h : Offers after l.reader (pre ++ msg :: rest)) : ((waitFor step st).run l).1 = out := by
  have hlen := h.length_le hafter
  rw [List.length_append, List.length_cons] at hlen
  obtain ⟨l', hrun, hoffers⟩ := run_await_quiet hquiet h (l.reader.stream.length - pre.length + 1)
  have hrounds : l.reader.stream.length + 1
      = pre.length + (l.reader.stream.length - pre.length + 1) := by omega
  change ((await step (l.reader.stream.length + 1) st).run l).1 = out
  rw [hrounds, hrun]
  exact run_await_settled hsettles hoffers _

end Link

/-! ### Protocol control -/

/-- What the reader becomes when protocol control is heeded. -/
def heed (msg : Message) (r : ChunkReader) : ChunkReader :=
  if msg.msgTypeId = msgSetChunkSize then r.setChunkSize (u32OfBe msg.payload &&& 0x7FFFFFFF).toNat
  else if msg.msgTypeId = msgWindowAckSize then r.setWindowAckSize (u32OfBe msg.payload)
  else if msg.msgTypeId = msgSetPeerBandwidth ∧ 4 ≤ msg.payload.length then
    r.setWindowAckSize (u32OfBe msg.payload)
  else r

/-- The command in a message. -/
def commandOf (msg : Message) : Option (List Amf0Value) :=
  if msg.msgTypeId = msgCommandAmf0 then (Amf.decodeAll msg.payload).toOption else none

/-- A body that protocol control needs is there, and a command can be decoded. -/
structure WellFormed (msg : Message) : Prop where
  control : msg.msgTypeId = msgSetChunkSize ∨ msg.msgTypeId = msgWindowAckSize → 4 ≤ msg.payload.length
  command : msg.msgTypeId = msgCommandAmf0 → (commandOf msg).isSome

lemma stream_heed (msg : Message) (r : ChunkReader) : (heed msg r).stream = r.stream := by
  rw [heed]
  split_ifs <;> rfl

lemma heed_command {msg : Message} (h : msg.msgTypeId = msgCommandAmf0) (r : ChunkReader) :
    heed msg r = r := by
  have hne : ∀ ty : UInt8, ty ≠ msgCommandAmf0 → msg.msgTypeId ≠ ty := fun ty hty heq =>
    hty (heq.symm.trans h)
  rw [heed, if_neg (hne _ (by decide)), if_neg (hne _ (by decide)),
    if_neg fun hlimit => hne _ (by decide) hlimit.1]

lemma commandOf_eq_some {msg : Message} {values : List Amf0Value} :
    commandOf msg = some values ↔
      msg.msgTypeId = msgCommandAmf0 ∧ Amf.decodeAll msg.payload = .ok values := by
  rw [commandOf]
  split_ifs with h
  · rcases Amf.decodeAll msg.payload with e | decoded
    · exact iff_of_false nofun fun hdecode => by cases hdecode.2
    · simp [h, Except.toOption]
  · exact iff_of_false nofun fun hdecode => h hdecode.1

/-- A well-formed message that is no command is heeded and nothing else. -/
lemma negotiate_control {σ β : Type} {msg : Message} (hwell : WellFormed msg) {st : σ}
    {other : LinkM (σ ⊕ β)} (hother : ∀ l, other.run l = (.ok (.inl st), l)) (l : Link) :
    (negotiate msg st other).run l = (.ok (.inl st), { l with reader := heed msg l.reader }) := by
  have hread : 4 ≤ msg.payload.length → readU32Be msg.payload = .ok (u32OfBe msg.payload) :=
    fun hlen => if_neg (Nat.not_lt.mpr hlen)
  rw [negotiate, heed]
  by_cases hchunk : msg.msgTypeId = msgSetChunkSize
  · rw [if_pos hchunk, if_pos hchunk, hread (hwell.control (.inl hchunk))]
    rfl
  rw [if_neg hchunk, if_neg hchunk]
  by_cases hwindow : msg.msgTypeId = msgWindowAckSize
  · rw [if_pos hwindow, if_pos hwindow, hread (hwell.control (.inr hwindow))]
    rfl
  rw [if_neg hwindow, if_neg hwindow]
  by_cases hlimit : msg.msgTypeId = msgSetPeerBandwidth ∧ 4 ≤ msg.payload.length
  · have htake : readU32Be (msg.payload.take 4) = .ok (u32OfBe msg.payload) := by
      rw [readU32Be, if_neg (by rw [List.length_take]; omega), u32OfBe, u32OfBe, List.take_take]
      rfl
    rw [if_pos hlimit, if_pos hlimit, htake]
    rfl
  · rw [if_neg hlimit, if_neg hlimit]
    exact hother l

/-! ### Replies -/

/-- The command is a reply to the transaction. -/
def RepliesTo (tx : Binary64) (values : List Amf0Value) : Prop :=
  (commandName values = some "_result" ∨ commandName values = some "_error") ∧
    ∃ t, values[1]? >>= Amf0Value.asF64 = some t ∧ Binary64.eq t tx = true

/-- The message is a command that reports an error, to whatever transaction. -/
def Refuses (msg : Message) : Prop :=
  ∃ values, commandOf msg = some values ∧ commandName values = some "_error"

/-- The result names a message stream. -/
def CarriesId (values : List Amf0Value) (id : UInt32) : Prop :=
  ∃ t, values = [.string "_result", .number t, .null, .number (.ofNat id.toNat)]

/-- The result has no number after the command object. -/
def LacksId (values : List Amf0Value) : Prop :=
  commandName values = some "_result" ∧ ∀ v ∈ values.drop 3, v.asF64 = none

/-- What the wait for a reply does with one message. -/
def resultStep (expectedTx : Binary64) (msg : Message) : LinkM (Unit ⊕ List Amf0Value) :=
  negotiate msg () (
    if msg.msgTypeId = msgCommandAmf0 then do
      let values ← Eff.ofExcept (Amf.decodeAll msg.payload)
      let name := (commandName values).getD ""
      let tx := commandTransaction (.ofInt (-1)) values
      if name = "_result" ∧ Binary64.eq tx expectedTx then pure (.inr values)
      else if name = "_error" then Eff.fail (errorReply values)
      else pure (.inl ())
    else pure (.inl ()))

lemma waitForResult_eq (tx : Binary64) : waitForResult tx
    = waitFor (fun () msg => resultStep tx msg) () :=
  rfl

section Step

variable {tx : Binary64} {msg : Message} {values : List Amf0Value}

/-- What the wait does with a command. -/
lemma run_resultStep_command (h : commandOf msg = some values) (l : Link) :
    (resultStep tx msg).run l
      = if (commandName values).getD "" = "_result"
          ∧ Binary64.eq (commandTransaction (.ofInt (-1)) values) tx then (.ok (.inr values), l)
        else if (commandName values).getD "" = "_error" then (.error (errorReply values), l)
        else (.ok (.inl ()), l) := by
  obtain ⟨htype, hdecode⟩ := commandOf_eq_some.mp h
  have hne : ∀ ty : UInt8, ty ≠ msgCommandAmf0 → msg.msgTypeId ≠ ty := fun ty hty heq =>
    hty (heq.symm.trans htype)
  rw [resultStep, negotiate, if_neg (hne _ (by decide)), if_neg (hne _ (by decide)),
    if_neg fun hlimit => hne _ (by decide) hlimit.1, if_pos htype, hdecode, Eff.run_ofExcept_ok_bind]
  dsimp only
  split_ifs <;> rfl

/-- The first number of a reply is taken for its transaction. -/
lemma repliesTo_of_eq (htx : Binary64.eq (.ofInt (-1)) tx = false)
    (hname : (commandName values).getD "" = "_result")
    (heq : Binary64.eq (commandTransaction (.ofInt (-1)) values) tx = true) : RepliesTo tx values := by
  constructor
  · left
    cases hvalues : commandName values with
    | none =>
        rw [hvalues] at hname
        exact absurd hname (by decide)
    | some name =>
        rw [hvalues] at hname
        exact congrArg some hname
  · rw [commandTransaction] at heq
    cases ht : values[1]? >>= Amf0Value.asF64 with
    | none =>
        rw [ht, Option.getD_none, htx] at heq
        cases heq
    | some t =>
        rw [ht] at heq
        exact ⟨t, rfl, heq⟩

/-- Messages that are no replies and report no errors are passed over. -/
lemma run_resultStep_quiet (htx : Binary64.eq (.ofInt (-1)) tx = false) (hwell : WellFormed msg)
    (hforeign : ∀ values, commandOf msg = some values → ¬ RepliesTo tx values) (hquiet : ¬ Refuses msg)
    (l : Link) :
    (resultStep tx msg).run l = (.ok (.inl ()), { l with reader := heed msg l.reader }) := by
  by_cases htype : msg.msgTypeId = msgCommandAmf0
  · obtain ⟨values, hvalues⟩ := Option.isSome_iff_exists.mp (hwell.command htype)
    have hresult : ¬ ((commandName values).getD "" = "_result"
        ∧ Binary64.eq (commandTransaction (.ofInt (-1)) values) tx) := fun h =>
      hforeign values hvalues (repliesTo_of_eq htx h.1 h.2)
    have herror : (commandName values).getD "" ≠ "_error" := by
      intro h
      cases hname : commandName values with
      | none =>
          rw [hname] at h
          exact absurd h (by decide)
      | some name =>
          rw [hname] at h
          exact hquiet ⟨values, hvalues, hname.trans (congrArg some h)⟩
    rw [run_resultStep_command hvalues, if_neg hresult, if_neg herror, heed_command htype]
  · exact negotiate_control hwell (fun l => by rw [if_neg htype]; rfl) l

/-- An error ends the wait, whatever transaction it is for. -/
lemma run_resultStep_error (h : commandOf msg = some values)
    (hname : commandName values = some "_error")
    (l : Link) : (resultStep tx msg).run l = (.error (errorReply values), l) := by
  rw [run_resultStep_command h, hname, if_neg fun h => absurd h.1 (by decide)]
  exact if_pos rfl

/-- The result ends it. -/
lemma run_resultStep_result (h : commandOf msg = some values) (hreplies : RepliesTo tx values)
    (hname : commandName values = some "_result") (l : Link) :
    (resultStep tx msg).run l = (.ok (.inr values), l) := by
  obtain ⟨-, t, ht, heq⟩ := hreplies
  rw [run_resultStep_command h, hname, if_pos]
  refine ⟨rfl, ?_⟩
  rw [commandTransaction, ht]
  exact heq

end Step

/-- If something in a list has a property, there is a first one that has it. -/
lemma exists_first {α : Type} {P : α → Prop} {xs : List α} (h : ∃ x ∈ xs, P x) :
    ∃ before x after, xs = before ++ x :: after ∧ P x ∧ ∀ y ∈ before, ¬ P y := by
  induction xs with
  | nil => simp at h
  | cons y xs ih =>
      by_cases hy : P y
      · exact ⟨[], y, xs, rfl, hy, nofun⟩
      · obtain ⟨x, hmem, hx⟩ := h
        rcases List.mem_cons.mp hmem with rfl | hlater
        · exact absurd hx hy
        · obtain ⟨before, z, after, rfl, hz, hnone⟩ := ih ⟨x, hlater, hx⟩
          exact ⟨y :: before, z, after, rfl, hz, List.forall_mem_cons.mpr ⟨hy, hnone⟩⟩

section Reply

variable {tx : Binary64} {pre : List Message} {reply : Message} {values : List Amf0Value} {l : Link}

/-- What the wait for a reply comes to. -/
lemma run_waitForResult (htx : Binary64.eq (.ofInt (-1)) tx = false)
    (hoffers : Offers heed l.reader (pre ++ [reply])) (hwell : ∀ msg ∈ pre, WellFormed msg)
    (hforeign : ∀ msg ∈ pre, ∀ values, commandOf msg = some values → ¬ RepliesTo tx values)
    (hreply : commandOf reply = some values) (hreplies : RepliesTo tx values) :
    ((∃ msg ∈ pre, Refuses msg) ∨ commandName values = some "_error") ∧
        (∃ e, ((waitForResult tx).run l).1 = .error e) ∨
      (∀ msg ∈ pre, ¬ Refuses msg) ∧ commandName values = some "_result" ∧
        ((waitForResult tx).run l).1 = .ok values := by
  rw [waitForResult_eq]
  by_cases hrefused : ∃ msg ∈ pre, Refuses msg
  · obtain ⟨before, msg, after, rfl, ⟨errors, hcommand, hname⟩, hquiet⟩ := exists_first hrefused
    refine .inl ⟨.inl hrefused, errorReply errors, ?_⟩
    rw [List.append_assoc, List.cons_append] at hoffers
    refine run_waitFor stream_heed (fun m hm l => ?_) (fun l => ?_) hoffers
    · have hmem : m ∈ before ++ msg :: after := List.mem_append_left _ hm
      exact run_resultStep_quiet htx (hwell m hmem) (hforeign m hmem) (hquiet m hm) l
    · rw [run_resultStep_error hcommand hname]
      rfl
  · have hquiet : ∀ msg ∈ pre, ¬ Refuses msg := fun msg hmsg h => hrefused ⟨msg, hmsg, h⟩
    have hpre : ∀ msg ∈ pre, ∀ l : Link, (resultStep tx msg).run l
        = (.ok (.inl ()), { l with reader := heed msg l.reader }) := fun msg hmsg =>
      run_resultStep_quiet htx (hwell msg hmsg) (hforeign msg hmsg) (hquiet msg hmsg)
    rcases hreplies.1 with hname | hname
    · refine .inr ⟨hquiet, hname, run_waitFor stream_heed hpre (fun l => ?_) hoffers⟩
      rw [run_resultStep_result hreply hreplies hname]
      rfl
    · refine .inl ⟨.inr hname, errorReply values, run_waitFor stream_heed hpre (fun l => ?_) hoffers⟩
      rw [run_resultStep_error hreply hname]
      rfl

/-- **Replies**: let the reply to createStream come among messages that are no replies to it.  An error
is always reported.  A result that names a message stream is taken for that if and only if no other
transaction was answered by an error before it, and one that names none is refused only if one was:
otherwise the transaction number is taken for the stream. -/
theorem waitForCreateStreamResult_reply (htx : Binary64.eq (.ofInt (-1)) tx = false)
    (hoffers : Offers heed l.reader (pre ++ [reply])) (hwell : ∀ msg ∈ pre, WellFormed msg)
    (hforeign : ∀ msg ∈ pre, ∀ values, commandOf msg = some values → ¬ RepliesTo tx values)
    (hreply : commandOf reply = some values) (hreplies : RepliesTo tx values) :
    (∀ id, CarriesId values id → ((waitForCreateStreamResult tx).run l).1 = .ok id) ∧
        (commandName values = some "_error" → ∃ e, ((waitForCreateStreamResult tx).run l).1
          = .error e) ∧
        (LacksId values → ∃ e, ((waitForCreateStreamResult tx).run l).1 = .error e) ↔
      ((∃ id, CarriesId values id) → ∀ msg ∈ pre, ¬ Refuses msg) ∧
        (LacksId values → ∃ msg ∈ pre, Refuses msg) := by
  have hrun := run_waitForResult htx hoffers hwell hforeign hreply hreplies
  rw [waitForCreateStreamResult]
  rcases hout : (waitForResult tx).run l with ⟨_ | out, l'⟩ <;> rw [hout] at hrun
  · -- The wait failed.
    rw [Eff.run_bind_error hout]
    rcases hrun with ⟨hcause, -⟩ | ⟨-, -, hok⟩
    · constructor
      · rintro ⟨hcarries, -, -⟩
        refine ⟨?_, fun hlacks => ?_⟩
        · rintro ⟨id, hid⟩
          exact nomatch hcarries id hid
        · rcases hcause with hrefused | hname
          · exact hrefused
          · rw [hlacks.1] at hname
            exact absurd hname (by decide)
      · rintro ⟨hquiet, -⟩
        refine ⟨fun id hid => ?_, fun _ => ⟨_, rfl⟩, fun _ => ⟨_, rfl⟩⟩
        exfalso
        rcases hcause with ⟨msg, hmsg, hrefuses⟩ | hname
        · exact hquiet ⟨id, hid⟩ msg hmsg hrefuses
        · obtain ⟨t, rfl⟩ := hid
          exact absurd (Option.some.inj (hname : some "_result" = some "_error")) (by decide)
    · cases hok
  · -- The wait ended with the result, and the last number of it is the answer.
    rcases hrun with ⟨-, e, herror⟩ | ⟨hquiet, hname, hok⟩
    · cases herror
    · obtain rfl : out = values := Except.ok.inj hok
      rw [Eff.run_bind_ok hout]
      obtain ⟨-, t, ht, -⟩ := hreplies
      -- the transaction id is a number itself, so there is a last one
      have hsome : (lastNumber out).isSome := by
        rw [lastNumber, List.findSome?_isSome_iff]
        cases hv : out[1]? with
        | none =>
            rw [hv] at ht
            cases ht
        | some v =>
            rw [hv] at ht
            refine ⟨v, List.mem_reverse.mpr (List.mem_of_getElem? hv), ?_⟩
            rw [show v.asF64 = some t from ht]
            rfl
      obtain ⟨sid, hsid⟩ := Option.isSome_iff_exists.mp hsome
      rw [hsid]
      constructor
      · rintro ⟨-, -, hlacks⟩
        refine ⟨fun _ => hquiet, fun h => ?_⟩
        obtain ⟨e, he⟩ := hlacks h
        cases he
      · rintro ⟨-, hlacks⟩
        refine ⟨fun id hid => ?_, fun herror => ?_, fun h => ?_⟩
        · obtain ⟨t, rfl⟩ := hid
          obtain rfl : Binary64.ofNat id.toNat = sid := Option.some.inj hsid
          exact congrArg Except.ok (Binary64.toU32_ofNat id)
        · rw [hname] at herror
          exact absurd herror (by decide)
        · obtain ⟨msg, hmsg, hrefuses⟩ := hlacks h
          exact absurd hrefuses (hquiet msg hmsg)

end Reply

/-- A connection with commands on its wire. -/
def replying (msgs : List Message) : Link :=
  opened (ReadEvent.bytes (sent (msgs.map fun msg => (csidCommand, msg))))

/-- Commands on the wire are read as they are. -/
lemma offers_replying {msgs : List Message}
    (h : ∀ msg ∈ msgs, msg.msgTypeId = msgCommandAmf0 ∧ msg.payload.length < 2 ^ 24) :
    Offers heed (replying msgs).reader msgs := by
  have hsend : ∀ p ∈ msgs.map fun msg => (csidCommand, msg), Sendable p := by
    intro p hp
    obtain ⟨msg, hmsg, rfl⟩ := List.mem_map.mp hp
    exact ⟨(by decide : 2 ≤ csidCommand.toNat ∧ csidCommand.toNat ≤ 65599), (h msg hmsg).2⟩
  have hdelivers := delivers_fresh hsend
  rw [List.map_map, show Prod.snd ∘ (fun msg : Message => (csidCommand, msg)) = id from rfl,
    List.map_id] at hdelivers
  exact hdelivers.offers fun msg hmsg r => heed_command (h msg hmsg).1 r

/-- The command in a message that was built from it. -/
lemma commandOf_sessionCommand {name : String} (hname : (Utf8.encode name).length < 2 ^ 32)
    (tx : Binary64) {args : List Amf0Value}
    (hargs : ∀ v ∈ args, v.Spellable ∧ v.height ≤ maxDecodeDepth) :
    commandOf (sessionCommand name tx .null args)
    = some (.string name :: .number tx :: .null :: args) :=
  commandOf_eq_some.mpr
    ⟨rfl, Amf.decodeAll_encodeCommand hname tx ⟨trivial, by decide⟩ hargs⟩

/-- A reply that names a stream, after the reply to another transaction. -/
theorem waitForCreateStreamResult_reply_second :
    ((waitForCreateStreamResult (.ofNat 4)).run (replying
      [sessionCommand "_result" (.ofNat 2) .null [], sessionCommand "_result" (.ofNat 4) .null
        [.number (.ofNat 7)]])).1 = .ok 7 := by
  have hname : (Utf8.encode "_result").length < 2 ^ 32 := by decide
  have hother : commandOf (sessionCommand "_result" (.ofNat 2) .null [])
      = some [.string "_result", .number (.ofNat 2), .null] := commandOf_sessionCommand hname _ nofun
  have hreply : commandOf (sessionCommand "_result" (.ofNat 4) .null [.number (.ofNat 7)])
      = some [.string "_result", .number (.ofNat 4), .null, .number (.ofNat 7)] := by
    refine commandOf_sessionCommand hname _ fun v hv => ?_
    rw [List.mem_singleton.mp hv]
    exact ⟨trivial, by decide⟩
  have hoffers : Offers heed (replying [sessionCommand "_result" (.ofNat 2) .null [],
      sessionCommand "_result" (.ofNat 4) .null [.number (.ofNat 7)]]).reader
      ([sessionCommand "_result" (.ofNat 2) .null []] ++
        [sessionCommand "_result" (.ofNat 4) .null [.number (.ofNat 7)]]) :=
    offers_replying fun msg hmsg => by
      rcases List.mem_pair.mp hmsg with rfl | rfl
      · exact ⟨rfl, by decide +kernel⟩
      · exact ⟨rfl, by decide +kernel⟩
  refine ((waitForCreateStreamResult_reply (by decide +kernel) hoffers ?_ ?_ hreply
    ⟨.inl rfl, _, rfl, (Binary64.eq_ofNat_iff (by norm_num) (by norm_num)).mpr rfl⟩).mpr
      ⟨?_, ?_⟩).1 7 ⟨_, rfl⟩
  · intro msg hmsg
    rw [List.mem_singleton.mp hmsg]
    exact ⟨fun h => absurd h (by decide), fun _ => by rw [hother]; rfl⟩
  · intro msg hmsg values hvalues
    rw [List.mem_singleton.mp hmsg, hother] at hvalues
    cases hvalues
    rintro ⟨-, t, ht, heq⟩
    obtain rfl : Binary64.ofNat 2 = t := Option.some.inj ht
    exact absurd ((Binary64.eq_ofNat_iff (by norm_num) (by norm_num)).mp heq) (by decide)
  · intro _ msg hmsg
    rw [List.mem_singleton.mp hmsg]
    rintro ⟨values, hvalues, hname⟩
    rw [hother] at hvalues
    cases hvalues
    exact absurd (Option.some.inj (hname : some "_result" = some "_error")) (by decide)
  · rintro ⟨-, hlacks⟩
    exact nomatch hlacks (.number (.ofNat 7)) (List.mem_singleton_self _)

/-- **Replies that are mistaken**: the error of releaseStream is taken for that of createStream, and a
result without a stream is taken for stream 4, which is its transaction. -/
theorem not_replies_matched :
    ((waitForCreateStreamResult (.ofNat 4)).run (replying
        [sessionCommand "_error" (.ofNat 2) .null [], sessionCommand "_result" (.ofNat 4) .null
          [.number (.ofNat 7)]])).1.toOption = none ∧
      ((waitForCreateStreamResult (.ofNat 4)).run (replying
        [sessionCommand "_result" (.ofNat 4) .null []])).1.toOption = some 4 :=
  ⟨by decide +kernel, by decide +kernel⟩

/-! ### The start of a publication -/

/-- A protocol-control or user-control message. -/
def IsControl (msg : Message) : Prop := 1 ≤ msg.msgTypeId.toNat ∧ msg.msgTypeId.toNat ≤ 6

/-- A control message settles the wait or is passed over. -/
lemma run_settlesPublish_control {msg : Message} (h : IsControl msg) (l : Link) :
    ∃ settled, (settlesPublish msg).run l = (.ok settled, l) := by
  rw [settlesPublish]
  by_cases huser : msg.msgTypeId = msgUserControl
  · exact ⟨true, by rw [if_pos huser]; rfl⟩
  · have hcommand : msg.msgTypeId ≠ msgCommandAmf0 := by
      intro heq
      have hle := h.2
      rw [heq] at hle
      exact absurd hle (by decide)
    exact ⟨false, by rw [if_neg huser, if_neg hcommand]; rfl⟩

/-- A status settles it. -/
lemma run_settlesPublish_status {msg : Message} {values : List Amf0Value}
    (h : commandOf msg = some values) (hname : commandName values = some "onStatus") (l : Link) :
    (settlesPublish msg).run l = (.ok true, l) := by
  obtain ⟨htype, hdecode⟩ := commandOf_eq_some.mp h
  have huser : msg.msgTypeId ≠ msgUserControl := fun heq =>
    absurd (htype.symm.trans heq) (by decide)
  rw [settlesPublish, if_neg huser, if_pos htype, hdecode, Eff.run_ofExcept_ok_bind, hname]
  rfl

/-- However many messages are waited for, the wait ends well. -/
lemma run_awaitPublishStart {pre : List Message} {status : Message} {values : List Amf0Value}
    (hpre : ∀ msg ∈ pre, IsControl msg) (hstatus : commandOf status = some values)
    (hname : commandName values = some "onStatus") (rounds : ℕ) {l : Link}
    (hoffers : Offers (fun _ r => r) l.reader (pre ++ [status])) :
    ∃ l', (awaitPublishStart rounds).run l = (.ok (), l') := by
  induction rounds generalizing pre l with
  | zero => exact ⟨l, rfl⟩
  | succ rounds ih =>
      have hheard : ∀ {msg : Message} {r : ChunkReader} {settled : Bool},
          ChunkReader.readMessage.run l.reader = (.ok msg, r) →
          (settlesPublish msg).run ⟨r, l.writer, l.heard ++ [msg]⟩
            = (.ok settled, ⟨r, l.writer, l.heard ++ [msg]⟩) →
          (awaitPublishStart (rounds + 1)).run l
            = (if settled then pure () else awaitPublishStart rounds : LinkM Unit).run
                ⟨r, l.writer, l.heard ++ [msg]⟩ := by
        intro msg r settled hread hsettles
        rw [awaitPublishStart, Eff.run_attempt_bind, run_hear hread]
        dsimp only
        rw [Eff.run_bind_ok hsettles]
      cases pre with
      | nil =>
          cases hoffers with
          | cons hread hrest =>
              exact ⟨_, hheard hread (run_settlesPublish_status hstatus hname _)⟩
      | cons msg pre =>
          cases hoffers with
          | cons hread hrest =>
              obtain ⟨hmsg, hlater⟩ := List.forall_mem_cons.mp hpre
              obtain ⟨settled, hsettles⟩ := run_settlesPublish_control hmsg _
              rw [hheard hread hsettles]
              cases settled with
              | true => exact ⟨_, rfl⟩
              | false => exact ih hlater hrest

/-- **Leniency**: whatever a server says of a publication, once the publish command is sent: if the
client reads control messages first, with the chunk size it had, and then a status, the connection
is set up, be the status the start of the publication or its refusal. -/
theorem connectParsed_succeeds {u : RtmpUrl} {publishType : String} {caps : ConnectCapabilities}
    {stream : List ReadEvent} {ids : UInt32 × List Amf0Value} {l : Link}
    (hrequest : (RtmpClient.requestPublish u publishType caps).run (opened stream) = (.ok ids, l))
    {pre : List Message} {status : Message} {values : List Amf0Value}
    (hoffers : Offers (fun _ r => r) l.reader (pre ++ [status])) (hpre : ∀ msg ∈ pre, IsControl msg)
    (hstatus : commandOf status = some values) (hname : commandName values = some "onStatus") :
    ∃ client l', (RtmpClient.connectParsed u publishType caps).run (opened stream)
    = (.ok client, l') := by
  obtain ⟨l', hwait⟩ := run_awaitPublishStart hpre hstatus hname 20 hoffers
  have hstart : waitForPublishStart.run l = (.ok (), l') := hwait
  rw [RtmpClient.connectParsed, Eff.run_bind_ok hrequest, Eff.run_bind_ok hstart]
  exact ⟨_, _, rfl⟩

/-- A server that answers up to the publish command, and then sets a window and sends this status. -/
def deciding (level code : String) : List ReadEvent :=
  ReadEvent.bytes (sent [(csidCommand, buildConnectResultWithCaps (.ofNat 1) .default),
    (csidCommand, buildCreateStreamResult (.ofNat 4) (.ofNat 1)),
    (csidProtocolControl, buildWindowAckSize 2500000),
    (csidCommand, buildOnStatus 1 level code "cam")])

/-- A server that accepts. -/
theorem connectParsed_succeeds_start :
    ∃ client l', (RtmpClient.connectParsed ⟨"live", "cam", "rtmp://host/live"⟩ "live" .default).run
      (opened (deciding "status" statusPublishStart)) = (.ok client, l') := by
  obtain ⟨ids, hrequest⟩ := succeeds (x := RtmpClient.requestPublish
    ⟨"live", "cam", "rtmp://host/live"⟩ "live" .default)
    (l := opened (deciding "status" statusPublishStart)) (by decide +kernel)
  have hwindow : (ChunkReader.readMessage.run ((RtmpClient.requestPublish
      ⟨"live", "cam", "rtmp://host/live"⟩ "live" .default).run
        (opened (deciding "status" statusPublishStart))).2.reader).1
          = .ok (buildWindowAckSize 2500000) := by
    decide +kernel
  have hread : (ChunkReader.readMessage.run (ChunkReader.readMessage.run ((RtmpClient.requestPublish
      ⟨"live", "cam", "rtmp://host/live"⟩ "live" .default).run
        (opened (deciding "status" statusPublishStart))).2.reader).2).1
      = .ok (buildOnStatus 1 "status" statusPublishStart "cam") := by
    decide +kernel
  have hshort : ∀ text ∈ ["status", statusPublishStart, "cam"], (Utf8.encode text).length < 2 ^ 32 := by
    decide
  have hstatus : commandOf (buildOnStatus 1 "status" statusPublishStart "cam") = some _ :=
    commandOf_eq_some.mpr ⟨rfl, Amf.decodeAll_encodeCommand (by decide) _ ⟨trivial, by decide⟩
      fun v hv => by
        rw [List.mem_singleton.mp hv]
        exact ⟨⟨⟨by decide, by decide⟩, hshort _ (by simp), ⟨by decide, by decide⟩, hshort _ (by simp),
          ⟨by decide, by decide⟩, hshort _ (by simp), trivial⟩, by decide⟩⟩
  have hcontrol : ∀ msg ∈ [buildWindowAckSize 2500000], IsControl msg := by
    intro msg hmsg
    rw [List.mem_singleton.mp hmsg]
    exact ⟨by decide, by decide⟩
  have hends : ∀ l, (RtmpClient.requestPublish ⟨"live", "cam", "rtmp://host/live"⟩ "live" .default).run
        (opened (deciding "status" statusPublishStart)) = (.ok ids, l) →
      (ChunkReader.readMessage.run l.reader).1 = .ok (buildWindowAckSize 2500000) →
      (ChunkReader.readMessage.run (ChunkReader.readMessage.run l.reader).2).1
        = .ok (buildOnStatus 1 "status" statusPublishStart "cam") →
      ∃ client l', (RtmpClient.connectParsed ⟨"live", "cam", "rtmp://host/live"⟩ "live" .default).run
        (opened (deciding "status" statusPublishStart)) = (.ok client, l') := by
    intro l hrequest hwindow hread
    have hoffers : Offers (fun _ r => r) l.reader
        ([buildWindowAckSize 2500000] ++ [buildOnStatus 1 "status" statusPublishStart "cam"]) :=
      .cons (Prod.ext hwindow rfl) (.cons (Prod.ext hread rfl) .nil)
    exact connectParsed_succeeds hrequest hoffers hcontrol hstatus rfl
  exact hends _ hrequest hwindow hread

/-- **The refusal that is not reported**: a server that refuses the stream name. -/
theorem not_refusal_reported :
    ((RtmpClient.connectParsed ⟨"live", "cam", "rtmp://host/live"⟩ "live" .default).run
        (opened (deciding "error" statusPublishBadName))).1.toOption.isSome = true ∧
      ((RtmpClient.connectParsed ⟨"live", "cam", "rtmp://host/live"⟩ "live" .default).run
        (opened (deciding "error" statusPublishBadName))).2.heard.getLast?
        = some (buildOnStatus 1 "error" statusPublishBadName "cam") :=
  ⟨by decide +kernel, by decide +kernel⟩

end Rtmp
