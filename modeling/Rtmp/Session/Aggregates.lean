import Rtmp.Lib.Nest
import Rtmp.Session.Delivery

/-!
Aggregates on a publish session: when packing messages changes nothing for the reader.

* `Grouping`: messages packed into aggregates, nested to any depth, and `packed`, what is sent;
* `contentPacket`: what an audio, video or data message surfaces as;
* `returns_queue`, `returns_wire`: the queue serves what aggregates hold level by level;
* `calls_packed` (**order**): the calls return the same as without aggregates when in every
  aggregate the messages lie ever deeper, and otherwise the packets come in another order.
-/

namespace Rtmp

/-- Messages and aggregates of them; the label of an aggregate is its message stream id. -/
abbrev Grouping := Nest UInt32 Message

mutual

/-- The message that is sent for a grouping. -/
def packed : Grouping → Except Error Message
  | .item msg => .ok msg
  | .group streamId gs => do
      let subs ← packedAll gs
      buildAggregate streamId subs

/-- The messages that are sent for groupings in a row. -/
def packedAll : List Grouping → Except Error (List Message)
  | [] => .ok []
  | g :: gs => do
      let msg ← packed g
      let msgs ← packedAll gs
      pure (msg :: msgs)

end

/-- The message carries the content of the first stream. -/
def IsContent (msg : Message) : Prop :=
  msg.msgTypeId = msgAudio ∨ msg.msgTypeId = msgVideo ∨ msg.msgTypeId = msgDataAmf0 ∨
    msg.msgTypeId = msgDataAmf3

/-- The messages differ at most in their message streams. -/
def SameContent (m m' : Message) : Prop := m' = { m with msgStreamId := m'.msgStreamId }

/-- The message is the one sent for a grouping, on whatever message stream. -/
def Represents (g : Grouping) (msg : Message) : Prop := ∃ m, packed g = .ok m ∧ SameContent m msg

/-! ### Packing and unpacking -/

lemma SameContent.refl (m : Message) : SameContent m m := rfl

lemma represents_packedAll {gs : List Grouping} {msgs : List Message}
    (h : packedAll gs = .ok msgs) : List.Forall₂ Represents gs msgs := by
  induction gs generalizing msgs with
  | nil =>
      cases h
      exact .nil
  | cons g gs ih =>
      rw [packedAll] at h
      cases hg : packed g with
      | error e =>
          rw [hg] at h
          cases h
      | ok msg =>
          cases hgs : packedAll gs with
          | error e =>
              rw [hg, hgs] at h
              cases h
          | ok rest =>
              rw [hg, hgs] at h
              cases h
              exact .cons ⟨msg, hg, .refl msg⟩ (ih hgs)

lemma represents_moved {gs : List Grouping} {msgs : List Message}
    (h : List.Forall₂ Represents gs msgs) (sid : UInt32) :
    List.Forall₂ Represents gs (msgs.map fun m => { m with msgStreamId := sid }) := by
  induction h with
  | nil => exact .nil
  | cons hg _ ih =>
      obtain ⟨m, hpacked, hsame⟩ := hg
      refine .cons ⟨m, hpacked, ?_⟩ ih
      rw [SameContent] at hsame ⊢
      rw [hsame]

/-- The aggregate that represents a group unpacks into what its members are sent as. -/
lemma parseAggregate_represents {streamId : UInt32} {gs : List Grouping} {msg : Message}
    (h : Represents (.group streamId gs) msg) :
    msg.msgTypeId = msgAggregate ∧
      ∃ subs, parseAggregate msg = .ok subs ∧ List.Forall₂ Represents gs subs := by
  obtain ⟨m, hpacked, hsame⟩ := h
  rw [packed] at hpacked
  cases hgs : packedAll gs with
  | error e =>
      rw [hgs] at hpacked
      cases hpacked
  | ok subs =>
      rw [hgs] at hpacked
      have hbuild : buildAggregate streamId subs = .ok m := hpacked
      -- the builder gives it the type of an aggregate
      have htype : m.msgTypeId = msgAggregate := by
        rw [buildAggregate] at hbuild
        cases hbody : packSubs [] subs with
        | error e =>
            rw [hbody] at hbuild
            cases hbuild
        | ok body =>
            rw [hbody] at hbuild
            cases hbuild
            rfl
      refine ⟨(congrArg Message.msgTypeId hsame).trans htype, _, ?_,
        represents_moved (represents_packedAll hgs) msg.msgStreamId⟩
      rw [hsame]
      exact parseAggregate_moved hbuild msg.msgStreamId

namespace RtmpSession

open Session

/-! ### What content surfaces as -/

/-- The packet of a data message. -/
def dataPacket (values : List Amf0Value) : Option StreamPacket :=
  match parseDataFrame values with
  | some (.set handler value) =>
      some (if handler = "onMetaData" then .metadata value else .dataFrame handler value)
  | some (.clear handler) => some (.dataFrameCleared handler)
  | none => (metadataObject values).map .metadata

/-- The packet of an audio, video or data message, in whatever session. -/
def contentPacket (msg : Message) : Except Error (Option StreamPacket) :=
  if msg.msgTypeId = msgAudio then (fun tag => some (.audio msg.timestamp tag)) <$>
    Flv.parseAudio msg.payload
  else if msg.msgTypeId = msgVideo then (fun tag => some (.video msg.timestamp tag)) <$>
    Flv.parseVideo msg.payload
  else if msg.msgTypeId = msgDataAmf0 then dataPacket <$> Amf.decodeAll msg.payload
  else dataPacket <$> Amf3.decodeMessageToAmf0 msg.payload

/-- The packet does not depend on the message stream. -/
lemma contentPacket_same {m m' : Message} (h : SameContent m m') :
    contentPacket m' = contentPacket m := by
  rw [h]
  rfl

/-- The session differs at most in what it stores. -/
def Stores (s t : RtmpSession) : Prop :=
  t.reader = s.reader ∧ t.pendingSubs = s.pendingSubs ∧ t.ended = s.ended

lemma run_dispatchDataValues (values : List Amf0Value) (s : RtmpSession) :
    ∃ t, (dispatchDataValues values).run s = (.ok (dataPacket values), t) ∧ Stores s t := by
  rw [dispatchDataValues, dataPacket]
  rcases parseDataFrame values with _ | ⟨handler, value⟩ | handler
  · rcases metadataObject values with _ | value
    · exact ⟨s, rfl, rfl, rfl, rfl⟩
    · exact ⟨_, rfl, rfl, rfl, rfl⟩
  · exact ⟨_, rfl, rfl, rfl, rfl⟩
  · exact ⟨_, rfl, rfl, rfl, rfl⟩

/-- A parser followed by a result. -/
lemma run_ofExcept_pure {β : Type} (x : Except Error β) (f : β → Option StreamPacket)
    (s : RtmpSession) :
    ((Eff.ofExcept x >>= fun b => pure (f b) : SessionM PublishState _)).run s = (f <$> x, s) := by
  cases x <;> rfl

/-- A parser followed by the dispatch of a data message. -/
lemma run_ofExcept_data (x : Except Error (List Amf0Value)) (s : RtmpSession) :
    ∃ t, (Eff.ofExcept x >>= dispatchDataValues).run s = (dataPacket <$> x, t) ∧ Stores s t := by
  cases x with
  | error e => exact ⟨s, rfl, rfl, rfl, rfl⟩
  | ok values => exact run_dispatchDataValues values s

/-- Content surfaces as its packet and leaves everything but the stored frames alone. -/
lemma run_handleMessage_content {msg : Message} (h : IsContent msg) (s : RtmpSession) :
    ∃ t, (handleMessage msg).run s = (contentPacket msg, t) ∧ Stores s t := by
  rw [handleMessage, contentPacket]
  by_cases h8 : msg.msgTypeId = msgAudio
  · rw [if_pos h8, if_pos h8]
    exact ⟨s, run_ofExcept_pure _ _ s, rfl, rfl, rfl⟩
  · rw [if_neg h8, if_neg h8]
    by_cases h9 : msg.msgTypeId = msgVideo
    · rw [if_pos h9, if_pos h9]
      exact ⟨s, run_ofExcept_pure _ _ s, rfl, rfl, rfl⟩
    · rw [if_neg h9, if_neg h9]
      by_cases h18 : msg.msgTypeId = msgDataAmf0
      · rw [if_pos h18, if_pos h18]
        exact run_ofExcept_data _ s
      · have h15 : msg.msgTypeId = msgDataAmf3 := by
          rcases h with h | h | h | h
          · exact absurd h h8
          · exact absurd h h9
          · exact absurd h h18
          · exact h
        rw [if_neg h18, if_neg h18, if_pos h15]
        exact run_ofExcept_data _ s

/-- What calls return for a message: nothing is returned for one without a packet. -/
def results (msg : Message) : List (Except Error (Option StreamPacket)) :=
  match contentPacket msg with
  | .ok none => []
  | out => [out]

lemma results_same {m m' : Message} (h : SameContent m m') : results m' = results m := by
  rw [results, results, contentPacket_same h]

/-- A round that serves content has its results. -/
lemma returns_content {d : Dispatcher PublishState StreamPacket} {msg : Message} {s t : RtmpSession}
    (h : d.round s = Dispatcher.settle (contentPacket msg, t)) : d.Returns s (results msg) t := by
  rw [results]
  generalize contentPacket msg = out at h
  rcases out with e | _ | packet
  · exact .result h .refl
  · exact .silent h .refl
  · exact .result h .refl

/-! ### Serving groupings -/

/-- An aggregate goes to the end of the queue. -/
lemma run_handleMessage_aggregate {msg : Message} {subs : List Message}
    (htype : msg.msgTypeId = msgAggregate) (hparse : parseAggregate msg = .ok subs)
    (s : RtmpSession) :
    (handleMessage msg).run s = (.ok none, s.withQueue (s.pendingSubs ++ subs)) := by
  have hne : ∀ ty : UInt8, ty ≠ msgAggregate → msg.msgTypeId ≠ ty := fun ty hty heq =>
    hty (heq.symm.trans htype)
  rw [handleMessage, if_neg (hne _ (by decide)), if_neg (hne _ (by decide)),
    if_neg (hne _ (by decide)), if_neg (hne _ (by decide)), if_neg (hne _ (by decide)),
    if_neg (hne _ (by decide)), if_neg (not_or.mpr ⟨hne _ (by decide), hne _ (by decide)⟩),
    if_pos htype, handleAggregate, hparse]
  rfl

/-- **The queue**: it serves what its groupings hold level by level. -/
theorem returns_queue {gs : List Grouping} (hcontent : ∀ m ∈ Nest.items gs, IsContent m)
    {s : RtmpSession} (hopen : s.ended = false)
    (hqueue : List.Forall₂ Represents gs s.pendingSubs) :
    ∃ t, dispatcher.Returns s ((Nest.levelOrder gs).flatMap results) t ∧
      t.reader = s.reader ∧ t.pendingSubs = [] ∧ t.ended = false := by
  induction gs using Nest.levelOrder.induct generalizing s with
  | case1 =>
      rw [List.forall₂_nil_left_iff] at hqueue
      rw [Nest.levelOrder_nil]
      exact ⟨s, .refl, rfl, hqueue, hopen⟩
  | case2 m gs ih =>
      obtain ⟨sub, rest, hsub, hrest, hpending⟩ := List.forall₂_cons_left_iff.mp hqueue
      obtain ⟨m₀, hm₀, hsame⟩ := hsub
      cases hm₀
      have hm : IsContent sub := by
        rw [hsame]
        exact hcontent m (List.mem_cons_self ..)
      obtain ⟨t, hrun, hreader, hsubs, hended⟩ := run_handleMessage_content hm (s.withQueue rest)
      -- the call takes the message from the queue and returns what it carries
      have hround := dispatcher.round_of_sub hopen hpending
      rw [show (dispatcher.onSub sub).run (s.withQueue rest) = (contentPacket sub, t) from hrun]
        at hround
      obtain ⟨u, hreturns, hu⟩ := ih (fun x hx => hcontent x (List.mem_cons_of_mem _ hx))
        (s := t) (hended.trans hopen) (by rw [hsubs]; exact hrest)
      rw [Nest.levelOrder_item, List.flatMap_cons, ← results_same hsame]
      exact ⟨u, (returns_content hround).trans hreturns, hu.1.trans hreader, hu.2⟩
  | case3 streamId members gs ih =>
      obtain ⟨sub, rest, hsub, hrest, hpending⟩ := List.forall₂_cons_left_iff.mp hqueue
      obtain ⟨htype, subs, hparse, hsubs⟩ := parseAggregate_represents hsub
      have hround := dispatcher.round_of_sub hopen hpending
      have hrun := run_handleMessage_aggregate htype hparse (s.withQueue rest)
      rw [show (dispatcher.onSub sub).run (s.withQueue rest) = _ from hrun] at hround
      -- the members go behind what is queued, so the level order goes on
      have hitems : ∀ m ∈ Nest.items (gs ++ members), IsContent m := by
        intro x hx
        rw [Nest.items_append, List.mem_append] at hx
        refine hcontent x ?_
        rw [Nest.items, Nest.itemsOf, List.mem_append]
        exact hx.symm
      obtain ⟨u, hreturns, hu⟩ := ih hitems (s := s.withQueue (rest ++ subs)) hopen
        (List.rel_append hrest hsubs)
      rw [Nest.levelOrder_group]
      exact ⟨u, .silent hround hreturns, hu⟩

/-- **The wire**: every grouping is served before the next one is read. -/
theorem returns_wire {gs : List Grouping} (hcontent : ∀ m ∈ Nest.items gs, IsContent m)
    {s : RtmpSession} {msgs : List Message} (hopen : s.ended = false) (hidle : s.pendingSubs = [])
    (hgs : List.Forall₂ Represents gs msgs) (hdeliver : s.reader.Delivers msgs) :
    ∃ t, dispatcher.Returns s ((Nest.servedInTurn gs).flatMap results) t ∧
      t.reader.stream = [] ∧ t.pendingSubs = [] ∧ t.ended = false := by
  induction hgs generalizing s with
  | nil =>
      cases hdeliver with
      | nil hstream => exact ⟨s, .refl, hstream, hidle, hopen⟩
  | @cons g msg gs msgs hg hgs ih =>
      cases hdeliver with
      | @cons _ r _ _ hread hrest =>
          have hround := dispatcher.round_of_read hopen hidle hread
          obtain ⟨_, a, hack, halike⟩ := Bookkeeping.maybeSendAck (s.withReader r)
          have hopen' : a.ended = false := halike.ended.symm.trans hopen
          have hidle' : a.pendingSubs = [] := halike.pendingSubs.symm.trans hidle
          -- the acknowledgement that goes first touches neither the queue nor the bytes to come
          have hserve : ∀ {out t}, (handleMessage msg).run a = (out, t) →
              dispatcher.round s = Dispatcher.settle (out, t) := by
            intro out t hrun
            rw [hround, show (dispatcher.serve msg).run (s.withReader r) = (out, t) from
              (Eff.run_bind_ok hack).trans hrun]
          have hitems : ∀ m ∈ Nest.items gs, IsContent m := fun m hm =>
            hcontent m (by rw [Nest.items, List.mem_append]; exact .inr hm)
          -- What is left once the grouping is served.
          have hgo : ∀ {t : RtmpSession}, t.reader = a.reader → t.pendingSubs = [] →
              t.ended = false → ∃ u,
                dispatcher.Returns t ((Nest.servedInTurn gs).flatMap results) u ∧
                u.reader.stream = [] ∧ u.pendingSubs = [] ∧ u.ended = false := by
            intro t hreader hqueue hended
            have hr : r.Alike t.reader := by
              rw [hreader]
              exact halike.reader
            exact ih hitems hended hqueue (hrest.alike hr)
          cases g with
          | item m =>
              obtain ⟨m₀, hm₀, hsame⟩ := hg
              cases hm₀
              have hm : IsContent msg := by
                rw [hsame]
                exact hcontent m (List.mem_cons_self ..)
              obtain ⟨t, hrun, hreader, hsubs, hended⟩ := run_handleMessage_content hm a
              obtain ⟨u, hreturns, hu⟩ := hgo hreader (hsubs.trans hidle') (hended.trans hopen')
              rw [Nest.servedInTurn_cons, Nest.levelOrder_item, Nest.levelOrder_nil,
                List.singleton_append, List.flatMap_cons, ← results_same hsame]
              exact ⟨u, (returns_content (hserve hrun)).trans hreturns, hu⟩
          | group streamId members =>
              obtain ⟨htype, subs, hparse, hsubs⟩ := parseAggregate_represents hg
              have hrun := run_handleMessage_aggregate htype hparse a
              rw [hidle', List.nil_append] at hrun
              have hmembers : ∀ m ∈ Nest.items members, IsContent m := fun m hm =>
                hcontent m (by
                  rw [Nest.items, Nest.itemsOf, List.mem_append]
                  exact .inl hm)
              -- the queue is drained before the next message is read
              obtain ⟨t, hqueue, hreader, hidle'', hended⟩ := returns_queue hmembers
                (s := a.withQueue subs) hopen' hsubs
              obtain ⟨u, hreturns, hu⟩ := hgo hreader hidle'' hended
              rw [Nest.servedInTurn_cons, Nest.levelOrder_group, List.nil_append, List.flatMap_append]
              exact ⟨u, .silent (hserve hrun) (hqueue.trans hreturns), hu⟩

/-! ### Packed and unpacked -/

/-- At the end of the stream every call returns nothing. -/
lemma round_eof {s : RtmpSession} (hopen : s.ended = false) (hidle : s.pendingSubs = [])
    (hstream : s.reader.stream = []) : dispatcher.round s = (some (.ok none), s) :=
  dispatcher.round_of_error hopen hidle (ChunkReader.readMessage_nil hstream)

/-- What the calls return for groupings on the wire. -/
lemma calls_wire {gs : List Grouping} (hcontent : ∀ m ∈ Nest.items gs, IsContent m)
    {s : RtmpSession} {msgs : List Message} (hopen : s.ended = false) (hidle : s.pendingSubs = [])
    (hgs : List.Forall₂ Represents gs msgs) (hdeliver : s.reader.Delivers msgs) (n : ℕ) :
    (dispatcher.calls n s).1
      = ((Nest.servedInTurn gs).flatMap results ++ List.replicate n (Except.ok none)).take n := by
  obtain ⟨t, hreturns, hstream, hidle', hopen'⟩ := returns_wire hcontent hopen hidle hgs hdeliver
  exact hreturns.calls_eof (round_eof hopen' hidle' hstream) n

/-- Messages sent as they are represent themselves. -/
lemma represents_item (msgs : List Message) :
    List.Forall₂ Represents (msgs.map Nest.item) msgs := by
  induction msgs with
  | nil => exact .nil
  | cons m msgs ih => exact .cons ⟨m, rfl, .refl m⟩ ih

/-- Messages that each have a packet have as many results. -/
lemma flatMap_results {msgs : List Message} (h : ∀ m ∈ msgs, contentPacket m ≠ .ok none) :
    msgs.flatMap results = msgs.map contentPacket := by
  induction msgs with
  | nil => rfl
  | cons m msgs ih =>
      have hm : results m = [contentPacket m] := by
        have hne := h m List.mem_cons_self
        rw [results]
        split
        · next hnone => exact absurd hnone hne
        · rfl
      rw [List.flatMap_cons, List.map_cons, hm, ih fun x hx => h x (List.mem_cons_of_mem _ hx)]
      rfl

/-- **Aggregates**.  Let messages of content arrive in aggregates, nested to any depth, at one
session and individually at another.  The calls return the same if and only if it changes nothing to
serve each aggregate level by level.  So they do when in every aggregate the messages lie ever
deeper, and with packets that can be told apart only then. -/
theorem calls_packed {gs : List Grouping} {top : List Message} {s t : RtmpSession}
    (hcontent : ∀ m ∈ Nest.items gs, IsContent m) (hpacked : packedAll gs = .ok top)
    (hs : s.ended = false ∧ s.pendingSubs = []) (ht : t.ended = false ∧ t.pendingSubs = [])
    (htop : s.reader.Delivers top) (hitems : t.reader.Delivers (Nest.items gs)) :
    ((∀ n, (dispatcher.calls n s).1 = (dispatcher.calls n t).1) ↔
        (Nest.servedInTurn gs).flatMap results = (Nest.items gs).flatMap results) ∧
      ((∀ g ∈ gs, Nest.Deepening [g]) →
        ∀ n, (dispatcher.calls n s).1 = (dispatcher.calls n t).1) ∧
      (((Nest.items gs).map contentPacket).Nodup →
        (∀ m ∈ Nest.items gs, contentPacket m ≠ .ok none) →
        (∀ n, (dispatcher.calls n s).1 = (dispatcher.calls n t).1) →
        ∀ g ∈ gs, Nest.Deepening [g]) := by
  have hcalls := calls_wire hcontent hs.1 hs.2 (represents_packedAll hpacked) htop
  have hcontent' : ∀ m ∈ Nest.items ((Nest.items gs).map (Nest.item : Message → Grouping)),
      IsContent m := by
    rw [Nest.items_item]
    exact hcontent
  have hcalls' := calls_wire hcontent' ht.1 ht.2 (represents_item _) hitems
  rw [Nest.servedInTurn_item] at hcalls'
  have hiff : (∀ n, (dispatcher.calls n s).1 = (dispatcher.calls n t).1) ↔
      (Nest.servedInTurn gs).flatMap results = (Nest.items gs).flatMap results := by
    constructor
    · -- After as many calls as there are results, nothing else has been returned.
      intro h
      have hlen : ((Nest.servedInTurn gs).flatMap results).length
          = ((Nest.items gs).flatMap results).length :=
        ((Nest.servedInTurn_perm gs).flatMap_right results).length_eq
      have hn := h ((Nest.items gs).flatMap results).length
      rwa [hcalls, hcalls', List.take_left, ← hlen, List.take_left] at hn
    · intro h n
      rw [hcalls, hcalls', h]
  refine ⟨hiff, fun hdeep => hiff.mpr ?_, fun hnodup hsome h => ?_⟩
  · rw [Nest.servedInTurn_eq_items hdeep]
  · have heq := hiff.mp h
    have hmem : ∀ m ∈ Nest.servedInTurn gs, m ∈ Nest.items gs := fun m hm =>
      (Nest.servedInTurn_perm gs).mem_iff.mp hm
    rw [flatMap_results hsome, flatMap_results fun m hm => hsome m (hmem m hm)] at heq
    refine Nest.deepening_of_servedInTurn_eq hnodup.of_map (Nest.eq_of_map_eq ?_ heq)
    exact fun m hm m' hm' hmm => List.inj_on_of_nodup_map hnodup (hmem m hm) hm' hmm

/-- A publish session right after its negotiation, with what a fresh writer sends on its wire. -/
def receiving (msgs : List (UInt32 × Message)) : RtmpSession :=
  opened (.new (ReadEvent.bytes (sent msgs))) .new ⟨"live", "cam", "live", 1, []⟩

lemma delivers_receiving {msgs : List (UInt32 × Message)} (h : ∀ p ∈ msgs, Sendable p) :
    (receiving msgs).reader.Delivers (msgs.map Prod.snd) := delivers_fresh h

/-- Two audio messages in one aggregate. -/
theorem calls_packed_pair :
    let a : Message := ⟨msgAudio, 1, 40, [0xAF, 0x01, 0x21]⟩
    let b : Message := ⟨msgAudio, 1, 60, [0xAF, 0x01, 0x22]⟩
    let both : Message := ⟨msgAggregate, 1, 40, subBytes a ++ subBytes b⟩
    ∀ n, (dispatcher.calls n (receiving [(6, both)])).1
      = (dispatcher.calls n (receiving [(6, a), (6, b)])).1 := by
  intro a b both
  have hsend : ∀ p ∈ [((6 : UInt32), both)], Sendable p := by decide +kernel
  have hsend' : ∀ p ∈ [((6 : UInt32), a), (6, b)], Sendable p := by decide +kernel
  have hpacked : packedAll [.group 1 [.item a, .item b]] = .ok [both] := rfl
  refine (calls_packed ?_ hpacked ⟨rfl, rfl⟩ ⟨rfl, rfl⟩ (delivers_receiving hsend)
    (delivers_receiving hsend')).2.1 ?_
  · intro m hm
    have ham : m = a ∨ m = b := by simpa [Nest.items, Nest.itemsOf] using hm
    rcases ham with rfl | rfl
    · exact .inl rfl
    · exact .inl rfl
  · intro g hg
    rw [List.mem_singleton.mp hg]
    simp [Nest.Deepening, Nest.mark, Nest.markOf, Nest.items, Nest.itemsOf]

/-- The first audio message is in an aggregate of its own within the aggregate, and overtaken. -/
theorem calls_packed_nested :
    let a : Message := ⟨msgAudio, 1, 40, [0xAF, 0x01, 0x21]⟩
    let b : Message := ⟨msgAudio, 1, 60, [0xAF, 0x01, 0x22]⟩
    let inner : Message := ⟨msgAggregate, 1, 40, subBytes a⟩
    let both : Message := ⟨msgAggregate, 1, 40, subBytes inner ++ subBytes b⟩
    packedAll [.group 1 [.group 1 [.item a], .item b]] = .ok [both] ∧
      (dispatcher.calls 2 (receiving [(6, both)])).1 = [contentPacket b, contentPacket a] ∧
      (dispatcher.calls 2 (receiving [(6, a), (6, b)])).1 = [contentPacket a, contentPacket b] ∧
      contentPacket a ≠ contentPacket b := by
  intro a b inner both
  have hsend : ∀ p ∈ [((6 : UInt32), both)], Sendable p := by decide +kernel
  have hsend' : ∀ p ∈ [((6 : UInt32), a), (6, b)], Sendable p := by decide +kernel
  have ha : IsContent a := .inl rfl
  have hb : IsContent b := .inl rfl
  have hpacked : packedAll [.group 1 [.group 1 [.item a], .item b]] = .ok [both] := rfl
  refine ⟨hpacked, ?_, ?_, ?_⟩
  · rw [calls_wire ?_ rfl rfl (represents_packedAll hpacked) (delivers_receiving hsend)]
    · simp only [Nest.servedInTurn, List.flatMap_cons, List.flatMap_nil, Nest.levelOrder_group,
        Nest.levelOrder_item, Nest.levelOrder_nil, List.nil_append, List.cons_append, List.append_nil]
      rfl
    · simp [Nest.items, Nest.itemsOf, ha, hb]
  · rw [calls_wire ?_ rfl rfl (represents_item [a, b]) (delivers_receiving hsend')]
    · simp only [List.map_cons, List.map_nil, Nest.servedInTurn, List.flatMap_cons,
        List.flatMap_nil, Nest.levelOrder_item,
        Nest.levelOrder_nil, List.append_nil, List.singleton_append]
      rfl
    · simp [Nest.items, Nest.itemsOf, ha, hb]
  · intro h
    have hts : (40 : UInt32) = 60 := by
      injection h with h
      injection h with h
      injection h
    exact absurd hts (by decide)

end RtmpSession

end Rtmp
