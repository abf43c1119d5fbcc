import Rtmp.Lib.OrderedMap
import Rtmp.Session.Pings
import Rtmp.Session.Relay

/-!
The data frames a publish session stores.

* `FrameUpdate`, `dataUpdate`: what a message does to the stored frames, from its values alone;
* `storedFrames`: the updates of messages in a row, over no frames at all;
* `frames_handleMessage`: the dispatch does to the frames what the message says;
* `Flat`, `arrivals`: aggregates without aggregates in them, and the messages they stand for;
* `dataFrames_eq_fold` (**stored frames**): what a session has stored is what the messages it has
  handled say, in the order in which they arrived.
-/

namespace Rtmp

/-! ### What messages say -/

inductive FrameUpdate where
  | set (handler : String) (value : Amf0Value)
  | clear (handler : String)

def FrameUpdate.apply : FrameUpdate → OrderedMap String Amf0Value → OrderedMap String Amf0Value
  | set handler value => .upsert handler value
  | clear handler => .erase handler

/-- The last object or ECMA array of a data message is its metadata. -/
def lastRecord (values : List Amf0Value) : Option Amf0Value := (values.filter IsRecord).getLast?

/-- The update that the values of a data message call for: one of the two controls, with all its
arguments, or metadata under its own name or under none. -/
def updateOf : List Amf0Value → Option FrameUpdate
  | .string name :: args =>
      if name = setDataFrame then
        match args with
        | .string handler :: value :: _ => some (.set handler value)
        | _ => none
      else if name = clearDataFrame then
        match args with
        | .string handler :: _ => some (.clear handler)
        | _ => none
      else if name = "onMetaData" then (lastRecord args).map (.set "onMetaData")
      else none
  | values => (lastRecord values).map (.set "onMetaData")

/-- The update a message calls for; only data messages that can be decoded call for one. -/
def dataUpdate (msg : Message) : Option FrameUpdate :=
  if msg.msgTypeId = msgDataAmf0 ∨ msg.msgTypeId = msgDataAmf3 then
    (dataValues msg).toOption.bind updateOf
  else none

/-- The frames after the updates of messages in a row. -/
def storedFrames (msgs : List Message) : OrderedMap String Amf0Value :=
  (msgs.filterMap dataUpdate).foldl (fun frames update => update.apply frames) .empty

lemma storedFrames_append (msgs msgs' : List Message) : storedFrames (msgs ++ msgs')
    = (msgs'.filterMap dataUpdate).foldl (fun frames update => update.apply frames)
        (storedFrames msgs) := by
  rw [storedFrames, List.filterMap_append, List.foldl_append]
  rfl

/-- A message that calls for no update changes nothing. -/
lemma storedFrames_of_none {msg : Message} (h : dataUpdate msg = none) (msgs : List Message) :
    storedFrames (msgs ++ [msg]) = storedFrames msgs := by
  rw [storedFrames_append, List.filterMap_cons_none h]
  rfl

lemma storedFrames_of_some {msg : Message} {update : FrameUpdate} (h : dataUpdate msg = some update)
    (msgs : List Message) : storedFrames (msgs ++ [msg]) = update.apply (storedFrames msgs) := by
  rw [storedFrames_append, List.filterMap_cons_some h]
  rfl

/-! ### What the session does -/

namespace RtmpSession

open Session

/-- The last record of a message is found from its end. -/
lemma metadataObject_eq (values : List Amf0Value) : metadataObject values = lastRecord values := by
  have hrecord : metadataObject values = values.reverse.find? IsRecord := by
    rw [metadataObject]
    refine congrArg (fun p => values.reverse.find? p) (funext fun v => ?_)
    cases v <;> rfl
  rw [hrecord, lastRecord, ← List.head?_filter, List.filter_reverse, List.head?_reverse]

/-- Storing a frame is an update of the map. -/
lemma storeDataFrame_eq (handler : String) (value : Amf0Value)
    (frames : OrderedMap String Amf0Value) :
    storeDataFrame handler value frames.entries = (frames.upsert handler value).entries := by
  obtain ⟨entries, hnodup⟩ := frames
  induction entries with
  | nil => rfl
  | cons e rest ih =>
      obtain ⟨h, stored⟩ := e
      have hrest : (rest.map Prod.fst).Nodup := (List.nodup_cons.mp hnodup).2
      rw [OrderedMap.entries_upsert_cons rfl hrest, storeDataFrame, ih hrest]

/-- Classifying a message as a control or as metadata finds its update. -/
lemma updateOf_parseDataFrame (values : List Amf0Value) :
    updateOf values = match parseDataFrame values with
      | some (.set handler value) => some (.set handler value)
      | some (.clear handler) => some (.clear handler)
      | none => if isMeta values then (metadataObject values).map (.set "onMetaData") else none := by
  rw [metadataObject_eq]
  cases values with
  | nil => rfl
  | cons first args =>
      cases first with
      | string name =>
          have hrecord : lastRecord (.string name :: args) = lastRecord args := rfl
          have hmeta : isMeta (.string name :: args) = decide (name = "onMetaData") := rfl
          have hparse : parseDataFrame (.string name :: args)
              = if name = setDataFrame then (do
                  let handler ← args[0]? >>= Amf0Value.asStr
                  let value ← args[1]?
                  pure (.set handler value))
                else if name = clearDataFrame then (do
                  let handler ← args[0]? >>= Amf0Value.asStr
                  pure (.clear handler))
                else none := rfl
          rw [updateOf.eq_def, hrecord, hmeta, hparse]
          dsimp only
          -- one name after the other, as the session compares them
          by_cases hset : name = setDataFrame
          · have hne : name ≠ "onMetaData" := by
              rw [hset]
              decide
            rw [if_pos hset, if_pos hset, decide_eq_false hne]
            rcases args with _ | ⟨handler, _ | ⟨value, more⟩⟩
            · rfl
            · cases handler <;> rfl
            · cases handler <;> rfl
          · rw [if_neg hset, if_neg hset]
            by_cases hclear : name = clearDataFrame
            · have hne : name ≠ "onMetaData" := by
                rw [hclear]
                decide
              rw [if_pos hclear, if_pos hclear, decide_eq_false hne]
              rcases args with _ | ⟨handler, more⟩
              · rfl
              · cases handler <;> rfl
            · rw [if_neg hclear, if_neg hclear]
              by_cases hname : name = "onMetaData"
              · rw [if_pos hname, decide_eq_true hname]
                rfl
              · rw [if_neg hname, decide_eq_false hname]
                rfl
      | _ => rfl

/-- The dispatch of a data message does what its values call for. -/
lemma frames_dispatchDataValues (values : List Amf0Value) {s : RtmpSession}
    {frames : OrderedMap String Amf0Value} (hs : s.own.dataFrames = frames.entries) :
    ((dispatchDataValues values).run s).2.own.dataFrames
      = ((updateOf values).elim frames fun update => update.apply frames).entries := by
  have hparse := updateOf_parseDataFrame values
  rw [dispatchDataValues]
  rcases hcontrol : parseDataFrame values with _ | ⟨handler, value⟩ | handler
  · rw [hcontrol] at hparse
    rw [hparse]
    rcases hmeta : metadataObject values with _ | value
    · cases isMeta values <;> exact hs
    · -- metadata is stored under its name, and a bare record is not stored
      have hrun : ((modifyFrames fun frames =>
          if isMeta values then storeDataFrame "onMetaData" value frames else frames).run
            s).2.own.dataFrames
            = if isMeta values then storeDataFrame "onMetaData" value s.own.dataFrames
              else s.own.dataFrames := rfl
      refine hrun.trans ?_
      cases isMeta values with
      | true =>
          exact (congrArg (storeDataFrame "onMetaData" value) hs).trans (storeDataFrame_eq _ _ frames)
      | false => exact hs
  · rw [hcontrol] at hparse
    rw [hparse]
    exact (congrArg (storeDataFrame handler value) hs).trans (storeDataFrame_eq _ _ frames)
  · rw [hcontrol] at hparse
    rw [hparse]
    exact congrArg (List.filter fun frame => frame.1 ≠ handler) hs

/-- The dispatch leaves the stored frames alone. -/
def KeepsFrames (s t : RtmpSession) : Prop := t.own.dataFrames = s.own.dataFrames

instance : Std.Refl KeepsFrames := ⟨fun _ => rfl⟩

instance : IsTrans RtmpSession KeepsFrames := ⟨fun _ _ _ hst htu => Eq.trans htu hst⟩

lemma keepsFrames_classifyCommand (names : List String) (values : List Amf0Value) :
    Eff.Along KeepsFrames (Session.classifyCommand names values) := by
  have hfinish : Eff.Along KeepsFrames (Session.finish : SessionM PublishState Unit) := fun _ => rfl
  rw [Session.classifyCommand]
  cases commandName values with
  | none => exact (Eff.Along.ofExcept _).bind fun _ => .pure _
  | some name =>
      refine .ite (hfinish.bind fun _ => .pure _) ((Eff.Along.ofExcept _).bind fun cmd => ?_)
      cases cmd with
      | some cmd => exact .pure _
      | none => exact .ite (.pure _) (.ite (.pure _) (.pure _))

lemma keepsFrames_handleSetPeerBandwidth (msg : Message) :
    Eff.Along KeepsFrames (handleSetPeerBandwidth msg) := by
  have happly : ∀ window limitType, Eff.Along KeepsFrames (applyPeerBandwidth window limitType) :=
    fun _ _ _ => rfl
  refine (Eff.Along.ofExcept _).bind fun _ => (happly _ _).bind fun changed => ?_
  cases changed with
  | none => exact .pure _
  | some w => exact fun _ => rfl

/-- **One message**: the dispatch does to the stored frames what the message calls for. -/
lemma frames_handleMessage (msg : Message) {s : RtmpSession} {frames : OrderedMap String Amf0Value}
    (hs : s.own.dataFrames = frames.entries) :
    ((handleMessage msg).run s).2.own.dataFrames
      = ((dataUpdate msg).elim frames fun update => update.apply frames).entries := by
  have hdata : ∀ parsed, dataValues msg = parsed →
      (msg.msgTypeId = msgDataAmf0 ∨ msg.msgTypeId = msgDataAmf3) →
      ((Eff.ofExcept parsed >>= dispatchDataValues).run s).2.own.dataFrames
        = ((dataUpdate msg).elim frames fun update => update.apply frames).entries := by
    intro parsed hvalues htype
    rw [dataUpdate, if_pos htype, hvalues]
    cases parsed with
    | error e => exact hs
    | ok values => exact frames_dispatchDataValues values hs
  -- all that is not a data message leaves the frames alone
  have hkeeps : ∀ {x : SessionM PublishState (Option StreamPacket)},
      msg.msgTypeId ≠ msgDataAmf0 → msg.msgTypeId ≠ msgDataAmf3 → Eff.Along KeepsFrames x →
      (x.run s).2.own.dataFrames
        = ((dataUpdate msg).elim frames fun update => update.apply frames).entries := by
    intro x h18 h15 hx
    rw [dataUpdate, if_neg fun h => h.elim h18 h15]
    exact (hx s).trans hs
  have hparsed : ∀ {β : Type} (x : Except Error β) (f : β → Option StreamPacket),
      Eff.Along KeepsFrames (Eff.ofExcept x >>= fun b => pure (f b)) := fun x f =>
    (Eff.Along.ofExcept x).bind fun _ => .pure _
  -- a command changes the stream at most
  have hcommand : ∀ x : Except Error (List Amf0Value),
      Eff.Along KeepsFrames (Eff.ofExcept x >>= handleCommandValues) := fun x =>
    (Eff.Along.ofExcept x).bind fun _ => (keepsFrames_classifyCommand _ _).bind fun _ => .pure _
  rw [handleMessage]
  by_cases h8 : msg.msgTypeId = msgAudio
  · rw [if_pos h8]
    exact hkeeps (by rw [h8]; decide) (by rw [h8]; decide) (hparsed _ _)
  by_cases h9 : msg.msgTypeId = msgVideo
  · rw [if_neg h8, if_pos h9]
    exact hkeeps (by rw [h9]; decide) (by rw [h9]; decide) (hparsed _ _)
  rw [if_neg h8, if_neg h9]
  by_cases h18 : msg.msgTypeId = msgDataAmf0
  · rw [if_pos h18]
    exact hdata _ (if_pos h18) (.inl h18)
  by_cases h15 : msg.msgTypeId = msgDataAmf3
  · rw [if_neg h18, if_pos h15]
    exact hdata _ (if_neg h18) (.inr h15)
  rw [if_neg h18, if_neg h15]
  refine hkeeps h18 h15 (.ite (hcommand _) (.ite (hcommand _) (.ite (hparsed _ _) ?_)))
  have hqueue : Eff.Along KeepsFrames (handleAggregate msg) :=
    (Eff.Along.ofExcept _).bind fun _ _ => rfl
  have hsize : Eff.Along KeepsFrames (handleSetChunkSize msg) :=
    (Eff.Along.ofExcept _).bind fun _ _ => rfl
  have hwindow : Eff.Along KeepsFrames (handleWindowAckSize msg) :=
    (Eff.Along.ofExcept _).bind fun _ _ => rfl
  refine .ite (hqueue.bind fun _ => .pure _) (.ite (hsize.bind fun _ => .pure _) ?_)
  refine .ite (hwindow.bind fun _ => .pure _) (.ite ?_ (.pure _))
  exact (keepsFrames_handleSetPeerBandwidth msg).bind fun _ => .pure _

/-! ### Runs -/

/-- A round handles the message it serves, and nothing else. -/
lemma frames_round {s : RtmpSession} {frames : OrderedMap String Amf0Value}
    (hs : s.own.dataFrames = frames.entries) :
    (dispatcher.round s).2.own.dataFrames
      = ((s.serving.bind fun p => dataUpdate p.1).elim frames fun update =>
          update.apply frames).entries := by
  have hrounded := dispatcher.rounded s
  generalize s.serving = served at hrounded ⊢
  generalize dispatcher.round s = p at hrounded ⊢
  cases hrounded with
  | @sub msg rest hopen hqueue =>
      rw [Dispatcher.snd_settle]
      exact frames_handleMessage (s := s.withQueue rest) msg hs
  | @read msg r hopen hqueue hread =>
      obtain ⟨_, t, hack, halike⟩ := Bookkeeping.maybeSendAck (s.withReader r)
      have hserve : (dispatcher.serve msg).run (s.withReader r) = (handleMessage msg).run t :=
        Eff.run_bind_ok hack
      have ht : t.own.dataFrames = frames.entries := by
        rw [← halike.own]
        exact hs
      rw [Dispatcher.snd_settle, hserve]
      exact frames_handleMessage msg ht
  | _ => exact hs

end RtmpSession

open Session

/-- An aggregate holds no aggregates. -/
def Flat (msg : Message) : Prop := ∀ sub ∈ subsOf msg, sub.msgTypeId ≠ msgAggregate

/-- What a message off the wire stands for: an aggregate for what it holds. -/
def arrivals (msg : Message) : List Message :=
  if msg.msgTypeId = msgAggregate then subsOf msg else [msg]

lemma arrivals_not_aggregate {msg : Message} (hflat : Flat msg) {sub : Message}
    (hsub : sub ∈ arrivals msg) : sub.msgTypeId ≠ msgAggregate := by
  rw [arrivals] at hsub
  split_ifs at hsub with htype
  · exact hflat sub hsub
  · rw [List.mem_singleton.mp hsub]
    exact htype

lemma dataUpdate_aggregate {msg : Message} (h : msg.msgTypeId = msgAggregate) :
    dataUpdate msg = none := by
  refine if_neg ?_
  rw [h]
  decide

/-- The step lemma: if what came off the wire is what was handled and what waits, a round keeps it so,
and keeps the stored frames in step. -/
lemma RtmpSession.dataFrames_round {u : RtmpSession} {received handled : List Message}
    (hflat : ∀ msg ∈ received ++ u.arriving.toList, Flat msg)
    (hall : received.flatMap arrivals = handled ++ u.pendingSubs)
    (hframes : u.own.dataFrames = (storedFrames handled).entries) :
    ∃ handled', (received ++ u.arriving.toList).flatMap arrivals
        = handled' ++ (dispatcher.round u).2.pendingSubs ∧
      (dispatcher.round u).2.own.dataFrames = (storedFrames handled').entries := by
  have hround := RtmpSession.frames_round hframes
  have hsubs : ∀ sub ∈ u.pendingSubs, subsOf sub = [] := by
    intro sub hsub
    have hmem : sub ∈ received.flatMap arrivals := by
      rw [hall]
      exact List.mem_append_right _ hsub
    obtain ⟨msg, hmsg, hin⟩ := List.mem_flatMap.mp hmem
    exact subsOf_other (arrivals_not_aggregate (hflat msg (List.mem_append_left _ hmsg)) hin)
  have hafter : ∀ msg, ((dataUpdate msg).elim (storedFrames handled) fun update =>
      update.apply (storedFrames handled)) = storedFrames (handled ++ [msg]) := by
    intro msg
    cases hupdate : dataUpdate msg with
    | none => exact (storedFrames_of_none hupdate handled).symm
    | some update => exact (storedFrames_of_some hupdate handled).symm
  obtain ⟨msg, rest, hserving, heffect⟩ | ⟨hserving, -, hqueue, -⟩ := RtmpSession.answering.round u
  · have hqueue : (dispatcher.round u).2.pendingSubs = rest ++ subsOf msg := heffect.queue
    rw [hserving, Option.bind_some, hafter] at hround
    obtain ⟨harriving, hpending⟩ | ⟨harriving, hpending, rfl⟩ :=
      Dispatcher.serving_cases hserving
    · -- The message was at the front of the queue.
      rw [hpending] at hall hsubs
      refine ⟨handled ++ [msg], ?_, hround⟩
      rw [harriving, hqueue, hsubs msg List.mem_cons_self]
      simpa using hall
    · rw [hpending, List.append_nil] at hall
      rw [harriving] at hflat ⊢
      by_cases htype : msg.msgTypeId = msgAggregate
      · -- An aggregate is handled by queueing what it holds.
        rw [storedFrames_of_none (dataUpdate_aggregate htype)] at hround
        refine ⟨handled, ?_, hround⟩
        rw [hqueue]
        simp [hall, arrivals, htype]
      · refine ⟨handled ++ [msg], ?_, hround⟩
        rw [hqueue, subsOf_other htype]
        simp [hall, arrivals, htype]
  · refine ⟨handled, ?_, ?_⟩
    · rw [hqueue, Dispatcher.arriving_of_serving hserving]
      simpa using hall
    · rw [hserving] at hround
      exact hround

/-- **Stored frames**.  In a session that was just set up, whatever it is sent in messages and flat
aggregates, and whatever its calls return: the messages it took off the wire are those it has handled
and those that wait in the queue, and the stored frames are those that the handled ones call for, in
that order.  No two of them have the same handler; setting one again leaves it in its place; and a
message that calls for no update changes none. -/
theorem dataFrames_eq_fold (r : ChunkReader) (w : ChunkWriter) (own : PublishState)
    (hown : own.dataFrames = []) :
    (∀ n, ∃ k, (RtmpSession.dispatcher.calls n (opened r w own)).2
      = RtmpSession.dispatcher.rounds k (opened r w own)) ∧
    (∀ n, (∀ msg ∈ RtmpSession.dispatcher.received n (opened r w own), Flat msg) →
      ∃ handled, (RtmpSession.dispatcher.received n (opened r w own)).flatMap arrivals
          = handled ++ (RtmpSession.dispatcher.rounds n (opened r w own)).pendingSubs ∧
        (RtmpSession.dispatcher.rounds n (opened r w own)).own.dataFrames
          = (storedFrames handled).entries) ∧
    ∀ msgs msg, ((storedFrames msgs).entries.map Prod.fst).Nodup ∧
      (∀ handler value, dataUpdate msg = some (.set handler value) →
        (storedFrames (msgs ++ [msg])).keys
          = if handler ∈ (storedFrames msgs).keys then (storedFrames msgs).keys
            else (storedFrames msgs).keys ++ [handler]) ∧
      (dataUpdate msg = none → storedFrames (msgs ++ [msg]) = storedFrames msgs) := by
  refine ⟨fun n => RtmpSession.dispatcher.exists_rounds_calls n _, fun n hflat => ?_,
    fun msgs msg => ⟨(storedFrames msgs).nodup, fun handler value hset => ?_,
      fun hnone => storedFrames_of_none hnone msgs⟩⟩
  · induction n with
    | zero => exact ⟨[], rfl, hown⟩
    | succ n ih =>
        obtain ⟨handled, hall, hframes⟩ := ih fun msg hmsg => hflat msg (List.mem_append_left _ hmsg)
        exact RtmpSession.dataFrames_round hflat hall hframes
  · rw [storedFrames_of_some hset]
    split_ifs with hmem
    · exact OrderedMap.keys_upsert_of_mem hmem
    · exact OrderedMap.keys_upsert_of_not_mem hmem

/-- Bare metadata is stored under its own name; an aggregate behind it stores a cue point and clears the
metadata. -/
theorem dataFrames_eq_fold_metadata :
    let value : Amf0Value := .object [("t", .null)]
    let stored := dataMessage 1 [.string "onMetaData", value]
    let cue := dataMessage 1 [.string setDataFrame, .string "onCuePoint", value]
    let cleared := dataMessage 1 [.string clearDataFrame, .string "onMetaData"]
    let s := RtmpSession.receiving [(csidData, stored),
      (csidData, ⟨msgAggregate, 1, 0, [cue, cleared].flatMap subBytes⟩)]
    (RtmpSession.dispatcher.rounds 1 s).own.dataFrames = [("onMetaData", value)] ∧
      (RtmpSession.dispatcher.rounds 4 s).own.dataFrames = [("onCuePoint", value)] := by
  intro value stored cue cleared s
  have hvalue : value.Spellable ∧ value.height ≤ maxDecodeDepth :=
    ⟨⟨⟨by decide, by decide⟩, trivial, trivial⟩, by decide⟩
  have hlength : ∀ text ∈ ["onMetaData", "onCuePoint", setDataFrame, clearDataFrame],
      (Utf8.encode text).length < 2 ^ 32 := by decide +kernel
  have htext : ∀ text ∈ ["onMetaData", "onCuePoint", setDataFrame, clearDataFrame],
      (Amf0Value.string text).Spellable ∧ (Amf0Value.string text).height ≤ maxDecodeDepth :=
    fun text hmem => ⟨hlength text hmem, (by decide : 1 ≤ maxDecodeDepth)⟩
  have hupdate : ∀ values update, (∀ v ∈ values, v.Spellable ∧ v.height ≤ maxDecodeDepth) →
      updateOf values = some update → dataUpdate (dataMessage 1 values) = some update := by
    intro values update hspell hvalues
    rw [dataUpdate, if_pos (.inl rfl), dataValues_dataMessage 1 hspell]
    exact hvalues
  have hstored : dataUpdate stored = some (.set "onMetaData" value) :=
    hupdate _ _ (spellable_metadata hvalue) rfl
  have hcue : dataUpdate cue = some (.set "onCuePoint" value) :=
    hupdate _ _ (List.forall_mem_cons.mpr ⟨htext _ (by decide), List.forall_mem_cons.mpr
      ⟨htext _ (by decide), List.forall_mem_singleton.mpr hvalue⟩⟩) rfl
  have hcleared : dataUpdate cleared = some (.clear "onMetaData") :=
    hupdate _ _ (List.forall_mem_cons.mpr ⟨htext _ (by decide),
      List.forall_mem_singleton.mpr (htext _ (by decide))⟩) rfl
  -- what is handled is what arrived, as the queue is empty
  have hframes : ∀ n handled, (RtmpSession.dispatcher.rounds n s).pendingSubs = [] →
      (∀ msg ∈ RtmpSession.dispatcher.received n s, ∀ sub ∈ subsOf msg, sub.msgTypeId ≠ msgAggregate) →
      (RtmpSession.dispatcher.received n s).flatMap arrivals = handled →
      (RtmpSession.dispatcher.rounds n s).own.dataFrames = (storedFrames handled).entries := by
    intro n handled hqueue hflat harrived
    obtain ⟨handled', hall, hframes⟩ := (dataFrames_eq_fold _ _ _ rfl).2.1 n hflat
    change (RtmpSession.dispatcher.received n s).flatMap arrivals
      = handled' ++ (RtmpSession.dispatcher.rounds n s).pendingSubs at hall
    rw [harrived, hqueue, List.append_nil] at hall
    rw [hall]
    exact hframes
  constructor
  · rw [hframes 1 [stored] (by decide +kernel) (by decide +kernel) (by decide +kernel)]
    exact congrArg OrderedMap.entries (storedFrames_of_some hstored [])
  · rw [hframes 4 ([] ++ [stored] ++ [cue] ++ [cleared]) (by decide +kernel) (by decide +kernel)
      (by decide +kernel), storedFrames_of_some hcleared, storedFrames_of_some hcue,
      storedFrames_of_some hstored]
    rfl

end Rtmp
