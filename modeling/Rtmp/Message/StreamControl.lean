import Rtmp.Amf.RoundTrip
import Rtmp.Message.Command

/-!
The control commands of a stream on the wire.

* `decodeAll_encodeCommand`: a command payload decodes to its parts;
* `NetStreamCommand.normalize`: the defaults that a later argument brings with it, made explicit;
* `NetStreamCommand.parse_toMessage` (**round trip**): what is parsed on the other side is the command
  with these defaults, and sending that changes nothing any more.
-/

namespace Rtmp

namespace Amf

/-- A command payload decodes to its parts. -/
lemma decodeAll_encodeCommand {name : String} (hname : (Utf8.encode name).length < 2 ^ 32)
    (transactionId : Binary64) {commandObject : Amf0Value} {args : List Amf0Value}
    (hobject : commandObject.Spellable ∧ commandObject.height ≤ maxDecodeDepth)
    (hargs : ∀ v ∈ args, v.Spellable ∧ v.height ≤ maxDecodeDepth) :
    decodeAll (encodeCommand name transactionId commandObject args)
      = .ok (.string name :: .number transactionId :: commandObject :: args) := by
  have hscalar : 1 ≤ maxDecodeDepth := by decide
  refine decodeAll_of_spellable fun v hv => ?_
  rcases List.mem_cons.mp hv with rfl | hv
  · exact ⟨hname, hscalar⟩
  rcases List.mem_cons.mp hv with rfl | hv
  · exact ⟨trivial, hscalar⟩
  rcases List.mem_cons.mp hv with rfl | hv
  · exact hobject
  · exact hargs v hv

end Amf

namespace NetStreamCommand

/-- The strings have a length that can be encoded, and the parameters can be spelled in AMF0. -/
def Encodable : NetStreamCommand → Prop
  | play streamName _ _ _ => (Utf8.encode streamName).length < 2 ^ 32
  | play2 params => params.Spellable ∧ params.height ≤ maxDecodeDepth
  | _ => True

/-- The command with the defaults that its last argument brings with it. -/
def normalize : NetStreamCommand → NetStreamCommand
  | play streamName start duration reset =>
      play streamName
        (if duration.isSome ∨ reset.isSome then some (start.getD (.ofInt (-2))) else start)
        (if reset.isSome then some (duration.getD (.ofInt (-1))) else duration) reset
  | cmd => cmd

/-- The arguments have the defaults already. -/
lemma args_normalize (cmd : NetStreamCommand) : cmd.normalize.args = cmd.args := by
  cases cmd with
  | play streamName start duration reset => cases start <;> cases duration <;> cases reset <;> rfl
  | _ => rfl

lemma commandName_normalize (cmd : NetStreamCommand) : cmd.normalize.commandName = cmd.commandName := by
  cases cmd <;> rfl

lemma toMessage_normalize (streamId : UInt32) (cmd : NetStreamCommand) :
    cmd.normalize.toMessage streamId = cmd.toMessage streamId := by
  rw [toMessage, toMessage, args_normalize, commandName_normalize]

/-- The arguments of an encodable command can be spelled. -/
lemma Encodable.args {cmd : NetStreamCommand} (h : cmd.Encodable) :
    ∀ v ∈ cmd.args, v.Spellable ∧ v.height ≤ maxDecodeDepth := by
  have hscalar : ∀ v : Amf0Value, v.Spellable → v.height = 1 →
      v.Spellable ∧ v.height ≤ maxDecodeDepth := by
    intro v hv hheight
    rw [hheight]
    exact ⟨hv, by decide⟩
  intro v hv
  cases cmd with
  | play streamName start duration reset =>
      -- whichever of the optional ones are there, they are scalars
      have hcases : v = .string streamName ∨ (∃ n, v = .number n) ∨ ∃ b, v = .boolean b := by
        cases start <;> cases duration <;> cases reset <;>
          simp only [NetStreamCommand.args, List.mem_cons, Option.isSome, Option.map, Option.toList,
            Bool.false_eq_true, or_self, or_true, if_true, if_false, List.append_nil,
            List.singleton_append, List.not_mem_nil, or_false] at hv <;>
          grind
      rcases hcases with rfl | ⟨n, rfl⟩ | ⟨b, rfl⟩
      · exact hscalar _ h rfl
      · exact hscalar _ trivial rfl
      · exact hscalar _ trivial rfl
  | play2 params =>
      rw [List.mem_singleton.mp hv]
      exact h
  | seek milliseconds =>
      rw [List.mem_singleton.mp hv]
      exact hscalar _ trivial rfl
  | pause flag milliseconds =>
      rcases List.mem_pair.mp hv with rfl | rfl
      · exact hscalar _ trivial rfl
      · exact hscalar _ trivial rfl
  | receiveAudio flag =>
      rw [List.mem_singleton.mp hv]
      exact hscalar _ trivial rfl
  | receiveVideo flag =>
      rw [List.mem_singleton.mp hv]
      exact hscalar _ trivial rfl

/-- Parsed from its own frame, a command has its defaults. -/
lemma parse_frame (cmd : NetStreamCommand) :
    parse (.string cmd.commandName :: .number (.ofNat 0) :: .null :: cmd.args)
      = .ok (some cmd.normalize) := by
  cases cmd with
  | play streamName start duration reset => cases start <;> cases duration <;> cases reset <;> rfl
  | _ => rfl

/-- **Round trip**: a control command is decoded and parsed as itself with the defaults that its last
argument brings with it, and then a second trip returns exactly what was sent. -/
theorem parse_toMessage (streamId : UInt32) (cmd : NetStreamCommand) (h : cmd.Encodable) :
    (∃ values, Amf.decodeAll (cmd.toMessage streamId).payload = .ok values ∧
      parse values = .ok (some cmd.normalize)) ∧
    cmd.normalize.toMessage streamId = cmd.toMessage streamId ∧
    ∃ values, Amf.decodeAll (cmd.normalize.toMessage streamId).payload = .ok values ∧
      parse values = .ok (some cmd.normalize) := by
  have hnames : ∀ name ∈ ["play", "play2", "seek", "pause", "receiveAudio", "receiveVideo"],
      (Utf8.encode name).length < 2 ^ 32 := by decide
  have hname : (Utf8.encode cmd.commandName).length < 2 ^ 32 := by
    refine hnames _ ?_
    cases cmd <;> simp [commandName]
  have hdecode : Amf.decodeAll (cmd.toMessage streamId).payload
      = .ok (.string cmd.commandName :: .number (.ofNat 0) :: .null :: cmd.args) :=
    Amf.decodeAll_encodeCommand hname _ ⟨trivial, by decide⟩ h.args
  refine ⟨⟨_, hdecode, parse_frame cmd⟩, toMessage_normalize streamId cmd, ⟨_, ?_, parse_frame cmd⟩⟩
  rw [toMessage_normalize]
  exact hdecode

/-- A play command with a reset flag and nothing before it. -/
theorem parse_toMessage_reset :
    ∃ values, Amf.decodeAll ((play "cam" none none (some true)).toMessage 1).payload = .ok values ∧
      parse values = .ok (some (play "cam" (some (.ofInt (-2))) (some (.ofInt (-1))) (some true))) := by
  have hname : (Utf8.encode "cam").length < 2 ^ 32 := by decide
  exact (parse_toMessage 1 (play "cam" none none (some true)) hname).1

end NetStreamCommand

end Rtmp
