import Rtmp.Chunk.Reader

/-!
Properties of the reading of messages, from properties of its steps.

`ChunkReader.Closed` collects what a property of reader operations has to satisfy; `Closed.readChunks`
says that it then holds of the loop that reads a message.
-/

namespace Rtmp.ChunkReader

/-- A property of reader operations that sequences keep, and that the steps of the reader have. -/
structure Closed (P : ∀ {α : Type}, ReaderM α → Prop) : Prop where
  pure : ∀ {α : Type} (a : α), P (pure a : ReaderM α)
  bind : ∀ {α β : Type} {x : ReaderM α} {f : α → ReaderM β}, P x → (∀ a, P (f a)) → P (x >>= f)
  readExactCounted : ∀ n, P (readExactCounted n)
  requireState : ∀ csid text, P (requireState csid text)
  setState : ∀ csid st, P (Eff.modify (setState csid st) : ReaderM Unit)
  gets : ∀ {α : Type} (f : ChunkReader → α), P (Eff.gets f : ReaderM α)
  exhausted : P (Eff.fail (.io .unexpectedEof) : ReaderM Message)

namespace Closed

variable {P : ∀ {α : Type}, ReaderM α → Prop}

lemma ite {α : Type} {p : Prop} [Decidable p] {x y : ReaderM α} (hx : P x) (hy : P y) :
    P (if p then x else y) := by
  split_ifs
  · exact hx
  · exact hy

lemma readBasicHeader (h : Closed P) : P readBasicHeader := by
  have hcsid : ∀ low, P (readCsid low) := fun low =>
    ite (h.bind (h.readExactCounted 1) fun _ => h.pure _)
      (ite (h.bind (h.readExactCounted 2) fun _ => h.pure _) (h.pure _))
  exact h.bind (h.readExactCounted 1) fun _ => h.bind (hcsid _) fun _ => h.pure _

lemma readMessageHeader (h : Closed P) (fmt : UInt8) (csid : UInt32) :
    P (readMessageHeader fmt csid) := by
  have hu24 : P readU24Be := h.bind (h.readExactCounted 3) fun _ => h.pure _
  have hu32 : P readU32Be := h.bind (h.readExactCounted 4) fun _ => h.pure _
  have htype : P readType := h.bind (h.readExactCounted 1) fun _ => h.pure _
  have hstream : P readU32LeStreamId := h.bind (h.readExactCounted 4) fun _ => h.pure _
  have hext : ∀ field, P (readExtended field) := fun field =>
    ite (h.bind hu32 fun _ => h.pure _) (h.pure _)
  refine ite ?_ (ite ?_ (ite ?_ ?_))
  · exact h.bind hu24 fun _ => h.bind hu24 fun _ => h.bind htype fun _ => h.bind hstream fun _ =>
      h.bind (hext _) fun _ => h.bind (h.gets _) fun _ => h.setState _ _
  · exact h.bind hu24 fun _ => h.bind hu24 fun _ => h.bind htype fun _ => h.bind (hext _) fun _ =>
      h.bind (h.requireState _ _) fun _ => h.setState _ _
  · exact h.bind hu24 fun _ => h.bind (hext _) fun _ => h.bind (h.requireState _ _) fun _ =>
      h.setState _ _
  · refine h.bind (h.requireState _ _) fun st => h.bind (ite ?_ (h.pure _)) fun _ => ite ?_ (h.pure _)
    · exact h.bind hu32 fun _ => h.pure _
    · exact h.setState _ _

lemma readPayload (h : Closed P) (csid : UInt32) (fmt : UInt8) : P (readPayload csid fmt) := by
  refine h.bind (h.requireState _ _) fun st => h.bind (h.gets _) fun size => ?_
  refine h.bind (h.readExactCounted _) fun buf => ite ?_ ?_
  · exact h.bind (h.setState _ _) fun _ => h.pure _
  · exact h.bind (h.setState _ _) fun _ => h.pure _

lemma readChunk (h : Closed P) : P readChunk :=
  h.bind h.readBasicHeader fun _ => h.bind (h.readMessageHeader _ _) fun _ => h.readPayload _ _

/-- The property holds of the loop. -/
theorem readChunks (h : Closed P) (rounds : ℕ) : P (readChunks rounds) := by
  induction rounds with
  | zero => exact h.exhausted
  | succ rounds ih =>
      refine h.bind h.readChunk fun msg => ?_
      cases msg with
      | none => exact ih
      | some msg => exact h.pure msg

end Closed

end Rtmp.ChunkReader
