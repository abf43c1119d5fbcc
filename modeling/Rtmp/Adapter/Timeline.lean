import Rtmp.Adapter.Packet
import Rtmp.Lib.Signed

/-!
The timeline behind 32-bit timestamps.

* `mediaTime`: the time of the last of some timestamps, exactly: the first one and all the signed steps
  after it;
* `TimestampUnwrapper.after`: the unwrapper once it was fed some timestamps;
* `unwrapMs_after`: what it returns is the exact time, cut to 64 bits;
* `unwrapMs_timeline` (**rollover**): fed the last 32 bits of times that are close to each other, it
  returns the times again, moved so that the first one is its own rest.
-/

namespace Rtmp

open Signed

/-! ### Exact times -/

/-- The signed step from a timestamp to the next one. -/
def stampStep (prev raw : UInt32) : ℤ := (raw - prev).toInt32.toInt

/-- The sum of the steps from `prev` on. -/
def travelled (prev : UInt32) : List UInt32 → ℤ
  | [] => 0
  | raw :: rest => stampStep prev raw + travelled raw rest

/-- The time of the last timestamp. -/
def mediaTime : List UInt32 → ℤ
  | [] => 0
  | first :: rest => first.toNat + travelled first rest

lemma travelled_snoc (prev : UInt32) (raws : List UInt32) (raw : UInt32) :
    travelled prev (raws ++ [raw]) = travelled prev raws + stampStep (raws.getLastD prev) raw := by
  induction raws generalizing prev with
  | nil => simp [travelled]
  | cons first rest ih =>
      rw [List.cons_append, travelled, ih, travelled, List.getLastD_cons, add_assoc]

@[simp] lemma mediaTime_singleton (raw : UInt32) : mediaTime [raw] = raw.toNat := by
  simp [mediaTime, travelled]

/-- One more timestamp is one more step. -/
lemma mediaTime_snoc {raws : List UInt32} {prev : UInt32} (h : raws.getLast? = some prev)
    (raw : UInt32) : mediaTime (raws ++ [raw]) = mediaTime raws + stampStep prev raw := by
  cases raws with
  | nil => cases h
  | cons first rest =>
      have hlast : rest.getLastD first = prev := by
        rw [List.getLast?_cons, Option.some.injEq] at h
        rw [← h, List.getLastD_eq_getLast?]
      rw [List.cons_append, mediaTime, travelled_snoc, hlast, mediaTime, add_assoc]

/-! ### The unwrapper -/

namespace TimestampUnwrapper

/-- Fed some timestamps from the start. -/
def after (raws : List UInt32) : TimestampUnwrapper := raws.foldl (fun u raw => (u.unwrapMs raw).2) .new

lemma after_snoc (raws : List UInt32) (raw : UInt32) :
    after (raws ++ [raw]) = ((after raws).unwrapMs raw).2 := by
  rw [after, after, List.foldl_append, List.foldl_cons, List.foldl_nil]

lemma snd_unwrapMs (u : TimestampUnwrapper) (raw : UInt32) :
    (u.unwrapMs raw).2 = ⟨some (raw, (u.unwrapMs raw).1)⟩ := rfl

/-- The unwrapper has the last timestamp and its time, cut to 64 bits. -/
lemma last_after (raws : List UInt32) :
    (after raws).last = raws.getLast?.map fun raw => (raw, Int64.ofInt (mediaTime raws)) := by
  induction raws using List.reverseRecOn with
  | nil => rfl
  | append_singleton raws raw ih =>
      rw [after_snoc, snd_unwrapMs, List.getLast?_concat, Option.map_some, unwrapMs, ih]
      cases hlast : raws.getLast? with
      | none =>
          rw [List.getLast?_eq_none_iff] at hlast
          subst hlast
          simp only [Option.map_none, toInt64_toUInt64, List.nil_append, mediaTime_singleton]
      | some prev =>
          simp only [Option.map_some, toInt64_eq_ofInt]
          rw [mediaTime_snoc hlast, Int64.ofInt_add]
          rfl

/-- The next time is the exact one, cut to 64 bits. -/
lemma unwrapMs_after (raws : List UInt32) (raw : UInt32) :
    ((after raws).unwrapMs raw).1 = Int64.ofInt (mediaTime (raws ++ [raw])) := by
  have hlast := last_after (raws ++ [raw])
  rw [after_snoc, snd_unwrapMs, List.getLast?_concat] at hlast
  simpa using hlast

/-! ### Times that are close to each other -/

/-- What is fed for the first `n` of the times. -/
def stamps (t : ℕ → ℤ) (n : ℕ) : List UInt32 := (List.range n).map fun i => UInt32.ofInt (t i)

/-- What the unwrapper returns for time number `i`, when it was fed the ones before. -/
def unwrapped (t : ℕ → ℤ) (i : ℕ) : Int64 := ((after (stamps t i)).unwrapMs (.ofInt (t i))).1

lemma stamps_succ (t : ℕ → ℤ) (n : ℕ) : stamps t (n + 1) = stamps t n ++ [UInt32.ofInt (t n)] := by
  rw [stamps, stamps, List.range_succ, List.map_append, List.map_singleton]

variable {t : ℕ → ℤ}

/-- The exact time of the timestamps: the first one is known up to its last 32 bits only. -/
lemma mediaTime_stamps (hstep : ∀ i, -2 ^ 31 < t (i + 1) - t i ∧ t (i + 1) - t i < 2 ^ 31) (i : ℕ) :
    mediaTime (stamps t (i + 1)) = t i - t 0 + t 0 % 2 ^ 32 := by
  induction i with
  | zero =>
      rw [stamps_succ, show stamps t 0 = [] from rfl, List.nil_append, mediaTime_singleton, toNat_ofInt]
      omega
  | succ i ih =>
      have hlast : (stamps t (i + 1)).getLast? = some (UInt32.ofInt (t i)) := by
        rw [stamps_succ, List.getLast?_concat]
      obtain ⟨hlo, hhi⟩ := hstep i
      rw [stamps_succ t (i + 1), mediaTime_snoc hlast, ih, stampStep, signed_sub hlo.le hhi]
      omega

/-- **Rollover**: for all times with steps below `2 ^ 31` in both directions, what is returned for each
of their 32-bit rests is the time itself, counted from the rest of the first one, as long as that fits
64 bits; so the results are ordered as the times are. -/
theorem unwrapMs_timeline (t : ℕ → ℤ)
    (hstep : ∀ i, -2 ^ 31 < t (i + 1) - t i ∧ t (i + 1) - t i < 2 ^ 31) :
    (∀ i, Fits (t i - t 0 + t 0 % 2 ^ 32) →
      (unwrapped t i).toInt = t i - t 0 + t 0 % 2 ^ 32) ∧
    ∀ i j, Fits (t i - t 0 + t 0 % 2 ^ 32) → Fits (t j - t 0 + t 0 % 2 ^ 32) →
      (unwrapped t i < unwrapped t j ↔ t i < t j) := by
  have hexact : ∀ i, Fits (t i - t 0 + t 0 % 2 ^ 32) →
      (unwrapped t i).toInt = t i - t 0 + t 0 % 2 ^ 32 := by
    intro i hfits
    rw [unwrapped, unwrapMs_after, ← stamps_succ, mediaTime_stamps hstep]
    exact hfits.toInt
  refine ⟨hexact, fun i j hi hj => ?_⟩
  calc unwrapped t i < unwrapped t j
      ↔ (unwrapped t i).toInt < (unwrapped t j).toInt := Int64.lt_iff_toInt_lt
    _ ↔ t i - t 0 + t 0 % 2 ^ 32 < t j - t 0 + t 0 % 2 ^ 32 := by rw [hexact i hi, hexact j hj]
    _ ↔ t i < t j := by omega

/-- Times that go on by a second each, from a second before the first rollover. -/
theorem unwrapMs_timeline_seconds :
    (unwrapped (fun i => 4294966296 + 1000 * i) 1).toInt = 4294967296 ∧
      (unwrapped (fun i => 4294966296 + 1000 * i) 0 < unwrapped (fun i => 4294966296 + 1000 * i) 2 ↔
        (4294966296 : ℤ) + 1000 * (0 : ℕ) < 4294966296 + 1000 * (2 : ℕ)) := by
  obtain ⟨hexact, horder⟩ := unwrapMs_timeline (fun i => 4294966296 + 1000 * i)
    fun i => by constructor <;> push_cast <;> omega
  exact ⟨hexact 1 (by decide), horder 0 2 (by decide) (by decide)⟩

end TimestampUnwrapper

end Rtmp
