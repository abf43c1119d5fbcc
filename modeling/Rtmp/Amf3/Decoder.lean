import Rtmp.Amf.Value
import Rtmp.Error
import Rtmp.Lib.Quote
import Rtmp.Lib.Scan

/-!
The AMF3 decoder.

The input is the list of unread bytes; a byte position is the length of the whole input less the
length of that list, and only the readers of externalizable bodies are given one.

* `Decoder`: the three reference tables of one packet, the registered readers and the live depth;
* `readU29`, `readString`, `readObjectString`: the header forms with an inline and a by-reference
  reading;
* `readMarked`, `decodeInner`: one value whose marker decides the reader, children read by the
  function passed in;
* `decodeFrom`, `decode`, `decodeAll`: the recursion, with the depth counted around every value.
-/

namespace Rtmp.Amf3

/-- The class layout of an object: its name, its flags and its sealed member names. -/
structure TraitDef where
  className : String
  isDynamic : Bool
  externalizable : Bool
  sealedMembers : List String
  deriving DecidableEq, Repr

/-- The length of an externalizable body, from the whole input and the offset of its first byte. -/
abbrev ExternalizableReader := List UInt8 → ℕ → Except Error ℕ

/-- The reference tables that survive from value to value inside one packet, the registered readers
of externalizable classes, and the recursion depth. -/
structure Decoder where
  strings : List String := []
  objects : List Amf3Value := []
  traits : List TraitDef := []
  externalizableHandlers : String → Option ExternalizableReader := fun _ => none
  depth : ℕ := 0

/-- A step of the decoder over the bytes that are left. -/
abbrev DecodeM (α : Type) := Eff Error (List UInt8 × Decoder) α

namespace Decoder

/-- Enter a literal string; the empty string never goes into the table. -/
def internString (s : String) (d : Decoder) : Decoder :=
  if s = "" then d else { d with strings := d.strings ++ [s] }

def pushObject (v : Amf3Value) (d : Decoder) : Decoder := { d with objects := d.objects ++ [v] }

def setObject (slot : ℕ) (v : Amf3Value) (d : Decoder) : Decoder :=
  { d with objects := d.objects.set slot v }

def pushTrait (t : TraitDef) (d : Decoder) : Decoder := { d with traits := d.traits ++ [t] }

def enter (d : Decoder) : Decoder := { d with depth := d.depth + 1 }

def leave (d : Decoder) : Decoder := { d with depth := d.depth - 1 }

/-- Forget the tables of a packet; the registered readers stay. -/
def resetTables (d : Decoder) : Decoder :=
  { externalizableHandlers := d.externalizableHandlers }

def registerExternalizable (className : String) (reader : ExternalizableReader) (d : Decoder) :
    Decoder :=
  { d with externalizableHandlers := Function.update d.externalizableHandlers className reader }

end Decoder

/-! ### Reading bytes -/

def readU8 : Eff Error (List UInt8) UInt8 := Scan.byte (.invalidAmf0 "amf3 truncated")

def readU32Be : Eff Error (List UInt8) ℕ := Scan.uintBe 4 (.invalidAmf0 "amf3 truncated u32")

def readU64Be : Eff Error (List UInt8) ℕ := Scan.uintBe 8 (.invalidAmf0 "amf3 truncated u64")

def readBytes (n : ℕ) : Eff Error (List UInt8) (List UInt8) :=
  Scan.bytes n fun left => .invalidAmf0
    ("amf3 truncated bytes: need " ++ toString n ++ ", have " ++ toString left)

def readUtf8Body (n : ℕ) : Eff Error (List UInt8) String :=
  Scan.utf8 n
    (fun left => .invalidAmf0
      ("amf3 truncated string: need " ++ toString n ++ ", have " ++ toString left))
    fun e => .invalidAmf0 ("amf3 non-UTF8 string: " ++ e)

/-- The rest of a variable-length integer: `n` more bytes may carry a continuation bit, and the byte
after them is taken whole. -/
def readU29From : (n value : ℕ) → Eff Error (List UInt8) ℕ
  | 0, value => do
      let b ← readU8
      pure (value <<< 8 ||| b.toNat)
  | n + 1, value => do
      let b ← readU8
      if b &&& 0x80 = 0 then pure (value <<< 7 ||| b.toNat)
      else readU29From n (value <<< 7 ||| (b &&& 0x7F).toNat)

def readU29 : Eff Error (List UInt8) ℕ := readU29From 3 0

/-- A signed integer of 29 bits. -/
def readI29 : Eff Error (List UInt8) Int32 := do
  let v ← readU29
  if v &&& 0x10000000 ≠ 0 then pure (UInt32.ofNat (v ||| 0xE0000000)).toInt32
  else pure (UInt32.ofNat v).toInt32

def readDouble : Eff Error (List UInt8) Binary64 := do
  let bits ← readU64Be
  pure ⟨UInt64.ofNat bits⟩

/-! ### Reading through the tables -/

def lookupObject (idx : ℕ) : DecodeM Amf3Value := do
  match ← Eff.onSnd (Eff.gets fun d : Decoder => d.objects[idx]?) with
  | some v => pure v
  | none => Eff.fail (.invalidAmf0 ("amf3 object ref " ++ toString idx ++ " out of range"))

/-- A string, inline or from the string table. -/
def readString : DecodeM String := do
  let header ← Eff.onFst readU29
  if header &&& 1 = 0 then
    let idx := header >>> 1
    match ← Eff.onSnd (Eff.gets fun d : Decoder => d.strings[idx]?) with
    | some s => pure s
    | none => Eff.fail (.invalidAmf0 ("amf3 string ref " ++ toString idx ++ " out of range"))
  else
    let s ← Eff.onFst (readUtf8Body (header >>> 1))
    Eff.onSnd (Eff.modify (Decoder.internString s))
    pure s

/-- The text of an XML value; it lives in the object table. -/
def readObjectString : DecodeM String := do
  let header ← Eff.onFst readU29
  if header &&& 1 = 0 then
    let idx := header >>> 1
    match ← Eff.onSnd (Eff.gets fun d : Decoder => d.objects[idx]?) with
    | some (.xml s) | some (.xmlDocument s) => pure s
    | some _ =>
        Eff.fail (.invalidAmf0 ("amf3 xml ref " ++ toString idx ++ " resolved to non-xml value"))
    | none => Eff.fail (.invalidAmf0 ("amf3 xml ref " ++ toString idx ++ " out of range"))
  else
    let s ← Eff.onFst (readUtf8Body (header >>> 1))
    Eff.onSnd (Eff.modify (Decoder.pushObject (.xmlDocument s)))
    pure s

/-- An object-table header: a reference is looked up, an inline form read by `inline` from the rest
of the header. -/
def byReference (inline : ℕ → DecodeM Amf3Value) : DecodeM Amf3Value := do
  let header ← Eff.onFst readU29
  if header &&& 1 = 0 then lookupObject (header >>> 1)
  else inline header

/-- A value without children takes its table slot when it is complete. -/
def readLeaf (leaf : ℕ → Eff Error (List UInt8) Amf3Value) : DecodeM Amf3Value :=
  byReference fun header => do
    let v ← Eff.onFst (leaf (header >>> 1))
    Eff.onSnd (Eff.modify (Decoder.pushObject v))
    pure v

/-- A value with children takes its slot before they are read and fills it afterwards. -/
def inSlot (body : DecodeM Amf3Value) : DecodeM Amf3Value := do
  let slot ← Eff.onSnd (Eff.modifyGet fun d : Decoder => (d.objects.length, d.pushObject .null))
  let v ← body
  Eff.onSnd (Eff.modify (Decoder.setObject slot v))
  pure v

/-- One string-keyed member, or the empty key that ends them. -/
def readMember (child : DecodeM Amf3Value) : DecodeM (Option (String × Amf3Value)) := do
  let k ← readString
  if k = "" then pure none
  else
    let v ← child
    pure (some (k, v))

/-- String-keyed members up to the empty key. -/
def readMembers (child : DecodeM Amf3Value) : DecodeM (List (String × Amf3Value)) := do
  let unread ← Eff.onFst (Eff.gets List.length)
  Eff.collect (readMember child) (unread + 1)

/-! ### The readers of each marker -/

def readDate : DecodeM Amf3Value :=
  readLeaf fun _ => do
    let millis ← readDouble
    pure (.date millis)

def readByteArray : DecodeM Amf3Value :=
  readLeaf fun len => do
    let bytes ← readBytes len
    pure (.byteArray bytes)

def readVectorInt : DecodeM Amf3Value :=
  readLeaf fun count => do
    let fixed ← readU8
    let items ← Eff.times readU32Be count
    pure (.vectorInt (decide (fixed ≠ 0)) (items.map fun n => (UInt32.ofNat n).toInt32))

def readVectorUInt : DecodeM Amf3Value :=
  readLeaf fun count => do
    let fixed ← readU8
    let items ← Eff.times readU32Be count
    pure (.vectorUInt (decide (fixed ≠ 0)) (items.map UInt32.ofNat))

def readVectorDouble : DecodeM Amf3Value :=
  readLeaf fun count => do
    let fixed ← readU8
    let items ← Eff.times readDouble count
    pure (.vectorDouble (decide (fixed ≠ 0)) items)

/-- The named members come before the dense ones. -/
def readArray (child : DecodeM Amf3Value) : DecodeM Amf3Value :=
  byReference fun header =>
    inSlot do
      let assoc ← readMembers child
      let dense ← Eff.times child (header >>> 1)
      pure (.array dense assoc)

/-- The class layout an object header announces, by reference or inline. -/
def readTraits (header : ℕ) : DecodeM TraitDef := do
  if header &&& 2 = 0 then
    let idx := header >>> 2
    match ← Eff.onSnd (Eff.gets fun d : Decoder => d.traits[idx]?) with
    | some t => pure t
    | none => Eff.fail (.invalidAmf0 ("amf3 trait ref " ++ toString idx ++ " out of range"))
  else
    let className ← readString
    let sealedMembers ← Eff.times readString (header >>> 4)
    let t : TraitDef :=
      { className, sealedMembers
        externalizable := decide (header &&& 4 ≠ 0)
        isDynamic := decide (header &&& 8 ≠ 0) }
    Eff.onSnd (Eff.modify (Decoder.pushTrait t))
    pure t

/-- The body of an externalizable object: as many bytes as the reader registered for its class
says. -/
def readExternalizable (buf : List UInt8) (t : TraitDef) : DecodeM Amf3Value := do
  match ← Eff.onSnd (Eff.gets fun d : Decoder => d.externalizableHandlers t.className) with
  | none =>
      Eff.fail (.invalidAmf0
        ("amf3: externalizable class " ++ Quote.quote t.className
          ++ " requires a registered handler; generic decoder cannot determine body length"))
  | some reader =>
      let left ← Eff.onFst (Eff.gets List.length)
      let len ← Eff.ofExcept (reader buf (buf.length - left))
      if 2 ^ 64 ≤ buf.length - left + len then
        Eff.fail (.invalidAmf0
          ("amf3: externalizable class " ++ Quote.quote t.className ++ " body length "
            ++ toString len ++ " overflows"))
      else
        let body ← Eff.onFst (Scan.bytes len fun left => .invalidAmf0
          ("amf3: externalizable class " ++ Quote.quote t.className ++ " body length "
            ++ toString len ++ " runs past buffer end (" ++ toString left
            ++ " byte(s) available)"))
        pure (.object t.className false [] [] (some body))

/-- The trailing members of a dynamic class. -/
def readDynamicMembers (child : DecodeM Amf3Value) (isDynamic : Bool) :
    DecodeM (List (String × Amf3Value)) :=
  if isDynamic then readMembers child else pure []

/-- The sealed members in the order of their names, then the dynamic ones. -/
def readObjectBody (child : DecodeM Amf3Value) (t : TraitDef) : DecodeM Amf3Value := do
  let values ← Eff.times child t.sealedMembers.length
  let dynamicMembers ← readDynamicMembers child t.isDynamic
  pure (.object t.className t.isDynamic (t.sealedMembers.zip values) dynamicMembers none)

def readObject (buf : List UInt8) (child : DecodeM Amf3Value) : DecodeM Amf3Value :=
  byReference fun header => do
    let t ← readTraits header
    inSlot (if t.externalizable then readExternalizable buf t else readObjectBody child t)

def readVectorObject (child : DecodeM Amf3Value) : DecodeM Amf3Value :=
  byReference fun header => do
    let fixed ← Eff.onFst readU8
    let objectTypeName ← readString
    inSlot do
      let items ← Eff.times child (header >>> 1)
      pure (.vectorObject (decide (fixed ≠ 0)) objectTypeName items)

/-- One entry of a dictionary, the key first. -/
def readEntry (child : DecodeM Amf3Value) : DecodeM (Amf3Value × Amf3Value) := do
  let k ← child
  let v ← child
  pure (k, v)

def readDictionary (child : DecodeM Amf3Value) : DecodeM Amf3Value :=
  byReference fun header => do
    let weakKeys ← Eff.onFst readU8
    inSlot do
      let entries ← Eff.times (readEntry child) (header >>> 1)
      pure (.dictionary (decide (weakKeys ≠ 0)) entries)

/-- The rest of a value, by its marker. -/
def readMarked (buf : List UInt8) (child : DecodeM Amf3Value) : UInt8 → DecodeM Amf3Value
  | 0x00 => pure .undefined
  | 0x01 => pure .null
  | 0x02 => pure (.boolean false)
  | 0x03 => pure (.boolean true)
  | 0x04 => do
      let n ← Eff.onFst readI29
      pure (.integer n)
  | 0x05 => do
      let n ← Eff.onFst readDouble
      pure (.double n)
  | 0x06 => do
      let s ← readString
      pure (.string s)
  | 0x07 => do
      let s ← readObjectString
      pure (.xmlDocument s)
  | 0x08 => readDate
  | 0x09 => readArray child
  | 0x0A => readObject buf child
  | 0x0B => do
      let s ← readObjectString
      pure (.xml s)
  | 0x0C => readByteArray
  | 0x0D => readVectorInt
  | 0x0E => readVectorUInt
  | 0x0F => readVectorDouble
  | 0x10 => readVectorObject child
  | 0x11 => readDictionary child
  | other => Eff.fail (.invalidAmf0 ("amf3: unknown marker " ++ hex other))

/-- One value without the depth counting. -/
def decodeInner (buf : List UInt8) (child : DecodeM Amf3Value) : DecodeM Amf3Value := do
  let marker ← Eff.onFst readU8
  readMarked buf child marker

/-- The text of the depth error. -/
def depthExceeded : Error :=
  .invalidAmf0 ("amf3: nested container depth exceeded " ++ toString maxDecodeDepth)

/-- One value with the depth counted around it, whether it is read or refused.  The fuel bounds the
recursion; the depth check stops it before the fuel does. -/
def decodeFrom (buf : List UInt8) : (fuel : ℕ) → DecodeM Amf3Value
  | 0 => Eff.fail depthExceeded
  | fuel + 1 => do
      let depth ← Eff.onSnd (Eff.gets Decoder.depth)
      if maxDecodeDepth ≤ depth then Eff.fail depthExceeded
      else
        Eff.onSnd (Eff.modify Decoder.enter)
        let result ← Eff.attempt (decodeInner buf (decodeFrom buf fuel))
        Eff.onSnd (Eff.modify Decoder.leave)
        Eff.ofExcept result

/-- Fuel that the depth check never lets run out. -/
def decodeFuel : ℕ := maxDecodeDepth + 1

/-- The decoder's method: one value of `buf` from what is left of it. -/
def Decoder.decode (buf : List UInt8) : DecodeM Amf3Value := decodeFrom buf decodeFuel

/-- One value from the front of the input, with tables of its own. -/
def decode : Eff Error (List UInt8) Amf3Value where
  run rest := (((Decoder.decode rest).run (rest, {})).1, ((Decoder.decode rest).run (rest, {})).2.1)

/-- The next value of `buf`, if there is any input left. -/
def decodeNext (buf : List UInt8) : DecodeM (Option Amf3Value) := do
  let unread ← Eff.onFst (Eff.gets id)
  if unread.isEmpty then pure none
  else
    let v ← Decoder.decode buf
    pure (some v)

/-- All values of a packet, sharing one set of tables. -/
def decodeAll (buf : List UInt8) : Except Error (List Amf3Value) :=
  ((Eff.collect (decodeNext buf) (buf.length + 1)).run (buf, {})).1

/-- Two values that share a string: the second names it by index. -/
example : decodeAll [0x06, 0x03, 0x61, 0x06, 0x00] = .ok [.string "a", .string "a"] := rfl

/-! ### Input is only taken, and the depth given back -/

/-- What is left in `t` is an end of what was left in `s`, and the depth is that of `s`. -/
def Onward (s t : List UInt8 × Decoder) : Prop := Scan.Advances s t ∧ t.2.depth = s.2.depth

instance : Std.Refl Onward := ⟨fun s => ⟨List.suffix_refl s.1, rfl⟩⟩

instance : IsTrans (List UInt8 × Decoder) Onward :=
  ⟨fun _ _ _ hst htu => ⟨htu.1.trans hst.1, htu.2.trans hst.2⟩⟩

/-- The input does not grow on the way. -/
lemma Onward.length_le {s t : List UInt8 × Decoder} (h : Onward s t) : t.1.length ≤ s.1.length :=
  h.1.length_le

section Advances

open Scan

variable {child : DecodeM Amf3Value} {buf : List UInt8}

lemma readU29From_advances (n value : ℕ) :
    Eff.Along (flip List.IsSuffix) (readU29From n value) := by
  induction n generalizing value with
  | zero => exact byte_advances.bind fun _ => .pure _
  | succ n ih =>
      refine byte_advances.bind fun b => ?_
      split_ifs
      · exact .pure _
      · exact ih _

lemma readI29_advances : Eff.Along (flip List.IsSuffix) readI29 := by
  refine (readU29From_advances 3 0).bind fun v => ?_
  split_ifs
  · exact .pure _
  · exact .pure _

lemma readDouble_advances : Eff.Along (flip List.IsSuffix) readDouble :=
  uintBe_advances.bind fun _ => .pure _

/-- A step on the bytes leaves the tables. -/
lemma onFst_advances {α : Type} {x : Eff Error (List UInt8) α}
    (h : Eff.Along (flip List.IsSuffix) x) :
    Eff.Along Onward (Eff.onFst x : DecodeM α) := fun s => ⟨h s.1, rfl⟩

/-- A look at the tables changes nothing. -/
lemma gets_advances {α : Type} (f : Decoder → α) :
    Eff.Along Onward (Eff.onSnd (Eff.gets f) : DecodeM α) := fun s => refl_of Onward s

/-- An entry in a table leaves the bytes and the depth. -/
lemma modify_advances {f : Decoder → Decoder} (h : ∀ d, (f d).depth = d.depth) :
    Eff.Along Onward (Eff.onSnd (Eff.modify f) : DecodeM Unit) :=
  fun s => ⟨List.suffix_refl s.1, h s.2⟩

lemma internString_advances (s : String) :
    Eff.Along Onward (Eff.onSnd (Eff.modify (Decoder.internString s)) : DecodeM Unit) := by
  refine modify_advances fun d => ?_
  rw [Decoder.internString]
  split_ifs <;> rfl

lemma pushObject_advances (v : Amf3Value) :
    Eff.Along Onward (Eff.onSnd (Eff.modify (Decoder.pushObject v)) : DecodeM Unit) :=
  modify_advances fun _ => rfl

lemma setObject_advances (slot : ℕ) (v : Amf3Value) :
    Eff.Along Onward (Eff.onSnd (Eff.modify (Decoder.setObject slot v)) : DecodeM Unit) :=
  modify_advances fun _ => rfl

lemma pushTrait_advances (t : TraitDef) :
    Eff.Along Onward (Eff.onSnd (Eff.modify (Decoder.pushTrait t)) : DecodeM Unit) :=
  modify_advances fun _ => rfl

lemma lookupObject_advances (idx : ℕ) : Eff.Along Onward (lookupObject idx) := by
  refine (gets_advances _).bind fun v => ?_
  cases v with
  | none => exact .fail _
  | some v => exact .pure v

lemma readString_advances : Eff.Along Onward readString := by
  refine (onFst_advances (readU29From_advances 3 0)).bind fun header => ?_
  split_ifs
  · refine (gets_advances _).bind fun s => ?_
    cases s with
    | none => exact .fail _
    | some s => exact .pure s
  · exact (onFst_advances utf8_advances).bind fun s =>
      (internString_advances s).bind fun _ => .pure _

lemma readObjectString_advances : Eff.Along Onward readObjectString := by
  refine (onFst_advances (readU29From_advances 3 0)).bind fun header => ?_
  split_ifs
  · refine (gets_advances _).bind fun v => ?_
    split
    · exact .pure _
    · exact .pure _
    · exact .fail _
    · exact .fail _
  · exact (onFst_advances utf8_advances).bind fun _ =>
      (pushObject_advances _).bind fun _ => .pure _

lemma byReference_advances {inline : ℕ → DecodeM Amf3Value}
    (h : ∀ header, Eff.Along Onward (inline header)) :
    Eff.Along Onward (byReference inline) := by
  refine (onFst_advances (readU29From_advances 3 0)).bind fun header => ?_
  split_ifs
  · exact lookupObject_advances _
  · exact h header

lemma readLeaf_advances {leaf : ℕ → Eff Error (List UInt8) Amf3Value}
    (h : ∀ n, Eff.Along (flip List.IsSuffix) (leaf n)) : Eff.Along Onward (readLeaf leaf) :=
  byReference_advances fun _ =>
    (onFst_advances (h _)).bind fun _ => (pushObject_advances _).bind fun _ => .pure _

lemma slot_advances : Eff.Along Onward
    (Eff.onSnd (Eff.modifyGet fun d : Decoder => (d.objects.length, d.pushObject .null)) :
      DecodeM ℕ) :=
  fun s => ⟨List.suffix_refl s.1, rfl⟩

lemma inSlot_advances {body : DecodeM Amf3Value} (h : Eff.Along Onward body) :
    Eff.Along Onward (inSlot body) :=
  slot_advances.bind fun _ => h.bind fun _ => (setObject_advances _ _).bind fun _ => .pure _

lemma readMembers_advances (h : Eff.Along Onward child) :
    Eff.Along Onward (readMembers child) := by
  refine (onFst_advances (.gets _)).bind fun unread => Eff.Along.collect ?_ _
  refine readString_advances.bind fun k => ?_
  split_ifs
  · exact .pure _
  · exact h.bind fun _ => .pure _

lemma readTraits_advances (header : ℕ) : Eff.Along Onward (readTraits header) := by
  rw [readTraits]
  split_ifs
  · refine (gets_advances _).bind fun t => ?_
    cases t with
    | none => exact .fail _
    | some t => exact .pure t
  · exact readString_advances.bind fun _ => (readString_advances.times _).bind fun _ =>
      (pushTrait_advances _).bind fun _ => .pure _

lemma readExternalizable_advances (t : TraitDef) :
    Eff.Along Onward (readExternalizable buf t) := by
  refine (gets_advances _).bind fun reader => ?_
  cases reader with
  | none => exact .fail _
  | some reader =>
      refine (onFst_advances (.gets _)).bind fun left => (Eff.Along.ofExcept _).bind fun len => ?_
      split_ifs
      · exact .fail _
      · exact (onFst_advances bytes_advances).bind fun _ => .pure _

lemma readObjectBody_advances (h : Eff.Along Onward child) (t : TraitDef) :
    Eff.Along Onward (readObjectBody child t) := by
  refine (h.times _).bind fun values => Eff.Along.bind ?_ fun _ => .pure _
  rw [readDynamicMembers]
  split_ifs
  · exact readMembers_advances h
  · exact .pure _

lemma readMarked_advances (h : Eff.Along Onward child) (marker : UInt8) :
    Eff.Along Onward (readMarked buf child marker) := by
  rw [readMarked.eq_def]
  -- the three vectors of numbers differ in the width of an item only
  have hvector : ∀ {α : Type} {x : Eff Error (List UInt8) α} (make : UInt8 → List α → Amf3Value),
      Eff.Along (flip List.IsSuffix) x → Eff.Along Onward (readLeaf fun count => do
        let fixed ← readU8
        let items ← Eff.times x count
        pure (make fixed items)) :=
    fun make hx => readLeaf_advances fun n =>
      byte_advances.bind fun _ => (hx.times n).bind fun _ => .pure _
  split
  case h_5 => exact (onFst_advances readI29_advances).bind fun _ => .pure _
  case h_6 => exact (onFst_advances readDouble_advances).bind fun _ => .pure _
  case h_7 => exact readString_advances.bind fun _ => .pure _
  case h_8 => exact readObjectString_advances.bind fun _ => .pure _
  case h_9 => exact readLeaf_advances fun _ => readDouble_advances.bind fun _ => .pure _
  case h_10 =>
    exact byReference_advances fun _ => inSlot_advances
      ((readMembers_advances h).bind fun _ => (h.times _).bind fun _ => .pure _)
  case h_11 =>
    refine byReference_advances fun header => (readTraits_advances header).bind fun t =>
      inSlot_advances ?_
    split_ifs
    · exact readExternalizable_advances t
    · exact readObjectBody_advances h t
  case h_12 => exact readObjectString_advances.bind fun _ => .pure _
  case h_13 => exact readLeaf_advances fun _ => bytes_advances.bind fun _ => .pure _
  case h_14 => exact hvector _ uintBe_advances
  case h_15 => exact hvector _ uintBe_advances
  case h_16 => exact hvector _ readDouble_advances
  case h_17 =>
    exact byReference_advances fun _ => (onFst_advances byte_advances).bind fun _ =>
      readString_advances.bind fun _ => inSlot_advances ((h.times _).bind fun _ => .pure _)
  case h_18 =>
    exact byReference_advances fun _ => (onFst_advances byte_advances).bind fun _ =>
      inSlot_advances (((h.bind fun _ => h.bind fun _ => .pure _).times _).bind fun _ => .pure _)
  case h_19 => exact .fail _
  all_goals exact .pure _

lemma decodeInner_advances (h : Eff.Along Onward child) :
    Eff.Along Onward (decodeInner buf child) :=
  (onFst_advances byte_advances).bind fun _ => readMarked_advances h _

/-- The depth is counted around a value, whichever way it ends. -/
lemma run_decodeFrom_succ {fuel : ℕ} {s : List UInt8 × Decoder} (hs : s.2.depth < maxDecodeDepth) :
    (decodeFrom buf (fuel + 1)).run s =
      let r := (decodeInner buf (decodeFrom buf fuel)).run (s.1, s.2.enter)
      (r.1, (r.2.1, r.2.2.leave)) := by
  have hget : (Eff.onSnd (Eff.gets Decoder.depth) : DecodeM ℕ).run s = (.ok s.2.depth, s) := rfl
  rw [decodeFrom, Eff.run_bind_ok hget, if_neg (Nat.not_le_of_lt hs)]
  rfl

lemma decodeFrom_refused {fuel : ℕ} {s : List UInt8 × Decoder} (hs : maxDecodeDepth ≤ s.2.depth) :
    (decodeFrom buf fuel).run s = (.error depthExceeded, s) := by
  cases fuel with
  | zero => rfl
  | succ fuel =>
      have hget : (Eff.onSnd (Eff.gets Decoder.depth) : DecodeM ℕ).run s = (.ok s.2.depth, s) := rfl
      rw [decodeFrom, Eff.run_bind_ok hget, if_pos hs]
      rfl

/-- A value, read or refused, takes input and leaves the depth as it was. -/
lemma decodeFrom_advances (fuel : ℕ) : Eff.Along Onward (decodeFrom buf fuel) := by
  induction fuel with
  | zero => exact .fail _
  | succ fuel ih =>
      intro s
      by_cases hs : maxDecodeDepth ≤ s.2.depth
      · rw [decodeFrom_refused hs]
        exact refl_of Onward s
      · rw [run_decodeFrom_succ (Nat.lt_of_not_le hs)]
        obtain ⟨hleft, hdepth⟩ := decodeInner_advances ih (s.1, s.2.enter)
        refine ⟨hleft, ?_⟩
        change _ - 1 = s.2.depth
        rw [hdepth]
        rfl

/-- An integer takes at least one byte. -/
lemma readU29From_shrinks {n value v : ℕ} {u u' : List UInt8}
    (h : (readU29From n value).run u = (.ok v, u')) : u'.length < u.length := by
  cases n with
  | zero =>
      obtain ⟨b, u₁, hb, h⟩ := Eff.run_bind_eq_ok.mp h
      cases h
      rw [byte_eq_ok.mp hb]
      exact Nat.lt_succ_self _
  | succ n =>
      obtain ⟨b, u₁, hb, h⟩ := Eff.run_bind_eq_ok.mp h
      have hrest : u'.length ≤ u₁.length := by
        split_ifs at h
        · cases h
          exact Nat.le_refl _
        · exact ((readU29From_advances _ _).of_run h).length_le
      rw [byte_eq_ok.mp hb]
      exact Nat.lt_succ_of_le hrest

/-- So does a string. -/
lemma readString_shrinks {s t : List UInt8 × Decoder} {str : String}
    (h : readString.run s = (.ok str, t)) : t.1.length < s.1.length := by
  obtain ⟨header, s₁, hheader, h⟩ := Eff.run_bind_eq_ok.mp h
  have hshrink := readU29From_shrinks (Eff.run_onFst_eq_ok.mp hheader).1
  have hrest : t.1.length ≤ s₁.1.length := by
    split_ifs at h
    · obtain ⟨found, s₂, hfound, h⟩ := Eff.run_bind_eq_ok.mp h
      cases hfound
      cases hs : s₁.2.strings[header >>> 1]? with
      | none =>
          simp only [hs] at h
          cases h
      | some str' =>
          simp only [hs] at h
          cases h
          exact Nat.le_refl _
    · obtain ⟨str', s₂, hstr, h⟩ := Eff.run_bind_eq_ok.mp h
      obtain ⟨_, s₃, hmodify, h⟩ := Eff.run_bind_eq_ok.mp h
      cases hmodify
      cases h
      exact (utf8_advances.of_run (Eff.run_onFst_eq_ok.mp hstr).1).length_le
  exact Nat.lt_of_le_of_lt hrest hshrink

/-- And so does a member. -/
lemma readMember_shrinks (hchild : Eff.Along Onward child) {s t : List UInt8 × Decoder}
    {p : String × Amf3Value} (h : (readMember child).run s = (.ok (some p), t)) :
    t.1.length < s.1.length := by
  obtain ⟨k, s₁, hk, h⟩ := Eff.run_bind_eq_ok.mp h
  have hshrink := readString_shrinks hk
  split_ifs at h
  · cases h
  · obtain ⟨v, s₂, hv, h⟩ := Eff.run_bind_eq_ok.mp h
    cases h
    exact Nat.lt_of_le_of_lt (hchild.of_run hv).length_le hshrink

/-- A value takes at least its marker. -/
lemma decodeFrom_shrinks {fuel : ℕ} {s t : List UInt8 × Decoder} {v : Amf3Value}
    (h : (decodeFrom buf fuel).run s = (.ok v, t)) : t.1.length < s.1.length := by
  cases fuel with
  | zero => cases h
  | succ fuel =>
      obtain ⟨depth, s₁, hdepth, h⟩ := Eff.run_bind_eq_ok.mp h
      cases hdepth
      split_ifs at h
      · cases h
      · obtain ⟨_, s₂, henter, h⟩ := Eff.run_bind_eq_ok.mp h
        cases henter
        obtain ⟨result, s₃, hresult, h⟩ := Eff.run_bind_eq_ok.mp h
        obtain ⟨_, s₄, hleave, h⟩ := Eff.run_bind_eq_ok.mp h
        cases hleave
        rw [Eff.run_attempt, Prod.mk.injEq, Except.ok.injEq] at hresult
        obtain ⟨hresult, hs₃⟩ := hresult
        rw [Eff.run_ofExcept, Prod.mk.injEq] at h
        obtain ⟨rfl, rfl⟩ := h
        obtain ⟨marker, s₅, hmarker, hrest⟩ := Eff.run_bind_eq_ok.mp (Prod.ext hresult hs₃)
        have hbyte := byte_eq_ok.mp (Eff.run_onFst_eq_ok.mp hmarker).1
        have hle := ((readMarked_advances (decodeFrom_advances fuel) marker).of_run hrest).length_le
        change s.1 = _ at hbyte
        rw [hbyte]
        exact Nat.lt_succ_of_le hle

/-- What is left after a value, or after a refusal, is an end of the input. -/
theorem decode_advances : Eff.Along (flip List.IsSuffix) decode :=
  fun rest => (decodeFrom_advances decodeFuel (rest, {})).1

end Advances

end Rtmp.Amf3
