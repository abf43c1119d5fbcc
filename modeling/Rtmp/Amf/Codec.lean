import Rtmp.Amf3.Decoder

/-!
The AMF0 decoder and encoder.

* `readUtf8Short`, `readUtf8Long`: the two string forms;
* `decodeMarked`: one value whose marker decides the reader, children read by the function passed in;
* `decodeAtDepth`: the recursion, bounded by how many containers may still be opened;
* `decode`, `decodeAll`: one value from an offset, and all values of a packet with one reference
  table;
* `encode`: every value inline, references are never written.
-/

namespace Rtmp.Amf

/-- The values references can name: one entry for each container, in the order they were opened. -/
abbrev RefTable := List Amf0Value

/-- A step of the decoder over the bytes that are left and the reference table. -/
abbrev DecodeM (α : Type) := Eff Error (List UInt8 × RefTable) α

/-! ### Reading bytes -/

def readU8 : Eff Error (List UInt8) UInt8 := Scan.byte (.invalidAmf0 "truncated")

def readU16Be : Eff Error (List UInt8) ℕ := Scan.uintBe 2 (.invalidAmf0 "truncated u16")

def readU32Be : Eff Error (List UInt8) ℕ := Scan.uintBe 4 (.invalidAmf0 "truncated u32")

def readU64Be : Eff Error (List UInt8) ℕ := Scan.uintBe 8 (.invalidAmf0 "truncated u64")

def readI16Be : Eff Error (List UInt8) Int16 := do
  let v ← readU16Be
  pure (UInt16.ofNat v).toInt16

def readDouble : Eff Error (List UInt8) Binary64 := do
  let bits ← readU64Be
  pure ⟨UInt64.ofNat bits⟩

def readUtf8Body (n : ℕ) : Eff Error (List UInt8) String :=
  Scan.utf8 n
    (fun left => .invalidAmf0 ("truncated string: need " ++ toString n ++ ", have " ++ toString left))
    fun e => .invalidAmf0 ("non-UTF8 string: " ++ e)

def readUtf8Short : Eff Error (List UInt8) String := do
  let len ← readU16Be
  readUtf8Body len

def readUtf8Long : Eff Error (List UInt8) String := do
  let len ← readU32Be
  readUtf8Body len

/-! ### Decoding -/

/-- One property of an object body, or its end. -/
def readProperty (child : DecodeM Amf0Value) : DecodeM (Option (String × Amf0Value)) := do
  let key ← Eff.onFst readUtf8Short
  if key = "" then
    let mark ← Eff.onFst readU8
    if mark = 0x09 then pure none
    else Eff.fail (.invalidAmf0 ("expected OBJECT_END (0x09) after empty key, got " ++ hex mark))
  else
    let value ← child
    pure (some (key, value))

/-- Properties up to the object end. -/
def readObjectBody (child : DecodeM Amf0Value) : DecodeM (List (String × Amf0Value)) := do
  let unread ← Eff.onFst (Eff.gets List.length)
  Eff.collect (readProperty child) (unread + 1)

/-- A container takes its table slot, with an empty container in it, before its members are read, and
fills it afterwards. -/
def inSlot (empty : Amf0Value) (body : DecodeM Amf0Value) : DecodeM Amf0Value := do
  let slot ← Eff.onSnd (Eff.modifyGet fun refs : RefTable => (refs.length, refs ++ [empty]))
  let v ← body
  Eff.onSnd (Eff.modify fun refs => refs.set slot v)
  pure v

/-- A container with named members, built by `make`. -/
def readContainer (child : DecodeM Amf0Value) (make : List (String × Amf0Value) → Amf0Value) :
    DecodeM Amf0Value :=
  inSlot (make []) do
    let pairs ← readObjectBody child
    pure (make pairs)

def readStrictArray (child : DecodeM Amf0Value) (count : ℕ) : DecodeM Amf0Value :=
  inSlot (.strictArray []) do
    let items ← Eff.times child count
    pure (.strictArray items)

/-- The value a reference names. -/
def readReference : DecodeM Amf0Value := do
  let idx ← Eff.onFst readU16Be
  let refs ← Eff.onSnd (Eff.gets id)
  match refs[idx]? with
  | some v => pure v
  | none => Eff.fail (.invalidAmf0 ("AMF0 reference index " ++ toString idx
      ++ " out of range (table has " ++ toString refs.length ++ " entries)"))

/-- An AMF3 value embedded in the packet, with reference tables of its own. -/
def readAvmplus : DecodeM Amf0Value := do
  match ← Eff.onFst (Eff.attempt Amf3.decode) with
  | .ok v => pure v.toAmf0
  | .error e => Eff.fail (.invalidAmf0 ("embedded AMF3 value: " ++ e.display))

/-- One value by its marker. -/
def decodeMarked (child : DecodeM Amf0Value) : DecodeM Amf0Value := do
  let marker ← Eff.onFst readU8
  match marker with
  | 0x00 => do
      let n ← Eff.onFst readDouble
      pure (.number n)
  | 0x01 => do
      let b ← Eff.onFst readU8
      pure (.boolean (decide (b ≠ 0)))
  | 0x02 => do
      let s ← Eff.onFst readUtf8Short
      pure (.string s)
  | 0x0C => do
      let s ← Eff.onFst readUtf8Long
      pure (.string s)
  | 0x05 => pure .null
  | 0x06 => pure .undefined
  | 0x03 => readContainer child .object
  | 0x08 => do
      -- the count is advisory: the body is read to its end
      let _count ← Eff.onFst readU32Be
      readContainer child .ecmaArray
  | 0x0A => do
      let count ← Eff.onFst readU32Be
      readStrictArray child count
  | 0x0B => do
      let millis ← Eff.onFst readDouble
      let timezone ← Eff.onFst readI16Be
      pure (.date millis timezone)
  | 0x11 => readAvmplus
  | 0x0D => pure .unsupported
  | 0x0F => do
      let s ← Eff.onFst readUtf8Long
      pure (.xmlDocument s)
  | 0x10 => do
      let className ← Eff.onFst readUtf8Short
      readContainer child (.typedObject className)
  | 0x07 => readReference
  | other => Eff.fail (.invalidAmf0 ("unknown marker " ++ hex other))

/-- One value, with room for `room` more levels of containers; `room` is `maxDecodeDepth` less the
depth the value is read at. -/
def decodeAtDepth : (room : ℕ) → DecodeM Amf0Value
  | 0 => Eff.fail
      (.invalidAmf0 ("nested container depth exceeded " ++ toString maxDecodeDepth))
  | room + 1 => decodeMarked (decodeAtDepth room)

/-- One value of `buf` at the offset `pos`, with a reference table of its own, and the offset of its
end. -/
def decode (buf : List UInt8) (pos : ℕ) : Except Error Amf0Value × ℕ :=
  let r := (decodeAtDepth maxDecodeDepth).run (buf.drop pos, [])
  (r.1, pos + ((buf.drop pos).length - r.2.1.length))

/-- The next value, if there is any input left. -/
def decodeNext : DecodeM (Option Amf0Value) := do
  let unread ← Eff.onFst (Eff.gets id)
  if unread.isEmpty then pure none
  else
    let v ← decodeAtDepth maxDecodeDepth
    pure (some v)

/-- All values of a packet, sharing one reference table. -/
def decodeAll (buf : List UInt8) : Except Error (List Amf0Value) :=
  ((Eff.collect decodeNext (buf.length + 1)).run (buf, [])).1

/-! ### Encoding -/

/-- A string with a 16-bit length, cut to that width. -/
def writeUtf8Short (s : String) : List UInt8 :=
  Bytes.toBe 2 (Utf8.encode s).length ++ Utf8.encode s

/-- A string with a 32-bit length, cut to that width. -/
def writeUtf8Long (s : String) : List UInt8 :=
  Bytes.toBe 4 (Utf8.encode s).length ++ Utf8.encode s

mutual

/-- The bytes of one value. -/
def encode : Amf0Value → List UInt8
  | .number n => 0x00 :: Bytes.toBe 8 n.bits.toNat
  | .boolean b => [0x01, if b then 1 else 0]
  | .string s =>
      if (Utf8.encode s).length ≤ 65535 then 0x02 :: writeUtf8Short s
      else 0x0C :: writeUtf8Long s
  | .null => [0x05]
  | .undefined => [0x06]
  | .object pairs => 0x03 :: writeObjectBody pairs
  | .ecmaArray pairs => 0x08 :: (Bytes.toBe 4 pairs.length ++ writeObjectBody pairs)
  | .strictArray items => 0x0A :: (Bytes.toBe 4 items.length ++ encodeItems items)
  | .date millis timezone =>
      0x0B :: (Bytes.toBe 8 millis.bits.toNat ++ Bytes.toBe 2 timezone.toUInt16.toNat)
  | .unsupported => [0x0D]
  | .xmlDocument s => 0x0F :: writeUtf8Long s
  | .typedObject className properties =>
      0x10 :: (writeUtf8Short className ++ writeObjectBody properties)

/-- The bytes of the properties and of the object end. -/
def writeObjectBody : List (String × Amf0Value) → List UInt8
  | [] => [0, 0, 0x09]
  | (k, v) :: pairs => writeUtf8Short k ++ (encode v ++ writeObjectBody pairs)

/-- The bytes of values in a row. -/
def encodeItems : List Amf0Value → List UInt8
  | [] => []
  | v :: vs => encode v ++ encodeItems vs

end

/-- A command payload: its name, its transaction id, its command object and its arguments. -/
def encodeCommand (name : String) (transactionId : Binary64) (commandObject : Amf0Value)
    (args : List Amf0Value) : List UInt8 :=
  encodeItems (.string name :: .number transactionId :: commandObject :: args)

/-- An object of the given members. -/
def obj (pairs : List (String × Amf0Value)) : Amf0Value := .object pairs

/-- A reference stands for a copy of the container it names. -/
example : decodeAll [0x03, 0, 0, 0x09, 0x07, 0, 0] = .ok [.object [], .object []] := rfl

end Rtmp.Amf
