import Rtmp.Lib.Binary64

/-!
The values of the two Action Message Formats.

* `Amf0Value`, `Amf3Value`: ordered association lists stand for objects in both;
* `Amf0Value.get` and its neighbours: the accessors the command handlers use;
* `Amf3Value.toAmf0`: the projection of an AMF3 value on the AMF0 shape its consumers read;
* `height`: how deep a value is; a scalar counts one.
-/

namespace Rtmp

/-- One AMF0 value. -/
inductive Amf0Value where
  | number (n : Binary64)
  | boolean (b : Bool)
  | string (s : String)
  | object (pairs : List (String × Amf0Value))
  | null
  | undefined
  | ecmaArray (pairs : List (String × Amf0Value))
  | strictArray (items : List Amf0Value)
  | date (millis : Binary64) (timezone : Int16)
  | unsupported
  | xmlDocument (s : String)
  | typedObject (className : String) (properties : List (String × Amf0Value))
  deriving Repr

/-- One AMF3 value, its references resolved. -/
inductive Amf3Value where
  | undefined
  | null
  | boolean (b : Bool)
  | integer (n : Int32)
  | double (n : Binary64)
  | string (s : String)
  | xmlDocument (s : String)
  | xml (s : String)
  | date (millis : Binary64)
  | array (dense : List Amf3Value) (assoc : List (String × Amf3Value))
  | object (className : String) (isDynamic : Bool) (sealedMembers : List (String × Amf3Value))
      (dynamicMembers : List (String × Amf3Value)) (externalizableBody : Option (List UInt8))
  | byteArray (bytes : List UInt8)
  | vectorInt (fixed : Bool) (items : List Int32)
  | vectorUInt (fixed : Bool) (items : List UInt32)
  | vectorDouble (fixed : Bool) (items : List Binary64)
  | vectorObject (fixed : Bool) (objectTypeName : String) (items : List Amf3Value)
  | dictionary (weakKeys : Bool) (entries : List (Amf3Value × Amf3Value))
  deriving Repr

/-- Hard cap on nested containers, the same for both formats. -/
def maxDecodeDepth : ℕ := 64

namespace Amf0Value

/-- A direct member by name; the first of two with one name wins. -/
def get (key : String) : Amf0Value → Option Amf0Value
  | object ps | ecmaArray ps | typedObject _ ps => (ps.find? fun p => p.1 == key).map Prod.snd
  | _ => none

def asStr : Amf0Value → Option String
  | string s => some s
  | _ => none

def asF64 : Amf0Value → Option Binary64
  | number n => some n
  | _ => none

def asBool : Amf0Value → Option Bool
  | boolean b => some b
  | _ => none

/-! ### Measures -/

mutual

/-- How many containers lie around the deepest scalar or empty container, itself included. -/
def height : Amf0Value → ℕ
  | object ps | ecmaArray ps | typedObject _ ps => heightPairs ps + 1
  | strictArray vs => heightList vs + 1
  | _ => 1

def heightPairs : List (String × Amf0Value) → ℕ
  | [] => 0
  | (_, v) :: ps => max (height v) (heightPairs ps)

def heightList : List Amf0Value → ℕ
  | [] => 0
  | v :: vs => max (height v) (heightList vs)

end

end Amf0Value

namespace Amf3Value

mutual

/-- How many containers lie around the deepest scalar or empty container, itself included. -/
def height : Amf3Value → ℕ
  | array dense assoc => max (heightList dense) (heightPairs assoc) + 1
  | object _ _ sealedMembers dynamicMembers _ =>
      max (heightPairs sealedMembers) (heightPairs dynamicMembers) + 1
  | vectorObject _ _ items => heightList items + 1
  | dictionary _ entries => heightEntries entries + 1
  | _ => 1

def heightPairs : List (String × Amf3Value) → ℕ
  | [] => 0
  | (_, v) :: ps => max (height v) (heightPairs ps)

def heightList : List Amf3Value → ℕ
  | [] => 0
  | v :: vs => max (height v) (heightList vs)

def heightEntries : List (Amf3Value × Amf3Value) → ℕ
  | [] => 0
  | (k, v) :: es => max (max (height k) (height v)) (heightEntries es)

end

/-! ### The AMF0 view -/

/-- The text of a value used as a dictionary key; a placeholder for the complex ones. -/
def keyToString : Amf3Value → String
  | string s | xml s | xmlDocument s => s
  | integer n => toString n.toInt
  | double n => n.display
  | boolean b => toString b
  | null => "null"
  | undefined => "undefined"
  | _ => "[object]"

/-- Values under their stringified positions. -/
def ordinalPairs (vs : List Amf0Value) : List (String × Amf0Value) :=
  vs.zipIdx.map fun p => (toString p.2, p.1)

/-- A vector or a byte array: its elements as AMF0 numbers. -/
def numberArray (ns : List Binary64) : Amf0Value := .strictArray (ns.map .number)

mutual

/-- The AMF0 value a consumer of AMF0 sees. -/
def toAmf0 : Amf3Value → Amf0Value
  | undefined => .undefined
  | null => .null
  | boolean b => .boolean b
  | integer n => .number (Binary64.ofInt n.toInt)
  | double n => .number n
  | string s | xmlDocument s | xml s => .string s
  | date millis => .date millis 0
  | array dense assoc => .ecmaArray (ordinalPairs (toAmf0List dense) ++ toAmf0Pairs assoc)
  | object _ _ sealedMembers dynamicMembers _ =>
      .object (toAmf0Pairs sealedMembers ++ toAmf0Pairs dynamicMembers)
  | byteArray bytes => numberArray (bytes.map fun b => Binary64.ofNat b.toNat)
  | vectorInt _ items => numberArray (items.map fun n => Binary64.ofInt n.toInt)
  | vectorUInt _ items => numberArray (items.map fun n => Binary64.ofNat n.toNat)
  | vectorDouble _ items => numberArray items
  | vectorObject _ _ items => .strictArray (toAmf0List items)
  | dictionary _ entries => .ecmaArray (toAmf0Entries entries)

def toAmf0List : List Amf3Value → List Amf0Value
  | [] => []
  | v :: vs => toAmf0 v :: toAmf0List vs

def toAmf0Pairs : List (String × Amf3Value) → List (String × Amf0Value)
  | [] => []
  | (k, v) :: ps => (k, toAmf0 v) :: toAmf0Pairs ps

def toAmf0Entries : List (Amf3Value × Amf3Value) → List (String × Amf0Value)
  | [] => []
  | (k, v) :: es => (keyToString k, toAmf0 v) :: toAmf0Entries es

end

/-- The dense part of an array comes under ordinals, before the named part. -/
example : (array [null, boolean true] [("a", undefined)]).toAmf0
    = .ecmaArray [("0", .null), ("1", .boolean true), ("a", .undefined)] := rfl

end Amf3Value

end Rtmp
