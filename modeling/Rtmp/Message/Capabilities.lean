import Rtmp.Lib.OrderedMap
import Rtmp.Message.Command

/-!
The capability block that both sides put into the connect exchange.

* `FourCcInfoMap`: masks by FourCC or wildcard, in the order they were inserted;
* `ConnectCapabilities.encodeInto`, `ConnectCapabilities.fromAmf0`: the block among the properties of an
  object, and back;
* `extractServerCaps`: the block of a server's reply.
-/

namespace Rtmp

/-- Masks by FourCC; the wildcard stands for all of them. -/
abbrev FourCcInfoMap := OrderedMap String UInt32

/-- A number that is a mask, saturated to 32 bits. -/
def maskOf (n : Binary64) : Option UInt32 :=
  if n.isFinite && Binary64.le (.ofNat 0) n then
    some (if Binary64.le (.ofNat 0xFFFFFFFF) n then 0xFFFFFFFF else n.toU32)
  else none

namespace FourCcInfoMap

def toAmf0 (m : FourCcInfoMap) : Amf0Value :=
  .object (m.entries.map fun e => (e.1, .number (.ofNat e.2.toNat)))

/-- The members of an object that are masks; of two of one name the last gives the mask. -/
def fromAmf0 (v : Amf0Value) : FourCcInfoMap :=
  let pairs := match v with
    | .object ps => ps
    | .ecmaArray ps => ps
    | _ => []
  pairs.foldl (fun out p =>
    match p.2 with
    | .number n => (maskOf n).elim out fun mask => out.upsert p.1 mask
    | _ => out) .empty

end FourCcInfoMap

/-- What one side of a connection can do beyond the original protocol. -/
structure ConnectCapabilities where
  fourccList : List String
  videoFourccInfoMap : FourCcInfoMap
  audioFourccInfoMap : FourCcInfoMap
  capsEx : UInt32
  objectEncoding : Option UInt8

namespace ConnectCapabilities

def default : ConnectCapabilities := ⟨[], .empty, .empty, 0, none⟩

/-- The properties that say so; what is empty is left out. -/
def encodeInto (c : ConnectCapabilities) : List (String × Amf0Value) :=
  (c.objectEncoding.map fun enc => ("objectEncoding", Amf0Value.number (.ofNat enc.toNat))).toList
    ++ (if c.fourccList.isEmpty then []
      else [("fourCcList", Amf0Value.strictArray (c.fourccList.map .string))])
    ++ (if c.videoFourccInfoMap.entries.isEmpty then []
      else [("videoFourCcInfoMap", c.videoFourccInfoMap.toAmf0)])
    ++ (if c.audioFourccInfoMap.entries.isEmpty then []
      else [("audioFourCcInfoMap", c.audioFourccInfoMap.toAmf0)])
    ++ (if c.capsEx = 0 then [] else [("capsEx", Amf0Value.number (.ofNat c.capsEx.toNat))])

/-- Take up one property; a property of another name or type says nothing. -/
def take (out : ConnectCapabilities) (key : String) (val : Amf0Value) : ConnectCapabilities :=
  if key = "objectEncoding" then
    match val with
    | .number n =>
        if n.isFinite && Binary64.le (.ofNat 0) n && Binary64.le n (.ofNat 255) then
          { out with objectEncoding := some n.toU32.toUInt8 }
        else out
    | _ => out
  else if key = "fourCcList" then
    match val with
    | .strictArray items => { out with fourccList := items.filterMap Amf0Value.asStr }
    | _ => out
  else if key = "videoFourCcInfoMap" then
    { out with videoFourccInfoMap := FourCcInfoMap.fromAmf0 val }
  else if key = "audioFourCcInfoMap" then
    { out with audioFourccInfoMap := FourCcInfoMap.fromAmf0 val }
  else if key = "capsEx" then
    match val with
    | .number n => (maskOf n).elim out fun mask => { out with capsEx := mask }
    | _ => out
  else out

/-- The block among the properties of an object. -/
def fromAmf0 (v : Amf0Value) : ConnectCapabilities :=
  let pairs := match v with
    | .object ps => ps
    | .ecmaArray ps => ps
    | _ => []
  pairs.foldl (fun out p => out.take p.1 p.2) .default

/-- The object encoding alone does not count: every older server sends it. -/
def hasEnhancedRtmpProperty (c : ConnectCapabilities) : Bool :=
  !c.fourccList.isEmpty || !c.videoFourccInfoMap.entries.isEmpty
    || !c.audioFourccInfoMap.entries.isEmpty || decide (c.capsEx ≠ 0)

end ConnectCapabilities

/-- The block of the first object in a reply that has one. -/
def extractServerCaps : List Amf0Value → ConnectCapabilities
  | [] => .default
  | v :: values =>
      match v with
      | .object _ | .ecmaArray _ =>
          let caps := ConnectCapabilities.fromAmf0 v
          if caps.hasEnhancedRtmpProperty then caps else extractServerCaps values
      | _ => extractServerCaps values

/-! ### The commands of the exchange -/

/-- A command of the session itself, on no message stream. -/
def sessionCommand (name : String) (transactionId : Binary64) (commandObject : Amf0Value)
    (args : List Amf0Value) : Message :=
  commandMessage 0 name transactionId commandObject args

def buildConnectWithCaps (transactionId : Binary64) (app tcUrl flashVer : String)
    (caps : ConnectCapabilities) : Message :=
  sessionCommand "connect" transactionId
    (.object ([("app", .string app), ("type", .string "nonprivate"), ("flashVer", .string flashVer),
      ("tcUrl", .string tcUrl), ("fpad", .boolean false), ("capabilities", .number (.ofNat 15)),
      ("audioCodecs", .number (.ofNat 0x0FFF)), ("videoCodecs", .number (.ofNat 0x00FF)),
      ("videoFunction", .number (.ofNat 1))] ++ caps.encodeInto)) []

/-- The info object of the reply says that the object encoding is AMF0, unless `caps` says another. -/
def buildConnectResultWithCaps (transactionId : Binary64) (caps : ConnectCapabilities) : Message :=
  sessionCommand "_result" transactionId
    (.object [("fmsVer", .string "FMS/3,0,1,123"), ("capabilities", .number (.ofNat 31)),
      ("mode", .number (.ofNat 1))])
    [.object ([("level", .string "status"), ("code", .string "NetConnection.Connect.Success"),
      ("description", .string "Connection accepted.")]
      ++ (if caps.objectEncoding.isNone then [("objectEncoding", .number (.ofNat 0))] else [])
      ++ caps.encodeInto)]

def buildReleaseStream (transactionId : Binary64) (streamName : String) : Message :=
  sessionCommand "releaseStream" transactionId .null [.string streamName]

def buildFcPublish (transactionId : Binary64) (streamName : String) : Message :=
  sessionCommand "FCPublish" transactionId .null [.string streamName]

def buildCreateStream (transactionId : Binary64) : Message :=
  sessionCommand "createStream" transactionId .null []

def buildCreateStreamResult (transactionId streamId : Binary64) : Message :=
  sessionCommand "_result" transactionId .null [.number streamId]

def buildPublish (transactionId : Binary64) (streamId : UInt32) (streamName publishType : String) :
    Message :=
  commandMessage streamId "publish" transactionId .null [.string streamName, .string publishType]

def statusPlayStart : String := "NetStream.Play.Start"
def statusPlayReset : String := "NetStream.Play.Reset"
def statusPlayStreamNotFound : String := "NetStream.Play.StreamNotFound"
def statusPublishStart : String := "NetStream.Publish.Start"
def statusPublishBadName : String := "NetStream.Publish.BadName"

def buildOnStatus (streamId : UInt32) (level code description : String) : Message :=
  commandMessage streamId "onStatus" (.ofNat 0) .null
    [.object [("level", .string level), ("code", .string code), ("description", .string description)]]

end Rtmp
