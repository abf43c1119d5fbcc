import Mathlib.Tactic

/-!
The error type every fallible operation of the crate returns, and the kinds of I/O failure it
wraps.
-/

namespace Rtmp

/-- The kinds of I/O failure the crate tells apart. -/
inductive IoErrorKind where
  | unexpectedEof
  | connectionReset
  | wouldBlock
  | timedOut
  | other
  deriving DecidableEq, Repr

/-- The ways RTMP goes wrong. -/
inductive Error where
  /-- Underlying read or write failure. -/
  | io (kind : IoErrorKind)
  /-- The peer closed the connection mid-protocol. -/
  | unexpectedEof
  /-- Bytes that match no valid AMF marker. -/
  | invalidAmf0 (text : String)
  /-- A chunk header shape or reserved value that cannot be interpreted. -/
  | invalidChunk (text : String)
  /-- A command without the expected name, transaction id or arguments. -/
  | invalidCommand (text : String)
  /-- A sub-protocol field outside its legal range. -/
  | protocolViolation (text : String)
  /-- A consumer refused the stream, with the reason it gave. -/
  | rejected (reason : String)
  /-- The deadline of a wait elapsed. -/
  | timeout
  /-- Everything else. -/
  | other (text : String)
  deriving DecidableEq, Repr

/-- A byte as error texts show it. -/
def hex (b : UInt8) : String := "0x" ++ String.ofList (Nat.toDigits 16 b.toNat)

/-- The kind of an I/O failure, in words. -/
def IoErrorKind.display : IoErrorKind → String
  | .unexpectedEof => "failed to fill whole buffer"
  | .connectionReset => "connection reset"
  | .wouldBlock => "operation would block"
  | .timedOut => "timed out"
  | .other => "other error"

/-- The text of an error. -/
def Error.display : Error → String
  | .io kind => "rtmp i/o: " ++ kind.display
  | .unexpectedEof => "rtmp: peer closed connection"
  | .invalidAmf0 text => "rtmp amf0: " ++ text
  | .invalidChunk text => "rtmp chunk: " ++ text
  | .invalidCommand text => "rtmp command: " ++ text
  | .protocolViolation text => "rtmp protocol: " ++ text
  | .rejected reason => "rtmp: publish rejected: " ++ reason
  | .timeout => "rtmp: timeout"
  | .other text => "rtmp: " ++ text

/-- A read deadline fired: the two kinds a socket with a read timeout reports. -/
def IoErrorKind.isTimeout : IoErrorKind → Bool
  | .wouldBlock | .timedOut => true
  | _ => false

/-- The peer is gone: the two kinds the sessions read as the end of the stream. -/
def IoErrorKind.isClosed : IoErrorKind → Bool
  | .unexpectedEof | .connectionReset => true
  | _ => false

end Rtmp
