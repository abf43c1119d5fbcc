import Rtmp.Chunk.Reader
import Rtmp.Chunk.Protocol
import Rtmp.Chunk.Reading
import Rtmp.Chunk.Loop
import Rtmp.Chunk.Writer
import Rtmp.Chunk.Writing
import Rtmp.Chunk.Invariant
import Rtmp.Chunk.RoundTrip
import Rtmp.Chunk.Timeout
import Rtmp.Lib.Binary64
import Rtmp.Lib.Scan
import Rtmp.Amf.Value
import Rtmp.Amf3.Decoder
import Rtmp.Amf.Codec
import Rtmp.Amf.Grammar
import Rtmp.Amf.RoundTrip
import Rtmp.Amf.References
import Rtmp.Amf3.Encoder
import Rtmp.Amf3.References
import Rtmp.Amf3.RoundTrip
import Rtmp.Chunk.Safety
import Rtmp.Flv.ModEx
import Rtmp.Flv.Multitrack
import Rtmp.Flv.ExHeader
import Rtmp.Flv.Video
import Rtmp.Flv.Audio
import Rtmp.Message.Control
import Rtmp.Aggregate
import Rtmp.Message.Command
import Rtmp.SharedObject
import Rtmp.Session.Dispatch
import Rtmp.Session.Publish
import Rtmp.Lib.Nest
import Rtmp.Session.Alike
import Rtmp.Session.Isolation
import Rtmp.Session.Delivery
import Rtmp.Session.Aggregates
import Rtmp.Session.Client
import Rtmp.Session.Player
import Rtmp.Session.Abort
import Rtmp.Session.Send
import Rtmp.Session.Survival
import Rtmp.Amf.Respelling
import Rtmp.Session.Relay
import Rtmp.Session.Pings
import Rtmp.Flv.Tracks
import Rtmp.Message.Framings
import Rtmp.Flv.Crypt
import Rtmp.Flv.File
import Rtmp.Aggregate.Grammar
import Rtmp.Session.Acknowledgement
import Rtmp.Flv.Boundary
import Rtmp.Flv.Truncation
import Rtmp.Lib.OrderedMap
import Rtmp.Session.DataFrames
import Rtmp.SharedObject.RoundTrip
import Rtmp.Adapter.Packet
import Rtmp.Adapter.Source
import Rtmp.Adapter.Multitrack
import Rtmp.Adapter.Probe
import Rtmp.Adapter.EndOfStream
import Rtmp.Amf.Debug
import Rtmp.Message.Capabilities
import Rtmp.Session.Negotiation
import Rtmp.Session.Bandwidth
import Rtmp.Session.ChunkSize
import Rtmp.Adapter.Timeline
import Rtmp.Adapter.Times
import Rtmp.Message.StreamControl
import Rtmp.Session.Setup
import Rtmp.Flv.Demux
import Rtmp.Lib.Schema
import Rtmp.Flv.MetaData
import Rtmp.Flv.TrackInfo
import Rtmp.Session.Drain
import Rtmp.Lib.Meter
import Rtmp.Amf3.Metered
import Rtmp.Amf.Metered
import Rtmp.Flv.TrackIds
import Rtmp.Lib.Split
import Rtmp.Session.Reconnect
import Rtmp.Flv.ColorInfo
import Rtmp.Message.CapsRoundTrip
import Rtmp.Handshake.Digest
import Rtmp.Lib.Numbering
import Rtmp.Adapter.Layout
import Rtmp.Lib.Sha256
import Rtmp.Handshake.Hmac
import Rtmp.Handshake.Exchange
import Rtmp.Handshake.Agreement
import Rtmp.Lib.Replay
import Rtmp.Session.Online
import Rtmp.Session.Dialogue
import Rtmp.Session.Connect
import Rtmp.Session.PublishAgreement
import Rtmp.Session.PlayAgreement
import Rtmp.Session.Publication
import Rtmp.Session.Broadcast
