import XelisP2p.Core.Reader

namespace XelisP2p

/-!
# P2P — the error taxonomy

`p2p/error.rs`.  Only the variants that a modelled function returns are kept; the older
handshake decoder and the server use a few variants of an earlier version of the enum
(`InvalidMinSize`, `InvalidVersionSize`, `InvalidTagSize`, `InvalidUtf8Sequence`,
`InvalidPeerSize`, `OnWrite`), which are kept with the payloads they are built with.
-/

/-- `std::io::Error`, by the one thing the code inspects: whether its kind is `WouldBlock`. -/
inductive IoError
  | WouldBlock
  | Other
deriving DecidableEq, Repr

/-- `P2pError`. -/
inductive P2pError
  | Disconnected
  | InvalidNetworkID
  | PeerIdAlreadyUsed (peer_id : UInt64)
  | InvalidPeerAddress
  | ErrorStd (e : IoError)
  | SendError
  | ReaderError (e : ReaderError)
  | InvalidPacketSize
  | InvalidPacketNotFullRead
  | InvalidMinSize (size : Nat)
  | InvalidVersionSize (size : Nat)
  | InvalidTagSize (size : Nat)
  | InvalidUtf8Sequence
  | InvalidPeerSize (size : Nat)
  | OnWrite
deriving DecidableEq, Repr

end XelisP2p
