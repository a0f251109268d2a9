import XelisP2p.Core.Method
import XelisP2p.Core.Bytes
import XelisP2p.Core.Reader
import XelisP2p.Core.Writer
import XelisP2p.Globals
import XelisP2p.P2p.Error
import XelisP2p.P2p.Packet.Handshake
import XelisP2p.P2p.Connection
import XelisP2p.P2p.ConnectionTasks
import XelisP2p.P2p.Handshake
import XelisP2p.P2p.HandshakeSafety
import XelisP2p.Core.KeyMap
import XelisP2p.P2p.Server.State
import XelisP2p.P2p.Server.Run
import XelisP2p.P2p.Server.Registry
import XelisP2p.P2p.Server.Start
import XelisP2p.P2p.Server.Limit
import XelisP2p.P2p.Server.Dispatch
import XelisP2p.P2p.Server.Network
import XelisP2p.P2p.Server.Queue
import XelisP2p.P2p.Server.Order
import XelisP2p.P2p.Packet.Object
import XelisP2p.Crypto.Hash
import XelisP2p.P2p.Server.Shutdown
import XelisP2p.P2p.Server.Gossip
