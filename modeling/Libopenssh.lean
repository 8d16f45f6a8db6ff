import Libopenssh.Sshbuf
import Libopenssh.Keysign.ValidRequest
import Libopenssh.Keysign.Main
import Libopenssh.Kex.EcdhServer
import Libopenssh.Kex.Stages
import Libopenssh.Kex.Reply
import Libopenssh.Kex.SessionId
import Libopenssh.Kex.Cleanup
import Libopenssh.Proxy.Model
import Libopenssh.Proxy.Ops
import Libopenssh.Proxy.Invariant
import Libopenssh.Proxy.Loop
import Libopenssh.Proxy.Safety
import Libopenssh.Proxy.Output
import Libopenssh.Proxy.Delivery
import Libopenssh.Proxy.Main
import Libopenssh.Add.Model
import Libopenssh.Add.Zeroize
import Libopenssh.Proxy.Isolation
import Libopenssh.Add.Cache
import Libopenssh.Add.Agent
import Libopenssh.Proxy.Sockets
import Libopenssh.Proxy.Lifecycle
import Libopenssh.Add.Frees
