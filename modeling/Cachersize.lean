import Cachersize.Concurrent.LocalHistory
import Cachersize.Concurrent.RelyGuarantee
import Cachersize.Concurrent.Linearizability
import Cachersize.Provider.Replay
import Cachersize.Provider.Responses
import Cachersize.Provider.Linearization
import Cachersize.Provider.Destruction
import Cachersize.Concurrent.Restriction
import Cachersize.Provider.Intrusion
import Cachersize.Client.AsyncRequest
import Cachersize.Provider.Lifetime
import Cachersize.Client.Effects
import Cachersize.Client.Session
import Cachersize.Client.Delivery
import Cachersize.Client.Consumption
import Cachersize.Provider.Reply
import Cachersize.Client.Agreement
import Cachersize.Client.Settlement
import Cachersize.Provider.Bindings
import Cachersize.Network.Calls
import Cachersize.Network.Routing
import Cachersize.Network.Handles
import Cachersize.Client.Transfer
import Cachersize.Client.Loss
import Cachersize.Provider.Changes
import Cachersize.Registration
import Cachersize.Wire.Archive
import Cachersize.Serialization
import Cachersize.Concurrent.Lockstep
import Cachersize.Provider.Uninitialised
import Cachersize.Concurrent.Gate
import Cachersize.Client.Waiters
import Cachersize.Concurrent.Locality
import Cachersize.Network.Guarantees
import Cachersize.Network.Linearization
import Cachersize.Network.Settling
import Cachersize.Network.Bytes
import Cachersize.Provider.Authorisation
import Cachersize.Provider.Ownership
import Cachersize.Client.Bounded
import Cachersize.Client.Origins
import Cachersize.Network.Clients
import Cachersize.Network.ExactlyOnce
import Cachersize.Provider.Orphans
import Cachersize.Provider.Server
import Cachersize.Network.Greetings
