import AiProtocol.Library.Execution
import AiProtocol.Library.Rest
import AiProtocol.Library.Ledger
import AiProtocol.Library.Exchange
import AiProtocol.Library.Network
import AiProtocol.Library.Retry
import AiProtocol.Library.Lockstep
import AiProtocol.Library.Table
import AiProtocol.Gateway.Fifo
import AiProtocol.Gateway.Overtaking
import AiProtocol.Gateway.Admission
import AiProtocol.Gateway.Closure
import AiProtocol.Gateway.Wakeup
import AiProtocol.Gateway.Rest
import AiProtocol.Gateway.Served
import AiProtocol.Gateway.Errors
import AiProtocol.Gateway.Settlement
import AiProtocol.Gateway.Taxonomy
import AiProtocol.Gateway.Mounting
import AiProtocol.Gateway.Agreement
import AiProtocol.Gateway.Sharing
import AiProtocol.Gateway.Limits
import AiProtocol.Dispatcher.Replies
import AiProtocol.Dispatcher.Order
import AiProtocol.Dispatcher.Rest
import AiProtocol.Dispatcher.Patience
import AiProtocol.Dispatcher.Watch
import AiProtocol.Dispatcher.Throttle
import AiProtocol.Dispatcher.Aliases
import AiProtocol.Dispatcher.Wire
import AiProtocol.Client.Honest
import AiProtocol.Client.Retry
import AiProtocol.Client.Trackers
import AiProtocol.Client.Parameters
import AiProtocol.Client.Contract
import AiProtocol.Client.Origin
import AiProtocol.Client.References
import AiProtocol.Client.Paths
import AiProtocol.Client.Bodies
import AiProtocol.Client.Conformance
import AiProtocol.Sdk.Lifecycle
import AiProtocol.Sdk.Dispatched
import AiProtocol.Sdk.Tally
import AiProtocol.Sdk.Throttle
import AiProtocol.Sdk.Validation
import AiProtocol.EndToEnd.Relay
import AiProtocol.EndToEnd.Sdk
import AiProtocol.EndToEnd.Errors
