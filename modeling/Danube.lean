import Danube.Async.Runs
import Danube.Async.Journal
import Danube.Async.Coroutine
import Danube.Async.Overlap
import Danube.Errors
import Danube.RetryManager
import Danube.Connection
import Danube.Messages
import Danube.Client
import Danube.HealthCheck
import Danube.Event
import Danube.Endpoint
import Danube.MessageRouter
import Danube.TopicProducer
import Danube.Send
import Danube.Pool
import Danube.Producer
import Danube.TopicConsumer
import Danube.Receive
import Danube.Consumer
import Danube.Journaled
import Danube.Registration
import Danube.Asking
import Danube.Cleanup
import Danube.Failover
import Danube.SendPieces
import Danube.PoolJournal
import Danube.PoolTasks
import Danube.PoolTrace
import Danube.ConsumerJournal
import Danube.ConsumerTasks
import Danube.ReceiveTrace
import Danube.MessageLoss
import Danube.StreamFailure
import Danube.Partitions
import Danube.RoundRobin
import Danube.ProducerJournal
import Danube.ProducerTasks
import Danube.ProducerTrace
import Danube.SendBudget
import Danube.Coherence
import Danube.Recreation
import Danube.BrokerClose
import Danube.Attempts
import Danube.Async.Blocks
import Danube.TopicLog
import Danube.CallOrder
import Danube.KeyOrder
import Danube.SchemaPieces
import Danube.MessageSchema
import Danube.UnmetSchema
import Danube.Unstopped
import Danube.FailedCalls
import Danube.FanIn
import Danube.ConsumerClose
import Danube.PoolSteps
import Danube.ConsumerSteps
import Danube.StreamOpening
import Danube.Resubscription
import Danube.AckCoherence
import Danube.OneHealthCheck
import Danube.KeyHash
import Danube.ConnectionCache
import Danube.Acknowledgement
import Danube.Builders
import Danube.Reregistration
import Danube.RetryTrace
import Danube.SendRuns
import Danube.Async.Numbering
import Danube.Async.Past
import Danube.Setters
import Danube.PoolMoves
import Danube.Session
import Danube.SessionSteps
import Danube.EndpointMoves
import Danube.RequestIds
import Danube.Destinations
import Danube.Tokens
import Danube.Silence
import Danube.Wire
import Danube.Async.Coupled
import Danube.Alike
import Danube.AlikeTasks
import Danube.AlikePools
import Danube.AlikeProducers
import Danube.AlikeConsumers
import Danube.Isolation
import Danube.Granted
import Danube.Consulting
import Danube.GrantedSends
import Danube.GrantedChildren
import Danube.GrantedCreation
import Danube.GrantedSubscription
