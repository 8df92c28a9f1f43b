import RescueProxy.Basic
import RescueProxy.Handler
import RescueProxy.Event
import RescueProxy.Replay
import RescueProxy.Init
import RescueProxy.Chain
import RescueProxy.Integrity
import RescueProxy.FeeRecipient
import RescueProxy.Ingestor
import RescueProxy.Ingestor.Invariants
import RescueProxy.Ingestor.HighestBlock
import RescueProxy.Ingestor.Shutdown
import RescueProxy.Ingestor.Panic
import RescueProxy.Ingestor.Coverage
import RescueProxy.Ingestor.Integrity
import RescueProxy.Ingestor.Nodes
import RescueProxy.Ingestor.Reconnect
import RescueProxy.Ingestor.Liveness
