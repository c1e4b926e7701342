import NtexMqtt.V3.Types
import NtexMqtt.V3.Selector
import NtexMqtt.Proofs.Readiness
import NtexMqtt.Proofs.Builder
import NtexMqtt.Proofs.Dispatch
import NtexMqtt.Proofs.Connection
import NtexMqtt.Proofs.Extension
import NtexMqtt.Proofs.Timeout
import NtexMqtt.Proofs.Composite
