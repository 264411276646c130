import NearField.Controller.Bank
import NearField.Octets.Sparse
import NearField.Proofs.Checked.Controller
import NearField.Proofs.Controller.Response
import NearField.Proofs.Controller.Signal
import NearField.Proofs.Controller.Window
import NearField.Proofs.Host.Transport
import NearField.Proofs.Llcp.Atomicity
import NearField.Proofs.Device.Coherence
import NearField.Proofs.Llcp.Delivery
import NearField.Proofs.Llcp.Dispatch
import NearField.Proofs.Llcp.Exchange
import NearField.Proofs.Llcp.Isolation
import NearField.Proofs.Llcp.Negotiation
import NearField.Proofs.Llcp.ParamCodec
import NearField.Proofs.Llcp.PduCodec
import NearField.Proofs.Controller.Orderly
import NearField.Proofs.Controller.Settlement
import NearField.Proofs.Controller.Interrupt
import NearField.Proofs.Controller.Ownership
import NearField.Proofs.Device.ParameterMap
import NearField.Proofs.Device.PipeMap
import NearField.Proofs.Llcp.Exhaustion
import NearField.Proofs.Nci.PacketCodec
import NearField.Proofs.Hci.MessageCodec
import NearField.Proofs.Controller.Restoration
import NearField.Proofs.Llcp.Vocabulary
import NearField.Proofs.Llcp.Encounter
import NearField.Proofs.Llcp.Rest
import NearField.Proofs.Device.Reset
import NearField.Proofs.Llcp.NumberedFrame
import NearField.Proofs.Llcp.ServiceName
import NearField.Proofs.Device.Mapping
import NearField.Proofs.Llcp.Ending
import NearField.Proofs.Llcp.Sending
import NearField.Proofs.Device.Discovery
import NearField.Proofs.Nci.CommandCodec
import NearField.Proofs.Llcp.ParamGrammar
import NearField.Proofs.Device.WriteBack
import NearField.Proofs.Checked.Writing
import NearField.Proofs.Llcp.Intake
import NearField.Proofs.Llcp.Recycling
