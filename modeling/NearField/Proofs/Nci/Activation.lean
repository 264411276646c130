import NearField.Nci.Notification

/-!
Reading the notification of an activation, and the attribute response in it. Main statements: both
are read back as they were written, with every length octet true to the end of what it counts.
-/

namespace NearField.Nci.Notification

theorem toNat_length {octets : Octets} (short : octets.length < 256) :
    octets.length.toUInt8.toNat = octets.length := UInt8.toNat_ofNat_of_lt' short

/-- Reads the payload of the notification. The first length octet counts the parameters of the
technology, the second one those of the activation, after which nothing follows. -/
def Activation.ofOctets? : Octets → Option Activation
  | discoveryId :: interface :: protocol :: techMode :: maxPayload :: credits :: count :: rest =>
    match rest.drop count.toNat with
    | exchangeMode :: txRate :: rxRate :: length :: activationParams =>
      if activationParams.length = length.toNat then do
        let interface ← Rf.Interface.ofCode? interface
        let protocol ← Rf.Protocol.ofCode? protocol
        let techMode ← Rf.TechMode.ofCode? techMode
        let exchangeMode ← Rf.TechMode.ofCode? exchangeMode
        return { discoveryId, interface, protocol, techMode, maxPayload, credits
                 techParams := rest.take count.toNat
                 exchangeMode, txRate, rxRate, activationParams }
      else none
    | _ => none
  | _ => none

theorem length_activated (activation : Activation) :
    (activated activation).payload.length =
      11 + activation.techParams.length + activation.activationParams.length := by
  simp only [activated, Packet.notification, Packet.whole, Packet.payload, List.length_append,
    List.length_cons, List.length_nil]
  omega

theorem ofOctets?_activated {activation : Activation}
    (tech : activation.techParams.length < 256)
    (params : activation.activationParams.length < 256) :
    Activation.ofOctets? (activated activation).payload = some activation := by
  have counted := toNat_length tech
  have sized := toNat_length params
  simp only [activated, Packet.notification, Packet.whole, Packet.payload, List.cons_append,
    List.nil_append, List.append_assoc, Activation.ofOctets?, counted, List.drop_left,
    List.take_left, sized, if_true, Rf.Interface.ofCode?_code, Rf.Protocol.ofCode?_code,
    Rf.TechMode.ofCode?_code]
  rfl

structure AttributeResponse where
  identifier : Octets
  device : UInt8
  sendRates : UInt8
  receiveRates : UInt8
  timeout : UInt8
  options : UInt8
  general : Octets
deriving DecidableEq, Repr

/-- Reads a response after its length octet, which counts all the octets that follow. -/
def AttributeResponse.ofOctets? : Octets → Option AttributeResponse
  | length :: response =>
    match response.drop 10 with
    | device :: sendRates :: receiveRates :: timeout :: options :: general =>
      if response.length = length.toNat then
        some { identifier := response.take 10
               device, sendRates, receiveRates, timeout, options, general }
      else none
    | _ => none
  | [] => none

theorem length_peerParams (identifier general : Octets) :
    (peerParams identifier general).length = 6 + identifier.length + general.length := by
  simp only [peerParams, List.length_cons, List.length_append, List.length_nil]
  omega

theorem ofOctets?_peerParams {identifier general : Octets} (ten : identifier.length = 10)
    (short : general.length < 241) :
    AttributeResponse.ofOctets? (peerParams identifier general) =
      some ⟨identifier, 0x00, 0x00, 0x00, 0x0e, 0x32, general⟩ := by
  have size : (identifier ++ [0x00, 0x00, 0x00, 0x0e, 0x32] ++ general).length < 256 := by
    simp only [List.length_append, List.length_cons, List.length_nil]
    omega
  have counted := toNat_length size
  rw [List.append_assoc] at counted
  simp only [peerParams, List.append_assoc, AttributeResponse.ofOctets?, List.drop_left' ten,
    List.take_left' ten, counted, if_true]
  rfl

end NearField.Nci.Notification
