import NearField.Nci.Notification
import NearField.Nci.Response
import NearField.Proofs.Checked.Reader
import NearField.Proofs.Nci.Command
import Mathlib.Tactic.SplitIfs

/-!
Packets and commands of the controller interface, read, built and written with every access and
every sum checked. Main statements: reading a packet or a command never faults, and writing a packet
does what laying its octets over the buffer does.
-/

namespace NearField.Nci

open Octets (checkedByteAt)

namespace Packet

def checkedDecode (bytes : Octets) : Attempt Packet := do
  settled (bytes.require packetHeaderLength)
  let b0 ← bytes.checkedByteAt 0
  let type ← settled (MessageType.ofCode (b0 >>> 5))
  let length ← bytes.checkedGet 2
  let stop ← Size.add packetHeaderLength length.toNat
  settled (bytes.require stop)
  let payload ← bytes.checkedSlice packetHeaderLength stop
  let more := b0 &&& 0x10 != 0
  match type with
  | .data => return .data more (b0 &&& 0x0f) payload
  | type => do
    let b1 ← bytes.checkedGet 1
    return .control type more (b0 &&& 0x0f) (b1 &&& 0x3f) payload

def checkedEncodedLength (packet : Packet) : Checked Nat :=
  Size.add packetHeaderLength packet.payload.length

def checkedEncodeInto (packet : Packet) (buffer : Octets) : Checked (Except Error Nat × Octets) :=
  if maxPayload < packet.payload.length then
    return (.error (.invalidLength maxPayload packet.payload.length), buffer)
  else do
    let total ← packet.checkedEncodedLength
    buffer.withRoom total do
      let buffer ← buffer.checkedSet 0 packet.lead.1
      let buffer ← buffer.checkedSet 1 packet.lead.2
      let buffer ← buffer.checkedSet 2 packet.payload.length.toUInt8
      let buffer ← buffer.checkedCopy packetHeaderLength total packet.payload
      return (.ok total, buffer)

def checkedEncode (packet : Packet) : Attempt Octets := do
  let room ← packet.checkedEncodedLength
  Octets.checkedOwned room packet.checkedEncodeInto

theorem checkedDecode_eq (bytes : Octets) : checkedDecode bytes = settled (decode bytes) := by
  match bytes with
  | [] | [_] | [_, _] => rfl
  | b0 :: b1 :: length :: rest =>
    have bound : length.toNat < 256 := length.toNat_lt
    have long : ¬(b0 :: b1 :: length :: rest).length < packetHeaderLength := by
      simp [packetHeaderLength]
    have needed : (b0 :: b1 :: length :: rest).length = packetHeaderLength + rest.length := by
      simp only [List.length_cons, packetHeaderLength]
      omega
    have header : packetHeaderLength = 3 := rfl
    rw [checkedDecode, Octets.require, if_neg long, settled_ok, pure_bind,
      Octets.checkedByteAt_eq _ (by decide), decode]
    change settled (.ok b0) >>= _ = _
    rw [settled_ok, pure_bind, settled_bind]
    congr 1
    funext type
    change (liftM (pure length : Checked UInt8) : Attempt UInt8) >>= _ = _
    rw [lift_pure, pure_bind, Size.add_small (by omega), lift_pure, pure_bind, Octets.require,
      needed]
    by_cases short : rest.length < length.toNat
    · rw [if_pos (by omega), if_pos short]
      rfl
    · rw [if_neg (by omega), if_neg short, settled_ok, pure_bind,
        Octets.checkedSlice_le (by omega) (by omega), Nat.add_sub_cancel_left, lift_pure,
        pure_bind]
      cases type <;> rfl

theorem checkedEncodeInto_eq (packet : Packet) (buffer : Octets) :
    packet.checkedEncodeInto buffer = pure (buffer.place packet.encode) := by
  unfold checkedEncodeInto encode
  by_cases long : maxPayload < packet.payload.length
  · rw [if_pos long, if_pos long]
    rfl
  · have short : packet.payload.length ≤ 255 := Nat.not_lt.mp long
    have header : packetHeaderLength = 3 := rfl
    rw [if_neg long, if_neg long, checkedEncodedLength, Size.add_small (by omega), pure_bind]
    refine Octets.withRoom_eq (Nat.add_comm _ _) fun inside => ?_
    simp only [List.length_cons] at inside
    rw [Octets.checkedSet_lt (by omega), pure_bind,
      Octets.checkedSet_lt (by rw [List.length_set]; omega), pure_bind,
      Octets.checkedSet_lt (by simp only [List.length_set]; omega), pure_bind,
      Octets.checkedCopy_eq (by omega) (by simp only [List.length_set]; omega), pure_bind,
      header, Octets.overlay_cons _ _ (by simp only [List.length_set]; omega),
      Octets.overlay_cons _ _ (by rw [List.length_set]; omega),
      Octets.overlay_cons _ _ (by omega)]

theorem checkedEncode_eq (packet : Packet) (short : packet.payload.length < 65533) :
    packet.checkedEncode = settled packet.encode := by
  have header : packetHeaderLength = 3 := rfl
  rw [checkedEncode, checkedEncodedLength, Size.add_small (by omega), lift_pure, pure_bind]
  refine Octets.checkedOwned_eq (packet.checkedEncodeInto_eq _) fun bytes encoded => ?_
  obtain ⟨_, rfl⟩ := encode_ok encoded
  simp only [List.length_cons]
  omega

end Packet

def DiscoverMapping.checkedOfOctets (entry : Octets) : Attempt DiscoverMapping := do
  let e0 ← entry.checkedGet 0
  let protocol ← settled (Rf.Protocol.ofCode e0)
  let mode ← entry.checkedGet 1
  let e2 ← entry.checkedGet 2
  let interface ← settled (Rf.Interface.ofCode e2)
  return { protocol, mode, interface }

def DiscoverConfig.checkedOfOctets (entry : Octets) : Attempt DiscoverConfig := do
  let e0 ← entry.checkedGet 0
  let techMode ← settled (Rf.TechMode.ofCode e0)
  let frequency ← entry.checkedGet 1
  return { techMode, frequency }

namespace Command

def checkedDecode (opcode : Opcode) (payload : Octets) : Attempt Command := do
  if opcode = .coreReset then return .coreReset (← payload.checkedByteAt 0)
  else if opcode = .coreInit then return .coreInit
  else if opcode = .coreSetConfig then
    let count ← payload.checkedByteAt 0
    return .coreSetConfig (← payload.checkedTaggedEntries 1 count.toNat)
  else if opcode = .coreGetConfig then
    let entries ← payload.checkedCountedEntries 1
    return .coreGetConfig (← entries.mapM fun entry => entry.checkedGet 0)
  else if opcode = .rfDiscoverMap then
    let entries ← payload.checkedCountedEntries 3
    return .rfDiscoverMap (← entries.mapM DiscoverMapping.checkedOfOctets)
  else if opcode = .rfDiscover then
    let entries ← payload.checkedCountedEntries 2
    return .rfDiscover (← entries.mapM DiscoverConfig.checkedOfOctets)
  else if opcode = .rfDeactivate then return .rfDeactivate (← payload.checkedByteAt 0)
  else return .unsupported opcode

end Command

theorem checkedGet_byteAt {entry : Octets} {pos : Nat} (inside : pos < entry.length) :
    (entry.checkedGet pos : Attempt UInt8) = settled (entry.byteAt pos) := by
  rw [Octets.checkedGet_lt inside, Octets.byteAt, List.getElem?_eq_getElem inside]
  rfl

theorem DiscoverMapping.checkedOfOctets_eq {entry : Octets} (whole : entry.length = 3) :
    checkedOfOctets entry = settled (ofOctets entry) := by
  rw [checkedOfOctets, ofOctets, checkedGet_byteAt (by omega), settled_bind]
  congr 1
  funext e0
  rw [settled_bind]
  congr 1
  funext protocol
  rw [checkedGet_byteAt (by omega), settled_bind]
  congr 1
  funext mode
  rw [checkedGet_byteAt (by omega), settled_bind]
  congr 1
  funext e2
  rw [settled_bind]
  rfl

theorem DiscoverConfig.checkedOfOctets_eq {entry : Octets} (whole : entry.length = 2) :
    checkedOfOctets entry = settled (ofOctets entry) := by
  rw [checkedOfOctets, ofOctets, checkedGet_byteAt (by omega), settled_bind]
  congr 1
  funext e0
  rw [settled_bind]
  congr 1
  funext techMode
  rw [checkedGet_byteAt (by omega), settled_bind]
  rfl

theorem mapM_settled {α β : Type} {items : List α} {checked : α → Attempt β}
    {total : α → Except Error β} (each : ∀ item ∈ items, checked item = settled (total item)) :
    items.mapM checked = settled (items.mapM total) := by
  induction items with
  | nil => rfl
  | cons item items ih =>
    obtain ⟨first, others⟩ := List.forall_mem_cons.mp each
    rw [List.mapM_cons, List.mapM_cons, first, ih others, settled_bind]
    congr 1
    funext value
    rw [settled_bind]
    rfl

/-- A counted list whose entries are each read alike is read alike. -/
theorem checkedEntries_eq {α : Type} (payload : Octets) {width : Nat} (positive : 0 < width)
    (narrow : width ≤ 16) {checked : Octets → Attempt α} {total : Octets → Except Error α}
    (each : ∀ entry : Octets, entry.length = width → checked entry = settled (total entry))
    (command : List α → Command) :
    (do
      let entries ← payload.checkedCountedEntries width
      return command (← entries.mapM checked)) =
    settled (do
      let entries ← payload.countedEntries width
      return command (← entries.mapM total)) := by
  rw [Octets.checkedCountedEntries_eq payload positive narrow]
  cases read : payload.countedEntries width with
  | error e => rfl
  | ok entries =>
    have whole := (Octets.countedEntries_shape read).2
    rw [settled_ok, pure_bind, mapM_settled fun entry inside => each entry (whole entry inside)]
    change _ = settled (entries.mapM total >>= _)
    rw [settled_bind]
    rfl

theorem Command.checkedDecode_eq (opcode : Opcode) {payload : Octets}
    (short : payload.length < 32768) :
    checkedDecode opcode payload = settled (decode opcode payload) := by
  have first := Octets.checkedByteAt_eq payload (show 0 < 65535 by decide)
  unfold checkedDecode decode
  split_ifs
  · rw [first, settled_bind]
    rfl
  · rfl
  · rw [first]
    cases read : payload.byteAt 0 with
    | error e => rfl
    | ok count =>
      have present : 1 ≤ payload.length := Octets.byteAt_inside read
      rw [settled_ok, pure_bind, Octets.checkedTaggedEntries_eq short _ present]
      change _ = settled (payload.taggedEntries 1 count.toNat >>= _)
      rw [settled_bind]
      rfl
  · exact checkedEntries_eq payload (by decide) (by decide)
      (fun entry whole => checkedGet_byteAt (by omega)) .coreGetConfig
  · exact checkedEntries_eq payload (by decide) (by decide)
      (fun entry whole => DiscoverMapping.checkedOfOctets_eq whole) .rfDiscoverMap
  · exact checkedEntries_eq payload (by decide) (by decide)
      (fun entry whole => DiscoverConfig.checkedOfOctets_eq whole) .rfDiscover
  · rw [first, settled_bind]
    rfl
  · rfl

/-- The answer to an initialisation, for which memory is set aside beforehand. -/
def Response.checkedCoreInit (status : UInt8) (interfaces : List Rf.Interface)
    (maxConnections : UInt8) : Checked Packet := do
  let _ ← Size.add 17 interfaces.length
  return coreInit status interfaces maxConnections

def Response.checkedEntriesLength (params : List (UInt8 × Octets)) : Checked Nat := do
  let lengths ← params.mapM fun param => Size.add 2 param.2.length
  Size.add 2 (← Size.sum lengths)

def Notification.checkedActivated (activation : Activation) : Checked Packet := do
  let fixed ← Size.add 11 activation.techParams.length
  let _ ← Size.add fixed activation.activationParams.length
  return activated activation

def Notification.checkedPeerParams (identifier general : Octets) : Checked Octets := do
  let head ← Size.add identifier.length 5
  let length ← Size.add head general.length
  let _ ← Size.add 1 length
  return length.toUInt8 :: (identifier ++ [0x00, 0x00, 0x00, 0x0e, 0x32] ++ general)

theorem Response.checkedCoreInit_eq (status : UInt8) {interfaces : List Rf.Interface}
    (few : interfaces.length < 256) (maxConnections : UInt8) :
    checkedCoreInit status interfaces maxConnections =
      pure (coreInit status interfaces maxConnections) := by
  rw [checkedCoreInit, Size.add_small (by omega), pure_bind]

theorem Response.length_entries (params : List (UInt8 × Octets)) :
    (entries params).length = (params.map fun param => 2 + param.2.length).sum := by
  induction params with
  | nil => rfl
  | cons param params ih =>
    rw [entries, List.flatMap_cons, List.length_append, ← entries, ih, List.map_cons,
      List.sum_cons, List.length_cons, List.length_cons]
    omega

theorem Response.checkedEntriesLength_eq {params : List (UInt8 × Octets)}
    (short : (entries params).length < 65534) :
    checkedEntriesLength params = pure (2 + (entries params).length) := by
  have each : params.mapM (fun param => Size.add 2 param.2.length) =
      (pure (params.map fun param => 2 + param.2.length) : Checked _) := by
    rw [length_entries] at short
    induction params with
    | nil => rfl
    | cons param params ih =>
      rw [List.map_cons, List.sum_cons] at short
      rw [List.mapM_cons, Size.add_small (by omega), pure_bind, ih (by omega), pure_bind,
        List.map_cons]
  rw [length_entries] at short ⊢
  rw [checkedEntriesLength, each, pure_bind, Size.sum_small (by omega), pure_bind,
    Size.add_small (by omega)]

theorem Notification.checkedActivated_eq {activation : Activation}
    (short : activation.techParams.length + activation.activationParams.length < 256) :
    checkedActivated activation = pure (activated activation) := by
  rw [checkedActivated, Size.add_small (by omega), pure_bind, Size.add_small (by omega), pure_bind]

theorem Notification.checkedPeerParams_eq {identifier general : Octets}
    (short : identifier.length + general.length < 256) :
    checkedPeerParams identifier general = pure (peerParams identifier general) := by
  rw [checkedPeerParams, Size.add_small (by omega), pure_bind, Size.add_small (by omega), pure_bind,
    Size.add_small (by omega), pure_bind, peerParams]
  simp only [List.length_append, List.length_cons, List.length_nil]

end NearField.Nci
