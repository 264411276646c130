import NearField.Llcp.Pdu
import NearField.Proofs.Checked.Reader
import NearField.Proofs.Llcp.Wire

/-!
Link layer PDUs, read and written with every access and every sum checked. Main statements: reading
a PDU never faults, and a frame written field by field is its octets laid over the buffer.
-/

namespace NearField.Llcp

/-- What a frame may need of a buffer: no more than a PDU may have, and no more than there is. -/
def checkedRoom (buffer : Octets) (needed : Nat) : Except Error Unit :=
  if maxPduLength < needed then .error (.invalidLength maxPduLength needed)
  else buffer.require needed

def withPduRoom (buffer : Octets) (needed : Nat) (writing : Checked (Except Error Nat × Octets)) :
    Checked (Except Error Nat × Octets) :=
  match checkedRoom buffer needed with
  | .error e => return (.error e, buffer)
  | .ok () => writing

def checkedHeader (buffer : Octets) (dsap : Sap) (type : PduType) (ssap : Sap) :
    Checked Octets := do
  let buffer ← buffer.checkedSet 0 ((dsap.value <<< 2) ||| (type.code >>> 2))
  buffer.checkedSet 1 (((type.code &&& 0x03) <<< 6) ||| ssap.value)

def checkedFrame (buffer : Octets) (dsap : Sap) (type : PduType) (ssap : Sap) (count : Nat)
    (rest : Nat → Octets → Checked Octets) : Checked (Except Error Nat × Octets) := do
  let total ← Size.add headerLength count
  withPduRoom buffer total do
    withPduRoom buffer headerLength do
      let buffer ← checkedHeader buffer dsap type ssap
      let buffer ← rest total buffer
      return (.ok total, buffer)

def checkedEncodeOctet (buffer : Octets) (dsap : Sap) (type : PduType) (ssap : Sap)
    (octet : UInt8) : Checked (Except Error Nat × Octets) :=
  checkedFrame buffer dsap type ssap 1 fun _ buffer => buffer.checkedSet headerLength octet

def checkedEncodeInfo (buffer : Octets) (dsap : Sap) (type : PduType) (ssap : Sap)
    (info : Octets) : Checked (Except Error Nat × Octets) :=
  checkedFrame buffer dsap type ssap info.length fun total buffer =>
    buffer.checkedCopy headerLength total info

def checkedEncodeHeader (buffer : Octets) (dsap : Sap) (type : PduType) (ssap : Sap) :
    Checked (Except Error Nat × Octets) :=
  withPduRoom buffer headerLength do
    let buffer ← checkedHeader buffer dsap type ssap
    return (.ok headerLength, buffer)

def checkedEncodeInformation (buffer : Octets) (dsap ssap : Sap) (ns nr : UInt8) :
    Checked (Except Error Nat × Octets) :=
  match Sequence.checked ns nr with
  | .error e => return (.error e, buffer)
  | .ok sequence => checkedEncodeOctet buffer dsap .i ssap sequence.toOctet

def checkedEncodeReady (buffer : Octets) (type : PduType) (dsap ssap : Sap) (nr : UInt8) :
    Checked (Except Error Nat × Octets) :=
  if type ≠ .rr ∧ type ≠ .rnr then
    return (.error (.frameFormat (.notReceiveReady type)), buffer)
  else
    match Sequence.checked 0 nr with
    | .error e => return (.error e, buffer)
    | .ok sequence => checkedEncodeOctet buffer dsap type ssap sequence.toOctet

theorem withPduRoom_fits {buffer : Octets} {needed : Nat}
    {writing : Checked (Except Error Nat × Octets)} (room : needed ≤ buffer.length)
    (fits : needed ≤ maxPduLength) : withPduRoom buffer needed writing = writing := by
  rw [withPduRoom, checkedRoom, if_neg (by omega), Octets.require, if_neg (by omega)]

theorem withPduRoom_eq {buffer bytes : Octets} {total : Nat}
    {writing : Checked (Except Error Nat × Octets)} (size : total = bytes.length)
    (laid : bytes.length ≤ buffer.length → bytes.length ≤ maxPduLength →
      writing = pure (.ok total, buffer.overlay 0 bytes)) :
    withPduRoom buffer total writing = pure (buffer.place (bounded bytes)) := by
  subst size
  rw [withPduRoom, checkedRoom, bounded]
  by_cases long : maxPduLength < bytes.length
  · rw [if_pos long, if_pos long]
    rfl
  · rw [if_neg long, if_neg long]
    exact Octets.withRoom_eq rfl fun inside => laid inside (Nat.not_lt.mp long)

theorem checkedHeader_eq {buffer : Octets} (room : 2 ≤ buffer.length) (dsap : Sap)
    (type : PduType) (ssap : Sap) :
    checkedHeader buffer dsap type ssap = pure (buffer.overlay 0 (header dsap type ssap)) := by
  rw [checkedHeader, Octets.checkedSet_lt (by omega), pure_bind,
    Octets.checkedSet_lt (by rw [List.length_set]; omega),
    Octets.set_eq_overlay _ (by rw [List.length_set]; omega),
    Octets.overlay_cons _ _ (by omega)]
  rfl

theorem checkedFrame_eq (buffer : Octets) (dsap : Sap) (type : PduType) (ssap : Sap)
    (info : Octets) (short : info.length < 2 ^ 63) {rest : Nat → Octets → Checked Octets}
    (writes : ∀ memory : Octets, headerLength + info.length ≤ memory.length →
      rest (headerLength + info.length) memory = pure (memory.overlay headerLength info)) :
    checkedFrame buffer dsap type ssap info.length rest =
      pure (buffer.place (encodeWithInfo dsap type ssap info)) := by
  have two : headerLength = 2 := rfl
  have size : headerLength + info.length = (header dsap type ssap ++ info).length := by
    rw [List.length_append, length_header]
    rfl
  rw [checkedFrame, Size.add_small (by omega), pure_bind, encodeWithInfo]
  refine withPduRoom_eq size fun room fits => ?_
  rw [← size] at room fits
  have laid := Octets.overlay_append buffer 0 (header dsap type ssap) info
    (by rw [length_header]; omega)
  rw [length_header, Nat.zero_add] at laid
  rw [withPduRoom_fits (by omega) (by decide), checkedHeader_eq (by omega), pure_bind,
    writes _ (by rw [Octets.length_overlay]; exact room), pure_bind, two, laid]

theorem checkedEncodeInfo_eq (buffer : Octets) (dsap : Sap) (type : PduType) (ssap : Sap)
    {info : Octets} (short : info.length < 2 ^ 63) :
    checkedEncodeInfo buffer dsap type ssap info =
      pure (buffer.place (encodeWithInfo dsap type ssap info)) :=
  checkedFrame_eq buffer dsap type ssap info short fun _ room => Octets.checkedCopy_eq rfl room

theorem checkedEncodeOctet_eq (buffer : Octets) (dsap : Sap) (type : PduType) (ssap : Sap)
    (octet : UInt8) :
    checkedEncodeOctet buffer dsap type ssap octet =
      pure (buffer.place (encodeWithInfo dsap type ssap [octet])) := by
  refine checkedFrame_eq buffer dsap type ssap [octet] (by simp) fun memory room => ?_
  have inside : headerLength < memory.length := room
  rw [Octets.checkedSet_lt inside, Octets.set_eq_overlay _ inside]

theorem checkedEncodeHeader_eq (buffer : Octets) (dsap : Sap) (type : PduType) (ssap : Sap) :
    checkedEncodeHeader buffer dsap type ssap =
      pure (buffer.place (encodeHeader dsap type ssap)) := by
  rw [checkedEncodeHeader, encodeHeader, encodeWithInfo, List.append_nil]
  refine withPduRoom_eq rfl fun room _ => ?_
  rw [checkedHeader_eq room, pure_bind]

theorem checkedEncodeInformation_eq (buffer : Octets) (dsap ssap : Sap) (ns nr : UInt8) :
    checkedEncodeInformation buffer dsap ssap ns nr =
      pure (buffer.place (encodeInformation dsap ssap ns nr)) := by
  unfold checkedEncodeInformation encodeInformation
  cases Sequence.checked ns nr with
  | error e => rfl
  | ok sequence => exact checkedEncodeOctet_eq buffer dsap .i ssap sequence.toOctet

theorem checkedEncodeReady_eq (buffer : Octets) (type : PduType) (dsap ssap : Sap) (nr : UInt8) :
    checkedEncodeReady buffer type dsap ssap nr =
      pure (buffer.place (encodeReceiveReady type dsap ssap nr)) := by
  unfold checkedEncodeReady encodeReceiveReady
  split
  · rfl
  · cases Sequence.checked 0 nr with
    | error e => rfl
    | ok sequence => exact checkedEncodeOctet_eq buffer dsap type ssap sequence.toOctet

def checkedDecodeType (bytes : Octets) : Attempt PduType := do
  settled (bytes.require headerLength)
  let b0 ← bytes.checkedGet 0
  let b1 ← bytes.checkedGet 1
  match PduType.ofCode? (typeBits b0 b1) with
  | some type => return type
  | none => throw (.unknownPduType (typeBits b0 b1))

def checkedDecodeHeader (bytes : Octets) : Attempt (Sap × PduType × Sap) := do
  let type ← checkedDecodeType bytes
  let b0 ← bytes.checkedGet 0
  let b1 ← bytes.checkedGet 1
  return (Sap.masked (b0 >>> 2), type, Sap.masked b1)

namespace Pdu

def checkedDecode (bytes : Octets) : Attempt Pdu := do
  if maxPduLength < bytes.length then throw (.invalidLength maxPduLength bytes.length)
  else
    let (dsap, type, ssap) ← checkedDecodeHeader bytes
    let infoPos ← Size.add headerLength 1
    if type.isSequenced then
      settled (bytes.require infoPos)
      let octet ← bytes.checkedGet headerLength
      let info ← bytes.checkedSlice infoPos bytes.length
      return { dsap, type, ssap, sequence := some (.ofOctet octet), info }
    else
      let info ← bytes.checkedSlice headerLength bytes.length
      return { dsap, type, ssap, info }

def checkedEncodedLength (pdu : Pdu) : Checked Nat := do
  let head ← Size.add headerLength (if pdu.sequence.isSome then 1 else 0)
  Size.add head pdu.info.length

def checkedFront (pdu : Pdu) (buffer : Octets) : Checked (Except Error Nat × Octets) :=
  match pdu.type.isSequenced, pdu.sequence with
  | true, some sequence =>
    withPduRoom buffer headerLength do
      let buffer ← checkedHeader buffer pdu.dsap pdu.type pdu.ssap
      let buffer ← buffer.checkedSet headerLength sequence.toOctet
      let pos ← Size.add headerLength 1
      return (.ok pos, buffer)
  | false, none =>
    withPduRoom buffer headerLength do
      let buffer ← checkedHeader buffer pdu.dsap pdu.type pdu.ssap
      return (.ok headerLength, buffer)
  | true, none => return (.error (.frameFormat (.sequenceMissing pdu.type)), buffer)
  | false, some _ => return (.error (.frameFormat (.sequenceSuperfluous pdu.type)), buffer)

def checkedEncodeInto (pdu : Pdu) (buffer : Octets) : Checked (Except Error Nat × Octets) := do
  let total ← pdu.checkedEncodedLength
  withPduRoom buffer total do
    match ← pdu.checkedFront buffer with
    | (.error e, buffer) => return (.error e, buffer)
    | (.ok pos, buffer) =>
      let stop ← Size.add pos pdu.info.length
      let buffer ← buffer.checkedCopy pos stop pdu.info
      return (.ok stop, buffer)

def checkedEncode (pdu : Pdu) : Attempt Octets := do
  let room ← pdu.checkedEncodedLength
  Octets.checkedOwned room pdu.checkedEncodeInto

end Pdu

theorem checkedDecodeType_eq (bytes : Octets) :
    checkedDecodeType bytes = settled (decodeType bytes) := by
  match bytes with
  | [] | [_] => rfl
  | b0 :: b1 :: rest =>
    have long : ¬(b0 :: b1 :: rest).length < headerLength := by simp [headerLength]
    rw [checkedDecodeType, Octets.require, if_neg long, settled_ok, pure_bind, decodeType]
    change (match PduType.ofCode? (typeBits b0 b1) with
      | some type => (pure type : Attempt PduType)
      | none => throw (Error.unknownPduType (typeBits b0 b1))) = _
    cases PduType.ofCode? (typeBits b0 b1) <;> rfl

theorem checkedDecodeHeader_eq (bytes : Octets) :
    checkedDecodeHeader bytes = settled (decodeHeader bytes) := by
  match bytes with
  | [] | [_] => rfl
  | b0 :: b1 :: rest =>
    rw [checkedDecodeHeader, checkedDecodeType_eq, decodeHeader, settled_bind]
    rfl

theorem decodeHeader_length {bytes : Octets} {fields : Sap × PduType × Sap}
    (ok : decodeHeader bytes = .ok fields) : headerLength ≤ bytes.length := by
  match bytes with
  | [] | [_] => cases ok
  | b0 :: b1 :: rest =>
    rw [headerLength, List.length_cons, List.length_cons]
    omega

namespace Pdu

theorem checkedDecode_eq (bytes : Octets) : checkedDecode bytes = settled (decode bytes) := by
  have two : headerLength = 2 := rfl
  unfold checkedDecode decode
  by_cases long : maxPduLength < bytes.length
  · rw [if_pos long, if_pos long]
    rfl
  · rw [if_neg long, if_neg long, checkedDecodeHeader_eq]
    cases read : decodeHeader bytes with
    | error e => rfl
    | ok fields =>
      obtain ⟨dsap, type, ssap⟩ := fields
      have enough := decodeHeader_length read
      rw [settled_ok, pure_bind, Size.add_small (by omega)]
      simp only [lift_pure, pure_bind]
      change _ = settled (if type.isSequenced then _ else _)
      by_cases numbered : type.isSequenced
      · rw [if_pos numbered, if_pos numbered, Octets.require]
        cases rest : bytes.drop headerLength with
        | nil =>
          have short := List.drop_eq_nil_iff.mp rest
          rw [if_pos (by omega)]
          rfl
        | cons octet info =>
          have size := congrArg List.length rest
          rw [List.length_drop, List.length_cons] at size
          have head : bytes[headerLength]? = some octet := by
            rw [← List.head?_drop, rest, List.head?_cons]
          have tail : bytes.drop (headerLength + 1) = info := by
            rw [← List.drop_drop, rest, List.drop_succ_cons, List.drop_zero]
          rw [if_neg (by omega), settled_ok, pure_bind, Octets.checkedGet, head]
          simp only [lift_pure, pure_bind]
          rw [Octets.checkedSlice_le (by omega) (by omega), lift_pure, pure_bind, tail,
            List.take_of_length_le (by omega)]
          rfl
      · rw [if_neg numbered, if_neg numbered, Octets.checkedSlice_le enough (by omega), lift_pure,
          pure_bind, List.take_of_length_le (by rw [List.length_drop])]
        rfl

theorem checkedEncodedLength_eq {pdu : Pdu} (short : pdu.info.length < 2 ^ 63) :
    pdu.checkedEncodedLength = pure pdu.encodedLength := by
  have two : headerLength = 2 := rfl
  rw [checkedEncodedLength, encodedLength]
  split <;> rw [Size.add_small (by omega), pure_bind, Size.add_small (by omega)]

theorem checkedFront_eq (pdu : Pdu) {buffer : Octets}
    (room : headerLength + (if pdu.sequence.isSome then 1 else 0) ≤ buffer.length) :
    pdu.checkedFront buffer = pure (match pdu.sequenceOctets with
      | .error e => (.error e, buffer)
      | .ok sequence =>
        (.ok (headerLength + sequence.length),
          buffer.overlay 0 (header pdu.dsap pdu.type pdu.ssap ++ sequence))) := by
  have two : headerLength = 2 := rfl
  unfold checkedFront sequenceOctets
  cases pdu.type.isSequenced <;> cases sequence : pdu.sequence
  case false.none =>
    simp only
    rw [withPduRoom_fits (by omega) (by decide), checkedHeader_eq (by omega), pure_bind,
      List.append_nil]
    rfl
  case true.some value =>
    rw [sequence, Option.isSome_some, if_pos rfl] at room
    have laid := Octets.overlay_append buffer 0 (header pdu.dsap pdu.type pdu.ssap)
      [value.toOctet] (by rw [length_header]; omega)
    rw [length_header, Nat.zero_add] at laid
    simp only
    rw [withPduRoom_fits (by omega) (by decide), checkedHeader_eq (by omega), pure_bind,
      Octets.checkedSet_lt (by rw [Octets.length_overlay]; omega), pure_bind,
      Octets.set_eq_overlay _ (by rw [Octets.length_overlay]; omega),
      Size.add_small (by decide), pure_bind, two, laid]
    rfl
  case false.some | true.none => rfl

/-- Writing a PDU part by part is laying its octets over the buffer. -/
theorem checkedEncodeInto_eq {pdu : Pdu} (short : pdu.info.length < 2 ^ 63) (buffer : Octets) :
    pdu.checkedEncodeInto buffer = pure (pdu.encodeInto buffer) := by
  have two : headerLength = 2 := rfl
  rw [checkedEncodeInto, checkedEncodedLength_eq (by omega), pure_bind, withPduRoom, checkedRoom,
    encodeInto]
  by_cases long : maxPduLength < pdu.encodedLength
  · rw [if_pos long, if_neg (by omega)]
    unfold encode
    rw [if_pos long]
    rfl
  · have fits := Nat.not_lt.mp long
    rw [if_neg long, Octets.require]
    by_cases tight : buffer.length < pdu.encodedLength
    · rw [if_pos tight, if_pos ⟨fits, tight⟩]
    · have room := Nat.not_lt.mp tight
      rw [if_neg tight, if_neg (fun both => tight both.2), encode_of_fits fits]
      simp only
      unfold encodedLength at room
      rw [checkedFront_eq pdu (by omega), pure_bind]
      cases octets : pdu.sequenceOctets with
      | error e => rfl
      | ok sequence =>
        have count := sequenceOctets_length pdu octets
        have brief : sequence.length ≤ 1 := by rw [count]; split <;> omega
        have front : (header pdu.dsap pdu.type pdu.ssap ++ sequence).length =
            headerLength + sequence.length := by
          rw [List.length_append, length_header]
          rfl
        have laid := Octets.overlay_append buffer 0
          (header pdu.dsap pdu.type pdu.ssap ++ sequence) pdu.info (by omega)
        rw [Nat.zero_add, front] at laid
        simp only
        rw [Size.add_small (by omega), pure_bind,
          Octets.checkedCopy_eq rfl (by rw [Octets.length_overlay]; omega), pure_bind, laid,
          Except.map, Octets.place_ok, List.length_append, front, if_neg (by omega)]

theorem checkedEncode_eq {pdu : Pdu} (short : pdu.info.length < 2 ^ 63) :
    pdu.checkedEncode = settled pdu.encode := by
  rw [checkedEncode, checkedEncodedLength_eq (by omega), lift_pure, pure_bind]
  refine Octets.checkedOwned_eq ?_ fun bytes encoded => ?_
  · rw [checkedEncodeInto_eq short, encodeInto, Octets.length_zeros,
      if_neg (fun both => Nat.lt_irrefl _ both.2)]
  · exact Nat.le_of_eq (encode_length encoded)

end Pdu

end NearField.Llcp
