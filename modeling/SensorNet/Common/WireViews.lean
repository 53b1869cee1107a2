import SensorNet.Common.IpcWire
import SensorNet.Common.BleProtocol

/-!
# Decoding a window of a larger buffer

Both decoders read their numbers through `new DataView(data.buffer)`, which
starts at byte 0 of the buffer, and their texts through `data.slice`, which
starts at byte 0 of the window. For a window that starts where its buffer starts
the two agree (`decodeIPCMessage_copy`, `parseNodeAdvertisement_copy`), and a window
that is too short is not read at all. Any other window decodes like a copy of its
bytes iff the numbers in front of it happen to do for its own
(`decoders_of_bytes_iff`), and at no other offset do all windows
(`exists_misread`).
-/

namespace SensorNet.Common

open SensorNet.Js

variable {Value Text : Type} (js : JsRuntime Value Text)

/-! ## Windows from the start of the buffer -/

/-- A read inside the window, from the start of the buffer, reads the window. -/
theorem get_copy {a : Uint8Array} (h₀ : a.byteOffset = 0) {offset k : Nat}
    (h : offset + k ≤ a.length) :
    (DataView.mk a.buffer).get offset k = (DataView.mk a.copy.buffer).get offset k := by
  show _ = (DataView.mk a.bytes).get offset k
  rw [Uint8Array.bytes_of_byteOffset h₀]
  have hin := a.inBounds
  rw [DataView.get_take h (by omega)]

theorem slice_copy (a : Uint8Array) (first last : Nat) :
    (a.copy.slice first last).bytes = (a.slice first last).bytes := by
  rw [Uint8Array.bytes_slice, Uint8Array.bytes_slice, Uint8Array.copy,
    Uint8Array.bytes_ofBytes]

/-- A window from the start of its buffer decodes like a copy of its bytes. -/
theorem decodeIPCMessage_copy {a : Uint8Array} (h₀ : a.byteOffset = 0) :
    decodeIPCMessage js a = decodeIPCMessage js a.copy := by
  have hlen : a.copy.length = a.length := a.length_bytes
  rw [decodeIPCMessage_def, decodeIPCMessage_def, hlen]
  by_cases hshort : a.length < 8
  · rw [if_pos hshort, if_pos hshort]
  · rw [if_neg hshort, if_neg hshort]
    have hget : ∀ offset, offset + 4 ≤ a.length → (DataView.mk a.buffer).getUint32 offset =
        (DataView.mk a.copy.buffer).getUint32 offset := by
      intro offset h
      rw [DataView.getUint32, get_copy h₀ h]
      rfl
    rw [hget 0 (by omega)]
    refine congrArg _ (funext fun n => ?_)
    by_cases hlong : a.length < 4 + n + 4
    · rw [if_pos hlong, if_pos hlong]
    · rw [if_neg hlong, if_neg hlong, hget (4 + n) (by omega), slice_copy]

/-- A window from the start of its buffer is parsed like a copy of its bytes. -/
theorem parseNodeAdvertisement_copy {a : Uint8Array} (h₀ : a.byteOffset = 0) :
    parseNodeAdvertisement a = parseNodeAdvertisement a.copy := by
  have hlen : a.copy.length = a.length := a.length_bytes
  by_cases hshort : a.length < 17
  · rw [parseNodeAdvertisement_of_short hshort, parseNodeAdvertisement_of_short (by omega)]
  · have hfield : ∀ offset k, offset + k ≤ 17 →
        bufferField a offset k = bufferField a.copy offset k := by
      intro offset k hle
      have hin := a.inBounds
      show leNat _ = leNat ((a.bytes.drop offset).take k)
      rw [Uint8Array.bytes_of_byteOffset h₀, List.drop_take, List.take_take,
        Nat.min_eq_left (by omega)]
    rw [parseNodeAdvertisement_eq (by omega), parseNodeAdvertisement_eq (by omega),
      slice_copy, hfield 0 2 (by decide), hfield 2 1 (by decide), hfield 9 1 (by decide),
      hfield 10 4 (by decide), hfield 14 1 (by decide), hfield 15 2 (by decide)]

/-! ## Windows from any offset -/

/-- The numbers of an advertisement are the same at the start of the buffer and at the
start of the window. -/
structure NumbersAgree (a : Uint8Array) : Prop where
  companyId : bufferField a 0 2 = bufferField a.copy 0 2
  version : bufferField a 2 1 = bufferField a.copy 2 1
  batteryPercent : bufferField a 9 1 = bufferField a.copy 9 1
  lastReading : float32Value (BitVec.ofNat 32 (bufferField a 10 4)) =
    float32Value (BitVec.ofNat 32 (bufferField a.copy 10 4))
  faultFlags : bufferField a 14 1 = bufferField a.copy 14 1
  counter : bufferField a 15 2 = bufferField a.copy 15 2

/-- Where a window is long enough, what is read of it is its own iff the numbers agree. -/
theorem parseNodeAdvertisement_copy_iff {a : Uint8Array} (h : 17 ≤ a.length) :
    parseNodeAdvertisement a = parseNodeAdvertisement a.copy ↔ NumbersAgree a := by
  have hlen : a.copy.length = a.length := a.length_bytes
  rw [parseNodeAdvertisement_eq h, parseNodeAdvertisement_eq (by omega), slice_copy,
    Option.some.injEq, NodeAdvertisement.mk.injEq]
  constructor
  · rintro ⟨hcompany, hversion, -, hbattery, hreading, hfaults, hcounter⟩
    exact ⟨hcompany, hversion, hbattery, hreading, hfaults, hcounter⟩
  · rintro ⟨hcompany, hversion, hbattery, hreading, hfaults, hcounter⟩
    exact ⟨hcompany, hversion, rfl, hbattery, hreading, hfaults, hcounter⟩

/-- A payload is no message: it is not there, or no JSON, or the JSON of `null`. -/
def NoMessage (payload : Option (List UInt8)) : Prop :=
  ∀ p ∈ payload, ∀ v, valueOf js p = some v → v = js.null

/-- The payload that is selected by the numbers at the start of the buffer does for the one that
is selected by those at the start of the window:
1. they are the same, or there is none either way;
2. or neither is a message;
3. or they are JSON for the same value. -/
def PayloadsAgree (a : Uint8Array) : Prop :=
  payloadIn a.buffer a.bytes = payloadOf a.bytes ∨
    (NoMessage js (payloadIn a.buffer a.bytes) ∧ NoMessage js (payloadOf a.bytes)) ∨
    ∃ p q v, payloadIn a.buffer a.bytes = some p ∧ payloadOf a.bytes = some q ∧
      valueOf js p = some v ∧ valueOf js q = some v

/-- Without a message the decoder answers `null`. -/
theorem getD_null_iff (payload : Option (List UInt8)) :
    (payload.bind (valueOf js)).getD js.null = js.null ↔ NoMessage js payload := by
  unfold NoMessage
  cases payload with
  | none => exact iff_of_true rfl nofun
  | some p =>
    simp only [Option.bind_some, Option.mem_some_iff, forall_eq']
    cases valueOf js p with
    | none => exact iff_of_true rfl nofun
    | some v =>
      rw [Option.getD_some]
      exact ⟨fun h w hw => Option.some.inj hw ▸ h, fun h => h v rfl⟩

/-- Any other answer is the value of a payload. -/
theorem exists_of_ne_null {payload : Option (List UInt8)}
    (h : (payload.bind (valueOf js)).getD js.null ≠ js.null) :
    ∃ p, payload = some p ∧ valueOf js p = some ((payload.bind (valueOf js)).getD js.null) := by
  cases payload with
  | none => exact absurd rfl h
  | some p =>
    rw [Option.bind_some] at h ⊢
    cases hv : valueOf js p with
    | none =>
      rw [hv] at h
      exact absurd rfl h
    | some v => exact ⟨p, rfl, hv⟩

/-- What is read of a window is its own iff the payloads agree. -/
theorem decodeIPCMessage_copy_iff (a : Uint8Array) :
    decodeIPCMessage js a = decodeIPCMessage js a.copy ↔ PayloadsAgree js a := by
  rw [Uint8Array.copy, decodeIPCMessage_window, decodeIPCMessage_eq, Except.ok.injEq]
  unfold PayloadsAgree
  constructor
  · intro h
    by_cases hnull : ((payloadOf a.bytes).bind (valueOf js)).getD js.null = js.null
    · exact .inr (.inl ⟨(getD_null_iff js _).mp (h.trans hnull), (getD_null_iff js _).mp hnull⟩)
    · -- there is a message in the window, and the same one is found with the buffer's numbers
      obtain ⟨q, hq, hqv⟩ := exists_of_ne_null js hnull
      obtain ⟨p, hp, hpv⟩ := exists_of_ne_null js (h ▸ hnull)
      exact .inr (.inr ⟨p, q, _, hp, hq, hpv, h ▸ hqv⟩)
  · rintro (h | ⟨hbuffer, hwindow⟩ | ⟨p, q, v, hp, hq, hpv, hqv⟩)
    · rw [h]
    · rw [(getD_null_iff js _).mpr hbuffer, (getD_null_iff js _).mpr hwindow]
    · rw [hp, hq, Option.bind_some, Option.bind_some, hpv, hqv]

/-- **Decoders and windows**: a window decodes like a copy of its bytes iff it starts where its
buffer starts, or is too short to be read, or the numbers at the start of the buffer happen to
do for those of the window. -/
theorem decoders_of_bytes_iff (a : Uint8Array) :
    (decodeIPCMessage js a = decodeIPCMessage js a.copy ↔
      a.byteOffset = 0 ∨ a.length < 8 ∨ PayloadsAgree js a) ∧
    (parseNodeAdvertisement a = parseNodeAdvertisement a.copy ↔
      a.byteOffset = 0 ∨ a.length < 17 ∨ NumbersAgree a) := by
  have hlen : a.copy.length = a.length := a.length_bytes
  constructor
  · constructor
    · exact fun h => .inr (.inr ((decodeIPCMessage_copy_iff js a).mp h))
    · rintro (h₀ | hshort | hagree)
      · exact decodeIPCMessage_copy js h₀
      · rw [decodeIPCMessage_def, decodeIPCMessage_def, hlen, if_pos hshort, if_pos hshort]
      · exact (decodeIPCMessage_copy_iff js a).mpr hagree
  · by_cases hshort : a.length < 17
    · rw [parseNodeAdvertisement_of_short hshort, parseNodeAdvertisement_of_short (by omega)]
      exact iff_of_true rfl (.inr (.inl hshort))
    · rw [parseNodeAdvertisement_copy_iff (by omega)]
      refine ⟨fun h => .inr (.inr h), ?_⟩
      rintro (h₀ | h | h)
      · exact (parseNodeAdvertisement_copy_iff (by omega)).mp (parseNodeAdvertisement_copy h₀)
      · exact absurd h hshort
      · exact h

/-! ## Windows that are misread -/

/-- The bytes `bs` after `o` bytes `pad`. -/
def behind (o : Nat) (pad : UInt8) (bs : List UInt8) : Uint8Array :=
  ⟨List.replicate o pad ++ bs, o, bs.length, by simp⟩

theorem bytes_behind (o : Nat) (pad : UInt8) (bs : List UInt8) :
    (behind o pad bs).bytes = bs := by
  rw [behind, Uint8Array.bytes, List.drop_left' List.length_replicate, List.take_length]

/-- The first byte of the buffer is the low byte of what is read there. -/
theorem leNat_behind {o : Nat} (ho : o ≠ 0) (pad : UInt8) (bs : List UInt8) (k : Nat) :
    ∃ n, leNat (((behind o pad bs).buffer.drop 0).take (k + 1)) = pad.toNat + 256 * n := by
  obtain ⟨m, rfl⟩ := Nat.exists_eq_succ_of_ne_zero ho
  exact ⟨_, rfl⟩

/-- Behind bytes 255 a short frame is not found. -/
theorem decodeIPCMessage_behind {o : Nat} (ho : o ≠ 0) {p : List UInt8}
    (hp : p.length < 255) :
    decodeIPCMessage js (behind o 0xff (ipcFrame p)) = .ok js.null := by
  have hlen : (behind o 0xff (ipcFrame p)).length = 4 + p.length + 4 := length_ipcFrame p
  have hin := (behind o 0xff (ipcFrame p)).inBounds
  obtain ⟨n, hn⟩ := leNat_behind ho 0xff (ipcFrame p) 3
  have hpad : (0xff : UInt8).toNat = 255 := rfl
  rw [decodeIPCMessage_def, if_neg (by omega),
    DataView.getUint32_eq_ok (by show 0 + 4 ≤ (behind o 0xff (ipcFrame p)).buffer.length; omega)]
  show (if _ < 4 + leNat (((behind o 0xff (ipcFrame p)).buffer.drop 0).take 4) + 4
    then _ else _) = _
  rw [hn, if_pos (by omega)]

/-- Seventeen bytes 1 have the company id 257, and another one behind zeros. -/
theorem parseNodeAdvertisement_behind {o : Nat} (ho : o ≠ 0) :
    parseNodeAdvertisement (behind o 0 (List.replicate 17 1)) ≠
      parseNodeAdvertisement (behind o 0 (List.replicate 17 1)).copy := by
  intro h
  have hlen : (behind o 0 (List.replicate 17 1)).copy.length = 17 := by
    show (behind o 0 (List.replicate 17 1)).bytes.length = 17
    rw [bytes_behind, List.length_replicate]
  rw [parseNodeAdvertisement_eq (by show 17 ≤ (List.replicate 17 (1 : UInt8)).length; decide),
    parseNodeAdvertisement_eq (by omega)] at h
  have hid := congrArg NodeAdvertisement.companyId (Option.some.inj h)
  obtain ⟨n, hn⟩ := leNat_behind ho 0 (List.replicate 17 1) 1
  have hcopy : bufferField (behind o 0 (List.replicate 17 1)).copy 0 2 = 257 := by
    show leNat (((behind o 0 (List.replicate 17 1)).bytes.drop 0).take 2) = 257
    rw [bytes_behind]
    decide
  have hzero : (0 : UInt8).toNat = 0 := rfl
  change leNat _ = _ at hid
  rw [hn] at hid
  change _ = bufferField (behind o 0 (List.replicate 17 1)).copy 0 2 at hid
  rw [hcopy] at hid
  omega

/-- **No offset but 0 is safe**: at every other one a frame is not found, and an advertisement
is misread. Of the runtime this asks that some text of fewer than 255 bytes is JSON for
another value than `null`. -/
theorem exists_misread {p : List UInt8} {v : Value} (hp : p.length < 255)
    (hv : valueOf js p = some v) (hnull : v ≠ js.null) {o : Nat} (ho : o ≠ 0) :
    (∃ a : Uint8Array, a.byteOffset = o ∧ decodeIPCMessage js a ≠ decodeIPCMessage js a.copy) ∧
      ∃ a : Uint8Array, a.byteOffset = o ∧
        parseNodeAdvertisement a ≠ parseNodeAdvertisement a.copy := by
  refine ⟨⟨behind o 0xff (ipcFrame p), rfl, fun h => ?_⟩,
    behind o 0 (List.replicate 17 1), rfl, parseNodeAdvertisement_behind ho⟩
  have hframed : Framed (ipcFrame p) p := ⟨by omega, [], (List.append_nil _).symm⟩
  rw [decodeIPCMessage_behind js ho hp, Uint8Array.copy, bytes_behind, decodeIPCMessage_eq,
    payloadOf_eq_some_iff.mpr hframed, Option.bind_some, hv] at h
  exact hnull (Except.ok.inj h).symm

/-- The message `7` behind four bytes 255 is not found, though a copy of its bytes
decodes. -/
theorem message_lost_in_window :
    ¬ ∀ a : Uint8Array,
      decodeIPCMessage digitRuntime a = decodeIPCMessage digitRuntime a.copy ∧
        parseNodeAdvertisement a = parseNodeAdvertisement a.copy := by
  intro h
  have hwindow := (h (behind 4 0xff (ipcFrame [0x37]))).1
  have hpayload : payloadOf (ipcFrame [0x37]) = some [0x37] := by decide +kernel
  have hv : valueOf digitRuntime [0x37] = some (some 7) := by decide
  rw [decodeIPCMessage_behind digitRuntime (by decide) (by decide), Uint8Array.copy,
    bytes_behind, decodeIPCMessage_eq, hpayload, Option.bind_some, hv] at hwindow
  cases hwindow

end SensorNet.Common
