import SensorNet.Common.IpcProtocol

/-!
# The IPC wire format

A frame is the length of the payload, the payload and its CRC-32, the numbers as
four bytes, least significant first. The decoder accepts exactly the strings that
begin with a frame whose payload is valid JSON (`decodeIPCMessage_eq`), and
undoes the encoder (`decode_encode`). `decodes_wire_format` says both.
-/

namespace SensorNet.Common

open SensorNet.Js

/-- The frame of a payload. -/
def ipcFrame (p : List UInt8) : List UInt8 :=
  leBytes 4 p.length ++ p ++ leBytes 4 (crc32 p).toNat

/-- The string is a frame with payload `p`, and bytes after it. -/
def Framed (d p : List UInt8) : Prop :=
  p.length < 2 ^ 32 ∧ ∃ t, d = ipcFrame p ++ t

/-- The payload of the frame at the start of a string. -/
def payloadOf (d : List UInt8) : Option (List UInt8) :=
  let length := leNat (d.take 4)
  let p := (d.drop 4).take length
  if 4 + length + 4 ≤ d.length ∧
      leNat ((d.drop (4 + length)).take 4) = (crc32 p).toNat then some p
  else none

/-- The payload of a frame at the start of `bytes`, whose length and checksum are read where
they would be in `numbers`. -/
def payloadIn (numbers bytes : List UInt8) : Option (List UInt8) :=
  let length := leNat (numbers.take 4)
  let p := (bytes.drop 4).take length
  if 4 + length + 4 ≤ bytes.length ∧
      leNat ((numbers.drop (4 + length)).take 4) = (crc32 p).toNat then some p
  else none

theorem payloadIn_self (d : List UInt8) : payloadIn d d = payloadOf d := rfl

@[simp] theorem length_ipcFrame (p : List UInt8) :
    (ipcFrame p).length = 4 + p.length + 4 := by
  rw [ipcFrame, List.length_append, List.length_append, length_leBytes, length_leBytes]

theorem crc32_lt (p : List UInt8) : (crc32 p).toNat < 256 ^ 4 := (crc32 p).isLt

/-- The three parts of a framed string. -/
theorem framed_parts (p t : List UInt8) :
    (ipcFrame p ++ t).take 4 = leBytes 4 p.length ∧
    ((ipcFrame p ++ t).drop 4).take p.length = p ∧
    ((ipcFrame p ++ t).drop (4 + p.length)).take 4 = leBytes 4 (crc32 p).toNat := by
  have hlen : ∀ n, (leBytes 4 n).length = 4 := length_leBytes 4
  have hsplit : ipcFrame p ++ t =
      leBytes 4 p.length ++ (p ++ (leBytes 4 (crc32 p).toNat ++ t)) := by
    simp only [ipcFrame, List.append_assoc]
  rw [hsplit]
  refine ⟨?_, ?_, ?_⟩
  · exact List.take_left' (hlen _)
  · rw [List.drop_left' (hlen _)]
    exact List.take_left' rfl
  · rw [← List.drop_drop, List.drop_left' (hlen _), List.drop_left' rfl]
    exact List.take_left' (hlen _)

/-- **The grammar is decidable by reading**: a string is framed with payload `p` iff
reading its length, payload and checksum gives `p`. -/
theorem payloadOf_eq_some_iff {d p : List UInt8} :
    payloadOf d = some p ↔ Framed d p := by
  constructor
  · intro h
    rw [payloadOf] at h
    split at h
    next hc =>
      cases h
      obtain ⟨hlen, hcrc⟩ := hc
      have htake : (d.take 4).length = 4 := by
        rw [List.length_take]
        omega
      have hlt : leNat (d.take 4) < 2 ^ 32 := by
        have := leNat_lt (d.take 4)
        rw [htake] at this
        exact this
      generalize hn : leNat (d.take 4) = n at *
      have hp : ((d.drop 4).take n).length = n := by
        rw [List.length_take, List.length_drop]
        omega
      have htail : ((d.drop (4 + n)).take 4).length = 4 := by
        rw [List.length_take, List.length_drop]
        omega
      -- four bytes are the number that they encode
      have hhead : d.take 4 = leBytes 4 n := by
        have hbound : n < 256 ^ (d.take 4).length := by
          rw [htake]
          exact hlt
        have h4 := (leNat_eq_iff hbound).mp hn
        rwa [htake] at h4
      have hsum : (d.drop (4 + n)).take 4 =
          leBytes 4 (crc32 ((d.drop 4).take n)).toNat := by
        have h4 := (leNat_eq_iff (by rw [htail]; exact crc32_lt _)).mp hcrc
        rwa [htail] at h4
      -- what follows the checksum is the trailing part
      refine ⟨by rw [hp]; exact hlt, d.drop (4 + n + 4), ?_⟩
      rw [ipcFrame, hp, ← hhead, ← hsum]
      rw [List.append_assoc, List.append_assoc, ← List.drop_drop (i := 4) (j := 4 + n),
        List.take_append_drop, ← List.drop_drop (i := n) (j := 4), List.take_append_drop,
        List.take_append_drop]
    next => cases h
  · rintro ⟨hlt, t, rfl⟩
    obtain ⟨hhead, hp, hsum⟩ := framed_parts p t
    have hn : leNat ((ipcFrame p ++ t).take 4) = p.length := by
      rw [hhead]
      exact leNat_leBytes_of_lt hlt
    rw [payloadOf]
    simp only [hn, hp, hsum, leNat_leBytes_of_lt (crc32_lt p)]
    rw [if_pos ⟨by rw [List.length_append, length_ipcFrame]; omega, trivial⟩]

/-- A string is framed with one payload at most. -/
theorem Framed.unique {d p q : List UInt8} (hp : Framed d p) (hq : Framed d q) :
    p = q := by
  have h := payloadOf_eq_some_iff.mpr hp
  rw [payloadOf_eq_some_iff.mpr hq] at h
  exact (Option.some.inj h).symm

/-! ## The decoder -/

variable {Value Text : Type} (js : JsRuntime Value Text)

/-- The value of a payload: of its JSON text, if that is valid. -/
def valueOf (p : List UInt8) : Option Value := js.parse (js.decodeText p)

/-- **What the decoder computes** for a window: it never throws, and gives the value of the
payload in the window that is selected by the numbers at the start of the buffer, or `null`. -/
theorem decodeIPCMessage_window (a : Uint8Array) :
    decodeIPCMessage js a =
      .ok (((payloadIn a.buffer a.bytes).bind (valueOf js)).getD js.null) := by
  have hin := a.inBounds
  rw [decodeIPCMessage_def, payloadIn, Uint8Array.length_bytes]
  by_cases hshort : a.length < 8
  · -- no room for length and checksum, so no frame either
    have hno : ¬ (4 + leNat (a.buffer.take 4) + 4 ≤ a.length) := by omega
    simp only [hshort, if_true, hno, false_and, if_false]
    rfl
  · have hget : (DataView.mk a.buffer).getUint32 0 = .ok (leNat (a.buffer.take 4)) :=
      DataView.getUint32_eq_ok (by show 0 + 4 ≤ a.buffer.length; omega)
    simp only [hshort, if_false, hget, Except.bind]
    generalize leNat (a.buffer.take 4) = n
    by_cases hlen : a.length < 4 + n + 4
    · have hno : ¬ (4 + n + 4 ≤ a.length) := by omega
      simp only [hlen, if_true, hno, false_and, if_false]
      rfl
    · have hle : 4 + n + 4 ≤ a.length := by omega
      have hcrc : (DataView.mk a.buffer).getUint32 (4 + n) =
          .ok (leNat ((a.buffer.drop (4 + n)).take 4)) :=
        DataView.getUint32_eq_ok (by show 4 + n + 4 ≤ a.buffer.length; omega)
      have hslice : (a.slice 4 (4 + n)).bytes = (a.bytes.drop 4).take n := by
        rw [Uint8Array.bytes_slice, List.drop_take]
        congr 1
        omega
      simp only [hlen, if_false, hcrc, hslice, calculateCRC32_eq, hle, true_and]
      -- the checksums are compared as numbers of JavaScript
      by_cases heq :
          leNat ((a.buffer.drop (4 + n)).take 4) = (crc32 ((a.bytes.drop 4).take n)).toNat
      · simp only [heq, ne_eq, not_true_eq_false, if_false, if_true, Option.bind_some, valueOf]
      · have hne : (leNat ((a.buffer.drop (4 + n)).take 4) : Int) ≠
            (crc32 ((a.bytes.drop 4).take n)).toNat := by exact_mod_cast heq
        simp only [heq, if_false, if_pos hne, Option.bind_none, Option.getD_none]

/-- For an array of its own, the numbers are those of the array. -/
theorem decodeIPCMessage_eq (d : List UInt8) :
    decodeIPCMessage js (.ofBytes d) =
      .ok (((payloadOf d).bind (valueOf js)).getD js.null) := by
  rw [decodeIPCMessage_window, Uint8Array.bytes_ofBytes, Uint8Array.buffer_ofBytes,
    payloadIn_self]

/-! ## The encoder -/

/-- **What the encoder computes**: the frame of the JSON text. -/
theorem encodeIPCMessage_eq (message : Value) :
    encodeIPCMessage js message =
      .ok (.ofBytes (ipcFrame (js.encodeText (js.stringify message)))) := by
  unfold encodeIPCMessage
  dsimp only
  generalize js.encodeText (js.stringify message) = p
  -- the buffer is written part by part: length, payload, checksum
  have hzero : List.replicate (4 + p.length + 4) (0 : UInt8) =
      [] ++ List.replicate 4 0 ++ (List.replicate p.length 0 ++ List.replicate 4 0) := by
    rw [List.nil_append, List.replicate_append_replicate,
      List.replicate_append_replicate, Nat.add_assoc]
  have hlength : (DataView.mk (List.replicate (4 + p.length + 4) 0)).setUint32 0 p.length =
      .ok ⟨leBytes 4 p.length ++ List.replicate p.length 0 ++ List.replicate 4 0⟩ := by
    rw [hzero]
    have h := DataView.set_append [] (List.replicate 4 0)
      (List.replicate p.length 0 ++ List.replicate 4 0) (leBytes 4 p.length) (by simp)
    simpa [DataView.setUint32] using h
  have hpayload : (DataView.mk (leBytes 4 p.length ++ List.replicate p.length 0 ++
      List.replicate 4 0)).set 4 p = .ok ⟨leBytes 4 p.length ++ p ++ List.replicate 4 0⟩ := by
    have h := DataView.set_append (leBytes 4 p.length) (List.replicate p.length 0)
      (List.replicate 4 0) p (by simp)
    rwa [length_leBytes] at h
  have hcrc : (DataView.mk (leBytes 4 p.length ++ p ++ List.replicate 4 0)).setUint32
      (4 + p.length) (calculateCRC32 p).toNat = .ok ⟨ipcFrame p⟩ := by
    have h := DataView.set_append (leBytes 4 p.length ++ p) (List.replicate 4 0) []
      (leBytes 4 (crc32 p).toNat) (by simp)
    rw [List.append_nil, List.append_nil, List.length_append, length_leBytes] at h
    rw [calculateCRC32_eq, Int.toNat_natCast]
    exact h
  simp only [hlength, bind, Except.bind, hpayload, hcrc]
  rfl

/-- Decoding what was encoded, with any bytes after it. -/
theorem decode_encode {message : Value} {t : List UInt8}
    (hjson : js.parse (js.stringify message) = some message)
    (htext : js.decodeText (js.encodeText (js.stringify message)) = js.stringify message)
    (hsize : (js.encodeText (js.stringify message)).length < 2 ^ 32) :
    decodeIPCMessage js
        (.ofBytes (ipcFrame (js.encodeText (js.stringify message)) ++ t)) =
      .ok message := by
  rw [decodeIPCMessage_eq, payloadOf_eq_some_iff.mpr ⟨hsize, t, rfl⟩, Option.bind_some,
    valueOf, htext, hjson, Option.getD_some]

/-- **The wire format**: on every byte string the decoder returns normally; it
returns the value of `p` iff the string is framed with a payload `p` that is valid
JSON, and `null` if there is none; and it undoes the encoder on every message whose
JSON text survives the runtime's conversions and is shorter than `2 ^ 32` bytes. -/
theorem decodes_wire_format :
    (∀ d, ∃ v, decodeIPCMessage js (.ofBytes d) = .ok v) ∧
    (∀ d v, decodeIPCMessage js (.ofBytes d) = .ok v ↔
      (∃ p, Framed d p ∧ valueOf js p = some v) ∨
        (v = js.null ∧ ¬ ∃ p w, Framed d p ∧ valueOf js p = some w)) ∧
    (∀ message t, js.parse (js.stringify message) = some message →
      js.decodeText (js.encodeText (js.stringify message)) = js.stringify message →
      (js.encodeText (js.stringify message)).length < 2 ^ 32 →
      ∃ e, encodeIPCMessage js message = .ok e ∧
        decodeIPCMessage js (.ofBytes (e.bytes ++ t)) = .ok message) := by
  refine ⟨fun d => ⟨_, decodeIPCMessage_eq js d⟩, fun d v => ?_, ?_⟩
  · rw [decodeIPCMessage_eq, Except.ok.injEq]
    have hone : ∀ p, Framed d p → payloadOf d = some p :=
      fun p => payloadOf_eq_some_iff.mpr
    constructor
    · rintro rfl
      cases hp : payloadOf d with
      | none =>
        refine .inr ⟨rfl, ?_⟩
        rintro ⟨p, w, hframed, -⟩
        rw [hone p hframed] at hp
        cases hp
      | some p =>
        -- there is one framing only, so its payload decides
        have hframed := payloadOf_eq_some_iff.mp hp
        rw [Option.bind_some]
        cases hv : valueOf js p with
        | some w => exact .inl ⟨p, hframed, hv⟩
        | none =>
          refine .inr ⟨rfl, ?_⟩
          rintro ⟨q, w, hq, hw⟩
          rw [hq.unique hframed, hv] at hw
          cases hw
    · rintro (⟨p, hframed, hv⟩ | ⟨rfl, hnone⟩)
      · rw [hone p hframed, Option.bind_some, hv, Option.getD_some]
      · cases hp : payloadOf d with
        | none => rfl
        | some p =>
          cases hv : valueOf js p with
          | none => rw [Option.bind_some, hv, Option.getD_none]
          | some w =>
            exact absurd ⟨p, w, payloadOf_eq_some_iff.mp hp, hv⟩ hnone
  · intro message t hjson htext hsize
    refine ⟨_, encodeIPCMessage_eq js message, ?_⟩
    rw [Uint8Array.bytes_ofBytes]
    exact decode_encode js hjson htext hsize

/-- The runtime, on `null` and on the digits. -/
def digitRuntime : JsRuntime (Option (Fin 10)) (List Char) where
  null := none
  stringify
    | none => ['n', 'u', 'l', 'l']
    | some n => [Char.ofNat (48 + n.val)]
  parse
    | ['n', 'u', 'l', 'l'] => some none
    | [c] => if c.isDigit then some (some (Fin.ofNat 10 (c.toNat - 48))) else none
    | _ => none
  encodeText text := text.map fun c => UInt8.ofNat c.toNat
  decodeText bs := bs.map fun b => Char.ofNat b.toNat

/-- The message `7`, with a byte after it. -/
theorem decodes_digit :
    ∃ e, encodeIPCMessage digitRuntime (some 7) = .ok e ∧
      decodeIPCMessage digitRuntime (.ofBytes (e.bytes ++ [0xff])) = .ok (some 7) :=
  (decodes_wire_format digitRuntime).2.2 (some 7) [0xff] (by decide) (by decide)
    (by decide)

end SensorNet.Common
