import SensorNet.Lib.CrcBurst
import SensorNet.Common.IpcWire

/-!
# Corrupted IPC frames

What the decoder makes of a frame that was changed on its way.

- A burst of errors in the payload and the checksum is always noticed
  (`decode_burst`): the length is intact, so the decoder compares checksums over
  the same bytes, and two frames of one length are too far apart.
- The checksum does not cover the length. A length that is too large misses the
  end of the string; a smaller one cuts the JSON text short, and what is left of
  the text of an object is not JSON (`decode_wrong_length`), whatever the
  checksum says.
-/

namespace SensorNet.Common

open SensorNet.Js

/-- A frame is the length and a string with its checksum. -/
theorem ipcFrame_eq (p : List UInt8) : ipcFrame p = leBytes 4 p.length ++ codeword p := by
  rw [ipcFrame, codeword, List.append_assoc]

/-- Four bytes are the length they encode. -/
theorem length_of_leBytes {p q : List UInt8} (hp : p.length < 2 ^ 32) (hq : q.length < 2 ^ 32)
    (h : leBytes 4 q.length = leBytes 4 p.length) : q.length = p.length := by
  have hnum := congrArg leNat h
  rwa [leNat_leBytes_of_lt hq, leNat_leBytes_of_lt hp] at hnum

variable {Value Text : Type} (js : JsRuntime Value Text)

/-- The decoder gives `null` where no payload that it finds is JSON. -/
theorem decode_eq_null {d : List UInt8}
    (h : ∀ q, Framed d q → valueOf js q = none) :
    decodeIPCMessage js (.ofBytes d) = .ok js.null := by
  rw [decodeIPCMessage_eq]
  cases hq : payloadOf d with
  | none => rfl
  | some q => rw [Option.bind_some, h q (payloadOf_eq_some_iff.mp hq), Option.getD_none]

/-! ## Bursts -/

/-- `d` differs from `f`, in 32 consecutive bits at most, those from bit `s` on. -/
structure Burst (s : Nat) (f d : List UInt8) : Prop where
  length : d.length = f.length
  changed : d ≠ f
  window : ∀ i, (bitsOf d)[i]? ≠ (bitsOf f)[i]? → s ≤ i ∧ i < s + 32

/-- A burst after the first `h.length` bytes leaves these alone. -/
theorem Burst.head {s : Nat} {h h' r r' : List UInt8} (hb : Burst s (h ++ r) (h' ++ r'))
    (hlen : h'.length = h.length) (hs : 8 * h.length ≤ s) : h' = h := by
  refine bitsOf_injective (List.ext_getElem? fun i => ?_)
  by_cases hi : i < 8 * h.length
  · have h₁ : (bitsOf (h ++ r))[i]? = (bitsOf h)[i]? := by
      rw [bitsOf_append, List.getElem?_append_left (by rw [length_bitsOf]; exact hi)]
    have h₂ : (bitsOf (h' ++ r'))[i]? = (bitsOf h')[i]? := by
      rw [bitsOf_append, List.getElem?_append_left (by rw [length_bitsOf, hlen]; exact hi)]
    by_contra hne
    rw [← h₁, ← h₂] at hne
    have := hb.window i hne
    omega
  · rw [List.getElem?_eq_none (by rw [length_bitsOf]; omega),
      List.getElem?_eq_none (by rw [length_bitsOf]; omega)]

/-- What follows these bytes has the burst, so many bits earlier. -/
theorem Burst.tail {s : Nat} {h r r' : List UInt8} (hb : Burst s (h ++ r) (h ++ r'))
    (hs : 8 * h.length ≤ s) (i : Nat) (hi : (bitsOf r')[i]? ≠ (bitsOf r)[i]?) :
    s - 8 * h.length ≤ i ∧ i < s - 8 * h.length + 32 := by
  have hshift : ∀ u : List UInt8, (bitsOf (h ++ u))[8 * h.length + i]? = (bitsOf u)[i]? := by
    intro u
    rw [bitsOf_append, List.getElem?_append_right (by rw [length_bitsOf]; omega), length_bitsOf,
      Nat.add_sub_cancel_left]
  have hwin := hb.window (8 * h.length + i) (by rwa [hshift, hshift])
  omega

/-- **Bursts are noticed**: the frame of a message (with JSON text of less than
`2 ^ 32` bytes), changed within 32 consecutive bits of its payload and checksum, is
decoded as `null`. -/
theorem decode_burst {message : Value} {f : Uint8Array} {d : List UInt8} {s : Nat}
    (hsize : (js.encodeText (js.stringify message)).length < 2 ^ 32)
    (hf : encodeIPCMessage js message = .ok f) (hs : 32 ≤ s) (hburst : Burst s f.bytes d) :
    decodeIPCMessage js (.ofBytes d) = .ok js.null := by
  rw [encodeIPCMessage_eq] at hf
  cases hf
  rw [Uint8Array.bytes_ofBytes] at hburst
  generalize js.encodeText (js.stringify message) = p at hsize hburst
  refine decode_eq_null js fun q hq => ?_
  exfalso
  obtain ⟨hqlt, t, rfl⟩ := hq
  rw [ipcFrame_eq, ipcFrame_eq, List.append_assoc] at hburst
  have hhead : leBytes 4 q.length = leBytes 4 p.length :=
    hburst.head (by rw [length_leBytes, length_leBytes]) (by rw [length_leBytes]; exact hs)
  have hqp : q.length = p.length := length_of_leBytes hsize hqlt hhead
  -- nothing follows the frame, which has the length of the old one
  have ht : t = [] := by
    have hlen := hburst.length
    simp only [List.length_append, length_leBytes, length_codeword] at hlen
    exact List.length_eq_zero_iff.mp (by omega)
  rw [hhead, ht, List.append_nil] at hburst
  refine hburst.changed ?_
  rw [codeword_eq_of_burst hqp (hburst.tail (by rw [length_leBytes]; exact hs))]

/-- Only the bits of the string have to be looked at. -/
theorem burst_of_bits {s : Nat} {f d : List UInt8} (hlen : d.length = f.length) (hne : d ≠ f)
    (h : ∀ i < 8 * f.length, (bitsOf d)[i]? ≠ (bitsOf f)[i]? → s ≤ i ∧ i < s + 32) :
    Burst s f d := by
  refine ⟨hlen, hne, fun i hi => h i ?_ hi⟩
  by_contra hge
  refine hi ?_
  rw [List.getElem?_eq_none (by rw [length_bitsOf]; omega),
    List.getElem?_eq_none (by rw [length_bitsOf]; omega)]

/-- The runtime, on `null` and on the objects with one digit. -/
def objectRuntime : JsRuntime (Option (Fin 10)) (List Char) where
  null := none
  stringify
    | none => ['n', 'u', 'l', 'l']
    | some n => ['{', '"', 'n', '"', ':', Char.ofNat (48 + n.val), '}']
  parse
    | ['n', 'u', 'l', 'l'] => some none
    | ['{', '"', 'n', '"', ':', c, '}'] =>
      if c.isDigit then some (some ⟨(c.toNat - 48) % 10, Nat.mod_lt _ (by decide)⟩) else none
    | _ => none
  encodeText text := text.map fun c => UInt8.ofNat c.toNat
  decodeText bs := bs.map fun b => Char.ofNat b.toNat

/-- The bytes of the text of an object. -/
def objectText (n : Fin 10) : List UInt8 :=
  objectRuntime.encodeText (objectRuntime.stringify (some n))

/-- The frame of `{"n":7}`, with an error in its last brace. -/
theorem decode_broken_brace :
    decodeIPCMessage objectRuntime (.ofBytes ((ipcFrame (objectText 7)).set 10 0x7c)) =
      .ok none :=
  decode_burst objectRuntime (by decide) (encodeIPCMessage_eq objectRuntime (some 7))
    (by decide : 32 ≤ 80) (burst_of_bits (by decide) (by decide +kernel) (by decide +kernel))

/-! ## The length -/

/-- What `JSON.parse` is assumed to do with the text of `v`: it rejects every proper
prefix, also one that ends inside a character. -/
def RejectsPrefixes (v : Value) : Prop :=
  ∀ q, q <+: js.encodeText (js.stringify v) → q ≠ js.encodeText (js.stringify v) →
    js.parse (js.decodeText q) = none

/-- The runtime on the objects with one digit. -/
theorem objectRuntime_rejects (v : Option (Fin 10)) (hv : v.isSome) :
    RejectsPrefixes objectRuntime v := by
  obtain ⟨n, rfl⟩ := Option.isSome_iff_exists.mp hv
  have hall : ∀ n : Fin 10, ∀ k < 7,
      objectRuntime.parse (objectRuntime.decodeText ((objectText n).take k)) = none := by
    decide
  intro q hq hne
  have hlen : q.length < (objectText n).length :=
    lt_of_le_of_ne hq.length_le fun h => hne (hq.eq_of_length h)
  rw [List.prefix_iff_eq_take.mp hq]
  exact hall n q.length hlen

/-- **A wrong length is noticed**: the frame of an object, with four other bytes for its
length, is decoded as `null`. -/
theorem decode_wrong_length {isObject : Value → Prop}
    (hparse : ∀ v, isObject v → RejectsPrefixes js v) {message : Value}
    (hobject : isObject message) {f : Uint8Array} {length : List UInt8}
    (hf : encodeIPCMessage js message = .ok f)
    (hlength : length.length = 4) (hwrong : length ≠ f.bytes.take 4) :
    decodeIPCMessage js (.ofBytes (length ++ f.bytes.drop 4)) = .ok js.null := by
  have hprefix := hparse message hobject
  unfold RejectsPrefixes at hprefix
  rw [encodeIPCMessage_eq] at hf
  cases hf
  rw [Uint8Array.bytes_ofBytes] at hwrong ⊢
  generalize js.encodeText (js.stringify message) = p at hprefix hwrong ⊢
  rw [ipcFrame_eq, List.take_left' (length_leBytes ..)] at hwrong
  rw [ipcFrame_eq, List.drop_left' (length_leBytes ..)]
  refine decode_eq_null js fun q hq => ?_
  obtain ⟨-, t, ht⟩ := hq
  rw [ipcFrame_eq, List.append_assoc] at ht
  obtain ⟨hhead, htail⟩ := List.append_inj ht (by rw [length_leBytes, hlength])
  have hne : q.length ≠ p.length := fun heq => hwrong (by rw [hhead, heq])
  -- the payload found and its checksum fit into the old ones, so it is shorter
  have hlt : q.length < p.length := by
    have hlen := congrArg List.length htail
    simp only [List.length_append, length_codeword] at hlen
    omega
  have hqp : q <+: codeword p := by
    rw [htail, codeword, List.append_assoc]
    exact List.prefix_append ..
  have hq : q <+: p := List.prefix_of_prefix_length_le hqp (List.prefix_append ..) hlt.le
  exact hprefix q hq fun heq => hne (congrArg List.length heq)

/-- The frame of `{"n":7}`, with the length 6. -/
theorem decode_short_length :
    decodeIPCMessage objectRuntime
        (.ofBytes ([6, 0, 0, 0] ++ (ipcFrame (objectText 7)).drop 4)) = .ok none := by
  have hwrong : [6, 0, 0, 0] ≠
      (Uint8Array.ofBytes (ipcFrame (objectText 7))).bytes.take 4 := by
    rw [Uint8Array.bytes_ofBytes, ipcFrame_eq, List.take_left' (length_leBytes ..)]
    decide
  have h := decode_wrong_length objectRuntime objectRuntime_rejects
    (rfl : (some (7 : Fin 10)).isSome) (encodeIPCMessage_eq objectRuntime (some 7)) rfl hwrong
  rwa [Uint8Array.bytes_ofBytes] at h

end SensorNet.Common
