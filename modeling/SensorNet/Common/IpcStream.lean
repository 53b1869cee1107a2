import SensorNet.Lib.PrefixCode
import SensorNet.Common.IpcWire

/-!
# Streams of IPC frames

Messages are sent over a serial line one after the other. The length at the start of a frame
makes the frames a prefix code: a receiver that decodes at the end of the frame before it gets
every message, and `null` at the end, also while the last frame has not arrived as a whole. And
what has arrived is not the beginning of another sequence of messages.
-/

namespace SensorNet.Common

open SensorNet.Js

variable {Value Text : Type} (js : JsRuntime Value Text)

/-- The text of the message in JSON -/
def textBytes (message : Value) : List UInt8 := js.encodeText (js.stringify message)

/-- The message survives the conversions of the runtime, and its length can be sent. -/
structure Sendable (message : Value) : Prop where
  json : js.parse (js.stringify message) = some message
  text : js.decodeText (textBytes js message) = js.stringify message
  size : (textBytes js message).length < 2 ^ 32

/-- What is sent for the messages, one after the other -/
def ipcStream (messages : List Value) : List UInt8 :=
  messages.flatMap fun message => ((encodeIPCMessage js message).toOption.map (·.bytes)).getD []

/-- A frame of which the end is missing -/
def PartOfFrame (tail : List UInt8) : Prop :=
  ∃ p missing, p.length < 2 ^ 32 ∧ missing ≠ [] ∧ ipcFrame p = tail ++ missing

theorem ipcStream_eq (messages : List Value) :
    ipcStream js messages = messages.flatMap fun message => ipcFrame (textBytes js message) := by
  unfold ipcStream
  refine congrArg (messages.flatMap ·) (funext fun message => ?_)
  rw [encodeIPCMessage_eq]
  exact Uint8Array.bytes_ofBytes _

/-- A frame is not the beginning of another one. -/
theorem ipcFrame_prefix {p q s t : List UInt8} (hp : p.length < 2 ^ 32) (hq : q.length < 2 ^ 32)
    (h : ipcFrame p ++ s = ipcFrame q ++ t) : p = q :=
  Framed.unique (d := ipcFrame p ++ s) ⟨hp, s, rfl⟩ ⟨hq, t, h⟩

/-- There is no whole frame in a part of one. -/
theorem PartOfFrame.not_framed {tail q : List UInt8} (h : PartOfFrame tail) : ¬ Framed tail q := by
  obtain ⟨p, missing, hp, hmissing, hframe⟩ := h
  rintro ⟨hq, rest, rfl⟩
  rw [List.append_assoc] at hframe
  have hsame : p = q := ipcFrame_prefix (s := []) hp hq (by rw [List.append_nil, hframe])
  subst hsame
  have hlength := congrArg List.length hframe
  rw [List.length_append, List.length_append] at hlength
  exact hmissing (List.eq_nil_of_length_eq_zero (by omega))

/-- The texts of messages are a prefix code, framed. -/
theorem prefixCode_frames :
    PrefixCode (Sendable js) fun message => ipcFrame (textBytes js message) := by
  intro a b s t ha hb h
  have htext : textBytes js a = textBytes js b := ipcFrame_prefix ha.size hb.size h
  have hvalue : some a = some b := by
    rw [← ha.json, ← hb.json, ← ha.text, ← hb.text, htext]
  exact Option.some.inj hvalue

theorem PartOfFrame.cutOff {tail : List UInt8} (h : PartOfFrame tail) :
    CutOff (Sendable js) (fun message => ipcFrame (textBytes js message)) tail := by
  rintro message hsend ⟨rest, hrest⟩
  exact h.not_framed ⟨hsend.size, rest, hrest.symm⟩

/-- The rest of a stream behind the first messages -/
theorem ipcStream_drop (messages : List Value) (tail : List UInt8) (k : Nat) :
    (ipcStream js messages ++ tail).drop (ipcStream js (messages.take k)).length =
      ipcStream js (messages.drop k) ++ tail := by
  have hsplit : ipcStream js messages =
      ipcStream js (messages.take k) ++ ipcStream js (messages.drop k) := by
    conv_lhs => rw [← List.take_append_drop k messages]
    exact List.flatMap_append
  rw [hsplit, List.append_assoc, List.drop_left]

/-- **Streams**: at the end of the first `k` frames the decoder gives the next message, and
`null` behind the last whole frame; and no other messages are sent as a stream of which the same
has arrived. -/
theorem ipcStream_decodes {messages : List Value} {tail : List UInt8}
    (hsend : ∀ message ∈ messages, Sendable js message) (htail : PartOfFrame tail) :
    (∀ k, decodeIPCMessage js (.ofBytes ((ipcStream js messages ++ tail).drop
        (ipcStream js (messages.take k)).length)) = .ok (messages[k]?.getD js.null)) ∧
    ∀ (others : List Value) (tail' : List UInt8), (∀ message ∈ others, Sendable js message) →
      PartOfFrame tail' → ipcStream js messages ++ tail = ipcStream js others ++ tail' →
        messages = others ∧ tail = tail' := by
  constructor
  · intro k
    rw [ipcStream_drop]
    cases hk : messages[k]? with
    | none =>
      rw [List.drop_eq_nil_of_le (List.getElem?_eq_none_iff.mp hk)]
      -- behind the last frame only its beginning is left
      have hnone : payloadOf tail = none := by
        refine Option.eq_none_iff_forall_ne_some.mpr fun q hq => ?_
        exact htail.not_framed (payloadOf_eq_some_iff.mp hq)
      show decodeIPCMessage js (.ofBytes tail) = _
      rw [decodeIPCMessage_eq, hnone]
      rfl
    | some message =>
      obtain ⟨hlt, hmessage⟩ := List.getElem?_eq_some_iff.mp hk
      have hmem := hsend message (List.mem_of_getElem? hk)
      rw [List.drop_eq_getElem_cons hlt, hmessage, ipcStream_eq, List.flatMap_cons,
        List.append_assoc]
      exact decode_encode js hmem.json hmem.text hmem.size
  · intro others tail' hothers htail' h
    -- no frame is a proper beginning of another one
    rw [ipcStream_eq, ipcStream_eq] at h
    exact (prefixCode_frames js).read_unique hsend hothers (htail.cutOff js) (htail'.cutOff js) h

/-- The digits `7` and `1` -/
def twoDigits : List (Option (Fin 10)) := [some ⟨7, by decide⟩, some ⟨1, by decide⟩]

/-- The length of what comes next, and nothing more, is behind them: the decoder finds the second
digit. -/
theorem twoDigits_decode :
    decodeIPCMessage digitRuntime (.ofBytes ((ipcStream digitRuntime twoDigits ++
      [1, 0, 0, 0]).drop (ipcStream digitRuntime (twoDigits.take 1)).length)) = .ok (some 1) := by
  have hsend : ∀ digit ∈ twoDigits, Sendable digitRuntime digit := by
    intro digit hmem
    rcases List.mem_cons.mp hmem with rfl | hmem
    · exact ⟨by decide, by decide, by decide⟩
    · cases List.mem_singleton.mp hmem
      exact ⟨by decide, by decide, by decide⟩
  have htail : PartOfFrame [1, 0, 0, 0] :=
    ⟨[0], 0 :: leBytes 4 (crc32 [0]).toNat, by decide, by simp, rfl⟩
  exact (ipcStream_decodes digitRuntime hsend htail).1 1

end SensorNet.Common
