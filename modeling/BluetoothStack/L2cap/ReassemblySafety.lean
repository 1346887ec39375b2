import Mathlib
import BluetoothStack.L2cap.Reassembly
import BluetoothStack.L2cap.TxWindow

/-!
# ERTM reassembly is memory-safe and length-exact

`SarSafe c` says that no SDU is in progress, or that the SDU in progress holds at most
`rx_sdu_len` bytes, that `rx_sdu_len` is within `max_rx_mtu`, and that the SDU's storage has room
for `rx_sdu_len` bytes after its offset. Every frame keeps it, whatever its SAR bits and bytes
(`sarSafe_doSarReassembly`). Every run from a channel with no SDU in progress therefore keeps it
(`sarSafe_sarReceive`).

`doSarReassembly_cases` says once what a frame can do; the rest follows from it:
  - a frame is refused, leaving the channel as it was, when the SAR state does not admit it
    (`doSarReassembly_wrong_state`);
  - an accepted segmented frame is copied after the bytes the SDU buffer holds, and the copy ends
    within the `rx_sdu_len` bytes of that buffer (`copyWithin_of_sarSafe`);
  - an SDU handed up from a segmented sequence has exactly `rx_sdu_len` bytes
    (`doSarReassembly_sdu_len`), and that is the length which the start frame that opened it
    announced (`announcedBy_of_pending`).

The main theorem `ertm_sar_reassembly_safe` puts these together for the frame that follows any
sequence of frames.
-/

namespace BluetoothStack.L2cap

open Bytes

/-! ## The properties -/

/-- The SDU in progress, if any, holds at most `rx_sdu_len` bytes, `rx_sdu_len` is within the
MTU, and the SDU's storage has room for `rx_sdu_len` bytes after its offset. -/
def SarSafe (c : Ccb) : Prop :=
  ∀ rx, c.fcrb.pRxSdu = some rx →
    rx.len ≤ c.fcrb.rxSduLen ∧ c.fcrb.rxSduLen ≤ c.maxRxMtu ∧
      rx.offset + c.fcrb.rxSduLen ≤ rx.data.length

/-- The SAR state does not admit the frame: an unsegmented or start frame while an SDU is in
progress, or a continuation or end frame while none is. -/
def SarStateWrong (c : Ccb) (ctrlWord : Nat) : Prop :=
  let sarType := ctrlWord &&& l2capFcrSegBits
  ((sarType = l2capFcrUnsegSdu ∨ sarType = l2capFcrStartSdu) ∧ c.fcrb.pRxSdu.isSome) ∨
    (sarType ≠ l2capFcrUnsegSdu ∧ sarType ≠ l2capFcrStartSdu ∧ c.fcrb.pRxSdu = none)

/-- An accepted segmented frame's bytes `p` are copied after the `rx.len` bytes of the SDU buffer
`rx`: the one in progress, or the one a start frame opens, the frame then without its SDU length
field. The copy ends within the `rx_sdu_len` bytes of the buffer, which lie in its storage, and
gives the SDU in progress or the SDU handed up. -/
def CopyWithin (c : Ccb) (pBuf : BtHdr) (ctrlWord : Nat) : Prop :=
  let r := doSarReassembly c pBuf ctrlWord
  r.packetOk = true → ctrlWord &&& l2capFcrSegBits ≠ l2capFcrUnsegSdu →
    ∃ rx p, (c.fcrb.pRxSdu = some rx ∧ p = pBuf ∨
        c.fcrb.pRxSdu = none ∧ rx = rxSduBuffer r.ccb.fcrb.rxSduLen ∧ p = pBuf.skip 2) ∧
      rx.len + p.len ≤ r.ccb.fcrb.rxSduLen ∧ rx.offset + r.ccb.fcrb.rxSduLen ≤ rx.data.length ∧
      (r.ccb.fcrb.pRxSdu = some (rx.appendPayload p) ∨ r.sdu = some (rx.appendPayload p))

/-- The SDU in progress after the frames `pre` was opened by a start frame `g` of `pre`, which
announced `n` bytes: no SDU was in progress before `g`, and one has been after `g` and after
each later frame. -/
def AnnouncedBy (c : Ccb) (pre : List (BtHdr × Nat)) (n : Nat) : Prop :=
  ∃ pre₁ g pre₂, pre = pre₁ ++ g :: pre₂ ∧ g.2 &&& l2capFcrSegBits = l2capFcrStartSdu ∧
    streamToUint16 g.1.data g.1.offset = n ∧ (sarReceive c pre₁).1.fcrb.pRxSdu = none ∧
    ∀ k ≤ pre₂.length, ((sarReceive c (pre₁ ++ g :: pre₂.take k)).1.fcrb.pRxSdu).isSome

/-- What reassembly guarantees at the frame `(pBuf, ctrlWord)` that follows the frames `pre`
received from `c`: the invariant holds before and after it; it is refused if the SAR state does
not admit it; if it is an accepted segmented frame, it is copied within the SDU buffer; and an
SDU it hands up from a segmented sequence has the `rx_sdu_len` of the channel, lies in its
storage, and has the length that the start frame which opened it announced. -/
def SarStepSafe (c : Ccb) (pre : List (BtHdr × Nat)) (pBuf : BtHdr) (ctrlWord : Nat) : Prop :=
  let c₀ := (sarReceive c pre).1
  let r := doSarReassembly c₀ pBuf ctrlWord
  SarSafe c₀ ∧ SarSafe r.ccb ∧ (SarStateWrong c₀ ctrlWord → r.packetOk = false) ∧
    CopyWithin c₀ pBuf ctrlWord ∧
    ∀ sdu, r.sdu = some sdu → ctrlWord &&& l2capFcrSegBits ≠ l2capFcrUnsegSdu →
      sdu.len = c₀.fcrb.rxSduLen ∧ sdu.Fits ∧ AnnouncedBy c pre sdu.len

/-! ## What a frame can do -/

@[simp] theorem rxSduBuffer_len (n : Nat) : (rxSduBuffer n).len = 0 := rfl

@[simp] theorem rxSduBuffer_offset (n : Nat) : (rxSduBuffer n).offset = obxBufMinOffset := rfl

/-- `osi_malloc` gives the SDU buffer room for `rx_sdu_len` bytes after its offset. -/
theorem rxSduBuffer_room (n : Nat) :
    (rxSduBuffer n).offset + n ≤ (rxSduBuffer n).data.length := by
  simp [rxSduBuffer, osiMallocBuf, btHdrSize, obxBufMinOffset]
  omega

/-- What `sarAppend` can do: refuse the frame and leave the channel, or copy it after the SDU's
bytes, within `rx_sdu_len`, and then keep the SDU in progress, or hand it up when an end frame
completes it. -/
theorem sarAppend_cases (c : Ccb) (rx pBuf : BtHdr) (sarType : Nat) :
    sarAppend c rx pBuf sarType = ⟨c, false, none⟩ ∨
      rx.len + pBuf.len ≤ c.fcrb.rxSduLen ∧
        (sarType ≠ l2capFcrEndSdu ∧ sarAppend c rx pBuf sarType =
            ⟨{ c with fcrb := { c.fcrb with pRxSdu := some (rx.appendPayload pBuf) } }, true,
              none⟩ ∨
          sarType = l2capFcrEndSdu ∧ rx.len + pBuf.len = c.fcrb.rxSduLen ∧
            sarAppend c rx pBuf sarType =
              ⟨{ c with fcrb := { c.fcrb with pRxSdu := none } }, true,
                some (rx.appendPayload pBuf)⟩) := by
  by_cases hover : rx.len + pBuf.len > c.fcrb.rxSduLen
  · -- "SDU len exceeded"
    left
    simp [sarAppend, hover]
  by_cases hend : sarType = l2capFcrEndSdu
  · by_cases hshort : rx.len + pBuf.len = c.fcrb.rxSduLen
    · -- an end frame completing the SDU
      subst hend
      exact .inr ⟨by omega, .inr ⟨rfl, hshort, sarAppend_end hshort⟩⟩
    · -- "SDU end rcvd but SDU incomplete"
      left
      simp [sarAppend, hover, hend, hshort]
  · -- a start or continuation frame
    exact .inr ⟨by omega, .inl ⟨hend, sarAppend_of_ne_end hend (by omega)⟩⟩

section Frame

variable {c : Ccb} {pBuf : BtHdr} {ctrlWord : Nat}

theorem doSarReassembly_refused (hok : sarStateOk c pBuf (ctrlWord &&& l2capFcrSegBits) = false) :
    doSarReassembly c pBuf ctrlWord = ⟨c, false, none⟩ := by
  simp [doSarReassembly, hok]

/-- A start frame announcing more than the MTU is refused once it has set `rx_sdu_len`. -/
theorem doSarReassembly_start_over_mtu (hnone : c.fcrb.pRxSdu = none)
    (hsar : ctrlWord &&& l2capFcrSegBits = l2capFcrStartSdu)
    (hhdr : l2capSduLenOverhead ≤ pBuf.len)
    (hmtu : c.maxRxMtu < streamToUint16 pBuf.data pBuf.offset) :
    doSarReassembly c pBuf ctrlWord =
      ⟨{ c with fcrb := { c.fcrb with rxSduLen := streamToUint16 pBuf.data pBuf.offset } },
        false, none⟩ := by
  have hok : sarStateOk c pBuf l2capFcrStartSdu = true := by
    have hlen : ¬pBuf.len < l2capSduLenOverhead := Nat.not_lt.2 hhdr
    simp [sarStateOk, hnone, hlen]
  have hstart : l2capFcrStartSdu ≠ l2capFcrUnsegSdu := by decide
  simp only [doSarReassembly, hsar, hok, hstart, Bool.not_true, if_false, if_true]
  simp [sarStart, hmtu]

/-- With an SDU in progress, a frame that is neither unsegmented nor a start goes to the
append. -/
theorem doSarReassembly_of_pending {rx : BtHdr} (hrx : c.fcrb.pRxSdu = some rx)
    (hu : ctrlWord &&& l2capFcrSegBits ≠ l2capFcrUnsegSdu)
    (hs : ctrlWord &&& l2capFcrSegBits ≠ l2capFcrStartSdu) :
    doSarReassembly c pBuf ctrlWord = sarAppend c rx pBuf (ctrlWord &&& l2capFcrSegBits) := by
  simp [doSarReassembly, sarStateOk, hu, hs, hrx]

/-- **What a frame can do.** It is refused by the SAR state; or it is unsegmented and handed up;
or it is a start frame, refused above the MTU or opening an SDU buffer of the length it
announces before the append; or an SDU is in progress and the frame goes to the append. -/
theorem doSarReassembly_cases (c : Ccb) (pBuf : BtHdr) (ctrlWord : Nat) :
    (sarStateOk c pBuf (ctrlWord &&& l2capFcrSegBits) = false ∧
      doSarReassembly c pBuf ctrlWord = ⟨c, false, none⟩) ∨
    (ctrlWord &&& l2capFcrSegBits = l2capFcrUnsegSdu ∧ c.fcrb.pRxSdu = none ∧
      doSarReassembly c pBuf ctrlWord = ⟨c, true, some pBuf⟩) ∨
    (ctrlWord &&& l2capFcrSegBits = l2capFcrStartSdu ∧ c.fcrb.pRxSdu = none ∧
      l2capSduLenOverhead ≤ pBuf.len ∧ c.maxRxMtu < streamToUint16 pBuf.data pBuf.offset ∧
      doSarReassembly c pBuf ctrlWord =
        ⟨{ c with fcrb := { c.fcrb with rxSduLen := streamToUint16 pBuf.data pBuf.offset } },
          false, none⟩) ∨
    (ctrlWord &&& l2capFcrSegBits = l2capFcrStartSdu ∧ c.fcrb.pRxSdu = none ∧
      l2capSduLenOverhead ≤ pBuf.len ∧ streamToUint16 pBuf.data pBuf.offset ≤ c.maxRxMtu ∧
      ∃ c₁ : Ccb, c₁.fcrb.rxSduLen = streamToUint16 pBuf.data pBuf.offset ∧
        c₁.fcrb.pRxSdu = some (rxSduBuffer (streamToUint16 pBuf.data pBuf.offset)) ∧
        c₁.maxRxMtu = c.maxRxMtu ∧
        doSarReassembly c pBuf ctrlWord =
          sarAppend c₁ (rxSduBuffer (streamToUint16 pBuf.data pBuf.offset)) (pBuf.skip 2)
            l2capFcrStartSdu) ∨
    (ctrlWord &&& l2capFcrSegBits ≠ l2capFcrUnsegSdu ∧
      ctrlWord &&& l2capFcrSegBits ≠ l2capFcrStartSdu ∧ ∃ rx, c.fcrb.pRxSdu = some rx ∧
        doSarReassembly c pBuf ctrlWord = sarAppend c rx pBuf (ctrlWord &&& l2capFcrSegBits)) := by
  by_cases hok : sarStateOk c pBuf (ctrlWord &&& l2capFcrSegBits) = true
  swap
  · exact .inl ⟨by simpa using hok, doSarReassembly_refused (by simpa using hok)⟩
  by_cases hu : ctrlWord &&& l2capFcrSegBits = l2capFcrUnsegSdu
  · have hnone : c.fcrb.pRxSdu = none := by
      rw [sarStateOk, if_pos (.inl hu)] at hok
      simp only [Bool.and_eq_true, Option.isNone_iff_eq_none] at hok
      exact hok.1
    exact .inr (.inl ⟨hu, hnone, doSarReassembly_unseg hnone hu⟩)
  by_cases hs : ctrlWord &&& l2capFcrSegBits = l2capFcrStartSdu
  · -- a start frame: no SDU in progress, and room for the SDU length field
    have hadmit : c.fcrb.pRxSdu = none ∧ l2capSduLenOverhead ≤ pBuf.len := by
      rw [sarStateOk, if_pos (.inr hs)] at hok
      simp only [hs, Bool.and_eq_true, Option.isNone_iff_eq_none, decide_true, Bool.true_and,
        Bool.not_eq_eq_eq_not, Bool.not_true, decide_eq_false_iff_not, Nat.not_lt] at hok
      exact hok
    by_cases hmtu : streamToUint16 pBuf.data pBuf.offset ≤ c.maxRxMtu
    · exact .inr (.inr (.inr (.inl ⟨hs, hadmit.1, hadmit.2, hmtu,
        { c with fcrb := { c.fcrb with
          rxSduLen := streamToUint16 pBuf.data pBuf.offset
          pRxSdu := some (rxSduBuffer (streamToUint16 pBuf.data pBuf.offset)) } },
        rfl, rfl, rfl, doSarReassembly_of_start hadmit.1 hs hadmit.2 hmtu⟩)))
    · have hover : c.maxRxMtu < streamToUint16 pBuf.data pBuf.offset := by omega
      exact .inr (.inr (.inl ⟨hs, hadmit.1, hadmit.2, hover,
        doSarReassembly_start_over_mtu hadmit.1 hs hadmit.2 hover⟩))
  · -- a continuation or end frame: an SDU is in progress
    obtain ⟨rx, hrx⟩ : ∃ rx, c.fcrb.pRxSdu = some rx := by
      simp only [sarStateOk, hu, hs, or_self, if_false] at hok
      exact Option.isSome_iff_exists.1 hok
    exact .inr (.inr (.inr (.inr ⟨hu, hs, rx, hrx, doSarReassembly_of_pending hrx hu hs⟩)))

end Frame

/-! ## The invariant -/

/-- The append keeps the invariant: the SDU grows within `rx_sdu_len`, in the same storage. -/
theorem sarSafe_sarAppend {c : Ccb} {rx : BtHdr} (hsafe : SarSafe c)
    (hrx : c.fcrb.pRxSdu = some rx) (pBuf : BtHdr) (sarType : Nat) :
    SarSafe (sarAppend c rx pBuf sarType).ccb := by
  obtain ⟨-, hmtu, hroom⟩ := hsafe rx hrx
  rcases sarAppend_cases c rx pBuf sarType with h | ⟨hle, ⟨-, h⟩ | ⟨-, -, h⟩⟩ <;> rw [h]
  · exact hsafe
  · intro rx' hrx'
    cases hrx'
    simp only [BtHdr.appendPayload_len, BtHdr.appendPayload_offset,
      BtHdr.length_appendPayload_data]
    exact ⟨hle, hmtu, hroom⟩
  · intro rx' hrx'
    cases hrx'

/-- Every frame keeps the invariant. -/
theorem sarSafe_doSarReassembly {c : Ccb} (hsafe : SarSafe c) (pBuf : BtHdr) (ctrlWord : Nat) :
    SarSafe (doSarReassembly c pBuf ctrlWord).ccb := by
  rcases doSarReassembly_cases c pBuf ctrlWord with
    ⟨-, h⟩ | ⟨-, -, h⟩ | ⟨-, hnone, -, -, h⟩ |
      ⟨-, -, -, hmtu, c₁, hlen₁, hrx₁, hmtu₁, h⟩ | ⟨-, -, rx, hrx, h⟩ <;>
    rw [h]
  · exact hsafe
  · exact hsafe
  · -- refused above the MTU: still no SDU in progress
    intro rx hrx
    simp [hnone] at hrx
  · -- a new SDU buffer, empty, with room for the announced length
    refine sarSafe_sarAppend ?_ hrx₁ _ _
    intro rx hrx
    rw [hrx₁] at hrx
    cases hrx
    rw [hlen₁, hmtu₁]
    exact ⟨Nat.zero_le _, hmtu, rxSduBuffer_room _⟩
  · exact sarSafe_sarAppend hsafe hrx _ _

theorem sarSafe_of_none {c : Ccb} (hnone : c.fcrb.pRxSdu = none) : SarSafe c := by
  intro rx hrx
  simp [hnone] at hrx

/-- Every run keeps the invariant. By induction on the frames. -/
theorem sarSafe_sarReceive : ∀ (frames : List (BtHdr × Nat)) {c : Ccb}, SarSafe c →
    SarSafe (sarReceive c frames).1
  | [], _, hsafe => hsafe
  | (pBuf, ctrlWord) :: frames, _, hsafe =>
    sarSafe_sarReceive frames (sarSafe_doSarReassembly hsafe pBuf ctrlWord)

/-! ## Refusals, copies and lengths -/

section Frame

variable {c : Ccb} {pBuf : BtHdr} {ctrlWord : Nat}

/-- A frame the SAR state does not admit is refused and leaves the channel as it was. -/
theorem doSarReassembly_wrong_state (h : SarStateWrong c ctrlWord) :
    doSarReassembly c pBuf ctrlWord = ⟨c, false, none⟩ := by
  apply doSarReassembly_refused
  rcases h with ⟨hsar, hsome⟩ | ⟨hu, hs, hnone⟩
  · have hne : c.fcrb.pRxSdu ≠ none := Option.isSome_iff_ne_none.1 hsome
    rcases hsar with hsar | hsar <;> simp [sarStateOk, hsar, hne]
  · simp [sarStateOk, hu, hs, hnone]

/-- Under the invariant, every accepted segmented frame is copied within the SDU buffer. -/
theorem copyWithin_of_sarSafe (hsafe : SarSafe c) : CopyWithin c pBuf ctrlWord := by
  intro hok hseg
  rcases doSarReassembly_cases c pBuf ctrlWord with
    ⟨-, h⟩ | ⟨hu, -, -⟩ | ⟨-, -, -, -, h⟩ | ⟨-, hnone, -, -, c₁, hlen₁, -, -, h⟩ |
      ⟨-, -, rx, hrx, h⟩
  · simp [h] at hok
  · exact absurd hu hseg
  · simp [h] at hok
  · -- a start frame: its bytes after the length field go into the new buffer
    rw [h] at hok ⊢
    rcases sarAppend_cases c₁ (rxSduBuffer (streamToUint16 pBuf.data pBuf.offset)) (pBuf.skip 2)
        l2capFcrStartSdu with h' | ⟨hle, ⟨-, h'⟩ | ⟨hend, -⟩⟩
    · simp [h'] at hok
    · rw [h']
      dsimp only
      rw [hlen₁] at hle ⊢
      exact ⟨_, _, .inr ⟨hnone, rfl, rfl⟩, hle, rxSduBuffer_room _, .inl rfl⟩
    · exact absurd hend (by decide)
  · -- a continuation or end frame: its bytes go after those of the SDU in progress
    obtain ⟨-, -, hroom⟩ := hsafe rx hrx
    rw [h] at hok ⊢
    rcases sarAppend_cases c rx pBuf (ctrlWord &&& l2capFcrSegBits) with
      h' | ⟨hle, ⟨-, h'⟩ | ⟨-, -, h'⟩⟩
    · simp [h'] at hok
    · rw [h']
      exact ⟨rx, pBuf, .inl ⟨hrx, rfl⟩, hle, hroom, .inl rfl⟩
    · rw [h']
      exact ⟨rx, pBuf, .inl ⟨hrx, rfl⟩, hle, hroom, .inr rfl⟩

/-- An SDU handed up from a segmented sequence completes the SDU in progress: it has exactly
`rx_sdu_len` bytes, which lie in its storage. -/
theorem doSarReassembly_sdu_len (hsafe : SarSafe c) {sdu : BtHdr}
    (hsdu : (doSarReassembly c pBuf ctrlWord).sdu = some sdu)
    (hseg : ctrlWord &&& l2capFcrSegBits ≠ l2capFcrUnsegSdu) :
    c.fcrb.pRxSdu.isSome ∧ sdu.len = c.fcrb.rxSduLen ∧ sdu.Fits := by
  rcases doSarReassembly_cases c pBuf ctrlWord with
    ⟨-, h⟩ | ⟨hu, -, -⟩ | ⟨-, -, -, -, h⟩ | ⟨-, -, -, -, c₁, -, -, -, h⟩ | ⟨-, -, rx, hrx, h⟩
  · simp [h] at hsdu
  · exact absurd hu hseg
  · simp [h] at hsdu
  · -- a start frame hands nothing up
    rw [h] at hsdu
    rcases sarAppend_cases c₁ (rxSduBuffer (streamToUint16 pBuf.data pBuf.offset)) (pBuf.skip 2)
        l2capFcrStartSdu with h' | ⟨-, ⟨-, h'⟩ | ⟨hend, -⟩⟩
    · simp [h'] at hsdu
    · simp [h'] at hsdu
    · exact absurd hend (by decide)
  · obtain ⟨-, -, hroom⟩ := hsafe rx hrx
    rw [h] at hsdu
    rcases sarAppend_cases c rx pBuf (ctrlWord &&& l2capFcrSegBits) with
      h' | ⟨-, ⟨-, h'⟩ | ⟨-, heq, h'⟩⟩
    · simp [h'] at hsdu
    · simp [h'] at hsdu
    · rw [h'] at hsdu
      cases hsdu
      refine ⟨by simp [hrx], by simpa using heq, ?_⟩
      unfold BtHdr.Fits
      simp only [BtHdr.appendPayload_offset, BtHdr.appendPayload_len,
        BtHdr.length_appendPayload_data]
      omega

/-- While an SDU is in progress, `rx_sdu_len` stays: a start frame is refused before it reads
its length field. -/
theorem rxSduLen_of_pending (hsome : c.fcrb.pRxSdu.isSome) :
    (doSarReassembly c pBuf ctrlWord).ccb.fcrb.rxSduLen = c.fcrb.rxSduLen := by
  rcases doSarReassembly_cases c pBuf ctrlWord with
    ⟨-, h⟩ | ⟨-, hnone, -⟩ | ⟨-, hnone, -⟩ | ⟨-, hnone, -⟩ | ⟨-, -, rx, -, h⟩
  · rw [h]
  · simp [hnone] at hsome
  · simp [hnone] at hsome
  · simp [hnone] at hsome
  · rw [h]
    rcases sarAppend_cases c rx pBuf (ctrlWord &&& l2capFcrSegBits) with
      h' | ⟨-, ⟨-, h'⟩ | ⟨-, -, h'⟩⟩ <;> rw [h']

/-- An SDU comes to be in progress only by a start frame, whose length field becomes
`rx_sdu_len`. -/
theorem opened_by_start (hnone : c.fcrb.pRxSdu = none)
    (hsome : (doSarReassembly c pBuf ctrlWord).ccb.fcrb.pRxSdu.isSome) :
    ctrlWord &&& l2capFcrSegBits = l2capFcrStartSdu ∧
      (doSarReassembly c pBuf ctrlWord).ccb.fcrb.rxSduLen =
        streamToUint16 pBuf.data pBuf.offset := by
  rcases doSarReassembly_cases c pBuf ctrlWord with
    ⟨-, h⟩ | ⟨-, -, h⟩ | ⟨-, -, -, -, h⟩ | ⟨hs, -, -, -, c₁, hlen₁, -, -, h⟩ | ⟨-, -, rx, hrx, -⟩
  · rw [h] at hsome
    simp [hnone] at hsome
  · rw [h] at hsome
    simp [hnone] at hsome
  · rw [h] at hsome
    simp [hnone] at hsome
  · refine ⟨hs, ?_⟩
    rw [h]
    rcases sarAppend_cases c₁ (rxSduBuffer (streamToUint16 pBuf.data pBuf.offset)) (pBuf.skip 2)
        l2capFcrStartSdu with h' | ⟨-, ⟨-, h'⟩ | ⟨-, -, h'⟩⟩ <;> rw [h'] <;> exact hlen₁
  · simp [hnone] at hrx

end Frame

/-! ## Runs -/

theorem sarReceive_append_fst (c : Ccb) (pre post : List (BtHdr × Nat)) :
    (sarReceive c (pre ++ post)).1 = (sarReceive (sarReceive c pre).1 post).1 := by
  induction pre generalizing c with
  | nil => rfl
  | cons f pre ih => exact ih _

theorem sarReceive_concat_fst (c : Ccb) (pre : List (BtHdr × Nat)) (f : BtHdr × Nat) :
    (sarReceive c (pre ++ [f])).1 = (doSarReassembly (sarReceive c pre).1 f.1 f.2).ccb := by
  rw [sarReceive_append_fst]
  rfl

/-- The SDU in progress after any run from a channel with none was announced by the start frame
that opened it. By induction on the run from its end: the frame that opens the SDU is that start
frame, and later frames leave `rx_sdu_len` alone. -/
theorem announcedBy_of_pending {c : Ccb} (hnone : c.fcrb.pRxSdu = none)
    (pre : List (BtHdr × Nat)) (hsome : ((sarReceive c pre).1.fcrb.pRxSdu).isSome) :
    AnnouncedBy c pre (sarReceive c pre).1.fcrb.rxSduLen := by
  induction pre using List.reverseRecOn with
  | nil => simp [sarReceive, hnone] at hsome
  | append_singleton pre f ih =>
    rw [sarReceive_concat_fst] at hsome ⊢
    cases hprev : ((sarReceive c pre).1.fcrb.pRxSdu).isSome with
    | true =>
      -- the SDU was already in progress: the same start frame announced it
      obtain ⟨pre₁, g, pre₂, rfl, hg, hlen, hbefore, hafter⟩ := ih hprev
      refine ⟨pre₁, g, pre₂ ++ [f], by simp, hg, ?_, hbefore, ?_⟩
      · rw [rxSduLen_of_pending hprev, hlen]
      · intro k hk
        rcases Nat.lt_or_ge k (pre₂.length + 1) with hk' | hk'
        · rw [List.take_append_of_le_length (by omega)]
          exact hafter k (by omega)
        · have hall : (pre₂ ++ [f]).take k = pre₂ ++ [f] :=
            List.take_of_length_le (by simp; omega)
          rw [hall, ← List.cons_append, ← List.append_assoc, sarReceive_concat_fst]
          simpa using hsome
    | false =>
      -- this frame opened the SDU
      have hnone' : (sarReceive c pre).1.fcrb.pRxSdu = none := by simpa using hprev
      obtain ⟨hs, hlen⟩ := opened_by_start hnone' hsome
      refine ⟨pre, f, [], by simp, hs, hlen.symm, hnone', ?_⟩
      intro k hk
      simp only [List.length_nil, Nat.le_zero] at hk
      subst hk
      rw [List.take_zero, sarReceive_concat_fst]
      exact hsome

/-! ## The frame after any sequence of frames -/

/-- **ERTM reassembly is memory-safe and length-exact.** After any sequence of frames from a
channel with no SDU in progress, every next frame, whatever its SAR bits and bytes, is handled as
`SarStepSafe` says. -/
theorem ertm_sar_reassembly_safe {c : Ccb} (hnone : c.fcrb.pRxSdu = none)
    (pre : List (BtHdr × Nat)) (pBuf : BtHdr) (ctrlWord : Nat) :
    SarStepSafe c pre pBuf ctrlWord := by
  have hsafe := sarSafe_sarReceive pre (sarSafe_of_none hnone)
  refine ⟨hsafe, sarSafe_doSarReassembly hsafe pBuf ctrlWord, fun hwrong => ?_,
    copyWithin_of_sarSafe hsafe, fun sdu hsdu hseg => ?_⟩
  · rw [doSarReassembly_wrong_state hwrong]
  · obtain ⟨hsome, hlen, hfits⟩ := doSarReassembly_sdu_len hsafe hsdu hseg
    refine ⟨hlen, hfits, ?_⟩
    rw [hlen]
    exact announcedBy_of_pending hnone pre hsome

/-- A start frame announcing two bytes and carrying one, then an end frame carrying the other. -/
theorem ertm_sar_reassembly_safe_twoByteSdu :
    ertmChannel.fcrb.pRxSdu = none ∧
      SarStepSafe ertmChannel [(⟨0, 3, 0, 0, [2, 0, 9]⟩, l2capFcrStartSdu)] ⟨0, 1, 0, 0, [8]⟩
        l2capFcrEndSdu :=
  ⟨rfl, ertm_sar_reassembly_safe rfl _ _ _⟩

end BluetoothStack.L2cap
