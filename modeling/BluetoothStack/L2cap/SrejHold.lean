import BluetoothStack.L2cap.Receiver

/-!
# The SREJ hold queue over runs

A channel's runs: frames received through `l2c_fcr_proc_pdu`, events of the sending side, and the
moves between `CST_OPEN` and `CST_CONFIG` of a reconfiguration. `l2c_rcv_acl_data` passes frames
to `l2c_fcr_proc_pdu` in `CST_CONFIG` as well as in `CST_OPEN`. `RxStep true` has both.
`RxStep false` receives only while the channel is open.

On every run, an outstanding SREJ has at least one frame held, so the `fixed_queue_try_peek_last`
of `process_i_frame` never returns `NULL`, and `l2c_fcr_proc_pdu` always completes
(`rxReachable_srejHeld`, `l2cFcrProcPdu_isSome`). On runs that receive frames only while the
channel is open, the hold queue keeps the whole of `SrejInv` (`rxReachable_srejInv`): the held
frames carry the TxSeqs after `next_seq_expected` one after another
(`openRun_hold_starts_after_expected`). A frame received in `CST_CONFIG` breaks that.
-/

namespace BluetoothStack.L2cap

open Bytes ModSeq

/-! ## Runs -/

/-- One event on an ERTM channel. A frame is received while the channel is open, and also in
`CST_CONFIG` when `rxInConfig` holds. A peer's configuration request moves an open channel to
`CST_CONFIG` (`reconfigure`), and the end of the configuration moves it back (`configDone`).
Neither move touches the control block. -/
inductive RxStep (rxInConfig : Bool) : Ccb → Ccb → Prop
  | receive {c c' : Ccb} {handed : List (BtHdr × Nat)} (pBuf : BtHdr) (hin : c.inUse = true)
      (hstate : c.isOpen = true ∨ rxInConfig = true)
      (h : l2cFcrProcPdu c pBuf = some (c', handed)) : RxStep rxInConfig c c'
  | send {c c' : Ccb} (h : TxStep c c') : RxStep rxInConfig c c'
  | reconfigure {c : Ccb} : RxStep rxInConfig c { c with isOpen := false }
  | configDone {c : Ccb} : RxStep rxInConfig c { c with isOpen := true }

/-- The states a channel reaches from `c₀`. -/
inductive RxReachable (rxInConfig : Bool) (c₀ : Ccb) : Ccb → Prop
  | refl : RxReachable rxInConfig c₀ c₀
  | tail {c c' : Ccb} : RxReachable rxInConfig c₀ c → RxStep rxInConfig c c' →
      RxReachable rxInConfig c₀ c'

variable {c c₁ c₂ : Ccb}

/-! ## An outstanding SREJ has frames held -/

/-- With `srej_sent`, the hold queue has a last frame for `fixed_queue_try_peek_last`. -/
def SrejHeld (c : Ccb) : Prop := c.fcrb.srejSent = true → c.fcrb.srejRcvHoldQ ≠ []

theorem SrejHeld.of_sameRx (h : SrejHeld c) (hs : SameRx c c₁) : SrejHeld c₁ := by
  intro hsrej
  rw [hs.srejRcvHoldQ]
  exact h (hs.srejSent ▸ hsrej)

theorem Released.srejHeld (h : Released c c₁) : SrejHeld c₁ := by
  intro hsrej
  rw [h.srejSent] at hsrej
  cases hsrej

theorem SrejHeld.of_rxKept (h : SrejHeld c) (hk : RxKept c c₁) : SrejHeld c₁ :=
  hk.elim h.of_sameRx Released.srejHeld

theorem SrejHeld.processOutOfSeq {pBuf : BtHdr} {txSeq : Nat} (h : SrejHeld c)
    (hout : processOutOfSeq c pBuf txSeq = some c₁) : SrejHeld c₁ := by
  rcases processOutOfSeq_cases hout with hs | ⟨-, -, hs⟩
  · exact h.of_sameRx hs
  · -- the frame just held
    intro _
    rw [hs.srejRcvHoldQ]
    simp [holdFrame]

theorem SrejHeld.processIFrame {pBuf : BtHdr} {ctrlWord : Nat} {delayAck : Bool}
    {handed : List (BtHdr × Nat)} (h : SrejHeld c)
    (hp : processIFrame c pBuf ctrlWord delayAck = some (c₁, handed)) : SrejHeld c₁ := by
  rcases processIFrame_cases hp with ⟨hcp, -⟩ | ⟨hok, -, hout, -⟩ | ⟨-, -, rfl, -⟩
  · rw [checkpointRetransmit_refused hcp]
    exact h.of_rxKept (l2cuDisconnectChnl_rxKept c)
  · exact (h.of_sameRx (checkpointRetransmit_ok hok)).processOutOfSeq hout
  · -- an accepted frame clears the SREJ
    refine SrejHeld.of_rxKept ?_ (acceptIFrame_rxKept _ _ _ _)
    intro hs
    cases hs

theorem processIFrame_isSome (h : SrejHeld c) (pBuf : BtHdr) (ctrlWord : Nat) (delayAck : Bool) :
    (processIFrame c pBuf ctrlWord delayAck).isSome := by
  unfold processIFrame
  rcases checkpointRetransmit_cases c ctrlWord with hd | ⟨hok, hs⟩
  · rw [hd]
    rfl
  · rcases hcp : checkpointRetransmit c ctrlWord with ⟨c₀, ok⟩
    rw [hcp] at hok hs
    subst hok
    simp only [Bool.not_true, Bool.false_eq_true, if_false]
    split_ifs
    · simp only [Option.isSome_map]
      exact processOutOfSeq_isSome (h.of_sameRx hs)
    · rfl

/-- A frame taken out of the hold queue is processed, keeping frames held for an SREJ. -/
theorem drainOne_srejHeld (h : SrejHeld c) (pBuf : BtHdr) :
    ∃ c₁ handed, drainOne c pBuf = some (c₁, handed) ∧ SrejHeld c₁ := by
  unfold drainOne
  split
  · obtain ⟨⟨c₁, handed⟩, hr⟩ := Option.isSome_iff_exists.1 (processIFrame_isSome h pBuf
      (heldCtrlWord pBuf) true)
    exact ⟨c₁, handed, hr, h.processIFrame hr⟩
  · exact ⟨c, [], rfl, h⟩

theorem drainLoop_srejHeld (tempQ : List BtHdr) (h : SrejHeld c) :
    ∃ c₁ handed, drainLoop c tempQ = some (c₁, handed) ∧ SrejHeld c₁ := by
  induction tempQ generalizing c with
  | nil => exact ⟨c, [], rfl, h⟩
  | cons pBuf tempQ ih =>
    obtain ⟨c₁, handed, hone, h₁⟩ := drainOne_srejHeld h pBuf
    obtain ⟨c₂, handed', hrest, h₂⟩ := ih (h₁.of_sameRx (sendOwedRej_sameRx c₁))
    refine ⟨c₂, handed ++ handed', ?_, h₂⟩
    rw [drainLoop, hone, Option.bind_some]
    dsimp only
    rw [hrest]
    rfl

theorem drainHoldQ_srejHeld (h : c.fcrb.srejSent = false) :
    ∃ c₁ handed, drainHoldQ c = some (c₁, handed) ∧ SrejHeld c₁ := by
  -- the fresh queue with no SREJ outstanding
  have h₀ : SrejHeld { c with fcrb := { c.fcrb with srejRcvHoldQ := [] } } := by
    intro hs
    rw [h] at hs
    cases hs
  obtain ⟨c₁, handed, hloop, h₁⟩ := drainLoop_srejHeld c.fcrb.srejRcvHoldQ h₀
  unfold drainHoldQ
  rw [hloop, Option.map_some]
  dsimp only
  split
  · exact ⟨_, handed, rfl, h₁.of_sameRx (l2cFcrSendSFrame_sameRx _ _ _)⟩
  · exact ⟨c₁, handed, rfl, h₁⟩

theorem afterFrame_srejHeld (h : SrejHeld c) (handed : List (BtHdr × Nat)) :
    ∃ c₁ handed', afterFrame c handed = some (c₁, handed') ∧ SrejHeld c₁ := by
  unfold afterFrame
  split
  · rename_i hdrain
    have hs : c.fcrb.srejSent = false := by simpa using hdrain.2.2.1
    obtain ⟨c₁, handed', hd, h₁⟩ := drainHoldQ_srejHeld hs
    rw [hd]
    exact ⟨c₁, handed ++ handed', rfl, h₁⟩
  · exact ⟨c, handed, rfl, h⟩

theorem procCtrl_srejHeld (h : SrejHeld c) (pBuf : BtHdr) (ctrlWord : Nat) :
    ∃ c₁ handed, procCtrl c pBuf ctrlWord = some (c₁, handed) ∧ SrejHeld c₁ := by
  obtain ⟨r, hr⟩ := Option.isSome_iff_exists.1 (processReqseq_isSome c ctrlWord)
  unfold procCtrl
  rw [hr, Option.bind_some]
  dsimp only
  rcases processReqseq_cases hr with ⟨hd, hok⟩ | ⟨hok, hs⟩
  · rw [hok]
    exact ⟨r.ccb, [], rfl, hd ▸ h.of_rxKept (l2cuDisconnectChnl_rxKept c)⟩
  · rw [hok]
    have hr' := h.of_sameRx hs
    -- the frame itself, then the drain
    have hframe : ∃ c₁ handed, (if ctrlWord &&& l2capFcrSFrameBit ≠ 0 then
        some (processSFrame r.ccb ctrlWord, []) else processIFrame r.ccb pBuf ctrlWord false) =
          some (c₁, handed) ∧ SrejHeld c₁ := by
      split
      · exact ⟨_, [], rfl, hr'.of_rxKept (processSFrame_rxKept _ _)⟩
      · obtain ⟨⟨c₁, handed⟩, hp⟩ := Option.isSome_iff_exists.1
          (processIFrame_isSome hr' pBuf ctrlWord false)
        exact ⟨c₁, handed, hp, hr'.processIFrame hp⟩
    obtain ⟨c₁, handed, hf, h₁⟩ := hframe
    simp only [Bool.not_true, Bool.false_eq_true, if_false]
    rw [hf, Option.bind_some]
    exact afterFrame_srejHeld h₁ handed

/-- **No `NULL` hold queue.** On a channel whose outstanding SREJ has frames held,
`l2c_fcr_proc_pdu` completes, and leaves one that still has. -/
theorem l2cFcrProcPdu_srejHeld (h : SrejHeld c) (pBuf : BtHdr) :
    ∃ c₁ handed, l2cFcrProcPdu c pBuf = some (c₁, handed) ∧ SrejHeld c₁ := by
  unfold l2cFcrProcPdu
  split
  · exact ⟨c, [], rfl, h⟩
  split
  · exact ⟨c, [], rfl, h⟩
  dsimp only
  split
  · split
    · split
      · exact ⟨_, [], rfl, h.of_sameRx (l2cFcrSendSFrame_sameRx _ _ _)⟩
      · exact ⟨c, [], rfl, h⟩
    · refine procCtrl_srejHeld (h.of_sameRx ?_) _ _
      exact ⟨rfl, rfl, rfl, rfl, rfl, rfl⟩
  · exact procCtrl_srejHeld h _ _

theorem RxStep.srejHeld {rxInConfig : Bool} (h : SrejHeld c) (hs : RxStep rxInConfig c c₁) :
    SrejHeld c₁ := by
  cases hs with
  | receive pBuf hin hstate hp =>
    obtain ⟨c₂, handed, hp', h₂⟩ := l2cFcrProcPdu_srejHeld h pBuf
    rw [hp] at hp'
    cases hp'
    exact h₂
  | send htx => exact h.of_rxKept htx.rxKept
  | reconfigure => exact h
  | configDone => exact h

/-- **An outstanding SREJ always has frames held**, on every run from a channel with no SREJ
outstanding, frames received in `CST_CONFIG` included. -/
theorem rxReachable_srejHeld {rxInConfig : Bool} {c₀ : Ccb} (h₀ : c₀.fcrb.srejSent = false)
    (h : RxReachable rxInConfig c₀ c) : SrejHeld c := by
  induction h with
  | refl =>
    intro hs
    rw [h₀] at hs
    cases hs
  | tail _ hs ih => exact RxStep.srejHeld ih hs

/-- So every frame a reachable channel receives is processed to the end. -/
theorem l2cFcrProcPdu_isSome {rxInConfig : Bool} {c₀ : Ccb} (h₀ : c₀.fcrb.srejSent = false)
    (h : RxReachable rxInConfig c₀ c) (pBuf : BtHdr) : (l2cFcrProcPdu c pBuf).isSome := by
  obtain ⟨c₁, handed, hp, -⟩ := l2cFcrProcPdu_srejHeld (rxReachable_srejHeld h₀ h) pBuf
  rw [hp]
  rfl

/-! ## The hold queue while the channel is open -/

/-- The frames held for an outstanding SREJ. There is at least one, they carry the TxSeqs after
`next_seq_expected` one after another, and there are fewer than `tx_win_sz` of them, and fewer
than 64. -/
structure HeldAfter (c : Ccb) : Prop where
  ne_nil : c.fcrb.srejRcvHoldQ ≠ []
  consecutive : Consecutive BtHdr.layerSpecific 64 ((c.fcrb.nextSeqExpected + 1) % 64)
    c.fcrb.srejRcvHoldQ
  length_lt : c.fcrb.srejRcvHoldQ.length < c.ourCfgFcr.txWinSz
  length_lt_64 : c.fcrb.srejRcvHoldQ.length < 64

/-- The SREJ hold queue as `process_i_frame` means to keep it. Each held frame keeps before its
payload the control word whose TxSeq is its `layer_specific`. With an SREJ outstanding, the held
frames are as `HeldAfter` says; without one, nothing is held. -/
structure SrejInv (c : Ccb) : Prop where
  nextSeqExpected_lt : c.fcrb.nextSeqExpected < 64
  held_txSeq : ∀ b ∈ c.fcrb.srejRcvHoldQ, ctrlTxSeq (heldCtrlWord b) = b.layerSpecific
  srej : c.fcrb.srejSent = true → HeldAfter c
  idle : c.fcrb.srejSent = false → c.fcrb.srejRcvHoldQ = []

/-- The state between a frame and the drain: the frame an SREJ asked for has come, the SREJ is
cleared, and the held frames come next in line. -/
structure DrainReady (c : Ccb) : Prop where
  nextSeqExpected_lt : c.fcrb.nextSeqExpected < 64
  held_txSeq : ∀ b ∈ c.fcrb.srejRcvHoldQ, ctrlTxSeq (heldCtrlWord b) = b.layerSpecific
  srejSent : c.fcrb.srejSent = false
  consecutive : Consecutive BtHdr.layerSpecific 64 c.fcrb.nextSeqExpected c.fcrb.srejRcvHoldQ
  length_lt_64 : c.fcrb.srejRcvHoldQ.length < 64

/-- A channel with no SREJ outstanding and nothing held. -/
theorem srejInv_of_idle (hn : c.fcrb.nextSeqExpected < 64) (hs : c.fcrb.srejSent = false)
    (hq : c.fcrb.srejRcvHoldQ = []) : SrejInv c := by
  refine ⟨hn, ?_, fun h => ?_, fun _ => hq⟩
  · rw [hq]
    intro b hb
    cases hb
  · rw [hs] at h
    cases h

/-- `SrejInv` reads only our configuration, `next_seq_expected`, `srej_sent` and the hold queue. -/
theorem SrejInv.of_rx (h : SrejInv c) (hcfg : c₁.ourCfgFcr = c.ourCfgFcr)
    (hn : c₁.fcrb.nextSeqExpected = c.fcrb.nextSeqExpected)
    (hs : c₁.fcrb.srejSent = c.fcrb.srejSent)
    (hq : c₁.fcrb.srejRcvHoldQ = c.fcrb.srejRcvHoldQ) : SrejInv c₁ := by
  refine ⟨hn ▸ h.nextSeqExpected_lt, hq ▸ h.held_txSeq, fun hsrej => ?_,
    fun hsrej => hq ▸ h.idle (hs ▸ hsrej)⟩
  obtain ⟨hne, hcons, hlen, hlen64⟩ := h.srej (hs ▸ hsrej)
  rw [← hn, ← hq, ← hcfg] at *
  exact ⟨hne, hcons, hlen, hlen64⟩

theorem SrejInv.of_sameRx (h : SrejInv c) (hs : SameRx c c₁) : SrejInv c₁ :=
  h.of_rx hs.ourCfgFcr hs.nextSeqExpected hs.srejSent hs.srejRcvHoldQ

theorem Released.srejInv (h : Released c c₁) : SrejInv c₁ :=
  srejInv_of_idle (by rw [h.nextSeqExpected]; omega) h.srejSent h.srejRcvHoldQ

theorem SrejInv.of_rxKept (h : SrejInv c) (hk : RxKept c c₁) : SrejInv c₁ :=
  hk.elim h.of_sameRx Released.srejInv

theorem processOutOfSeq_nextSeqExpected {pBuf : BtHdr} {txSeq : Nat}
    (h : processOutOfSeq c pBuf txSeq = some c₁) :
    c₁.fcrb.nextSeqExpected = c.fcrb.nextSeqExpected := by
  rcases processOutOfSeq_cases h with hs | ⟨-, -, hs⟩
  · exact hs.nextSeqExpected
  · exact hs.nextSeqExpected

/-- A frame held from the arrival of an out-of-sequence frame `txSeq` goes at the end of the
queue: the frames lost before it are those held and the missing one. -/
theorem SrejInv.held_length {txSeq : Nat} (h : SrejInv c)
    (ht : txSeq ≠ c.fcrb.nextSeqExpected) (htlt : txSeq < 64)
    (hcase : (c.fcrb.srejSent = true ∧ ∃ last, c.fcrb.srejRcvHoldQ.getLast? = some last ∧
        txSeq = (last.layerSpecific + 1) &&& l2capFcrSeqModulo) ∨
      (c.fcrb.srejSent = false ∧ numBufsAcked txSeq c.fcrb.nextSeqExpected ≤ 1)) :
    Consecutive BtHdr.layerSpecific 64 ((c.fcrb.nextSeqExpected + 1) % 64) c.fcrb.srejRcvHoldQ ∧
      c.fcrb.srejRcvHoldQ.length + 1 = numBufsAcked txSeq c.fcrb.nextSeqExpected := by
  have hn := h.nextSeqExpected_lt
  -- `num_lost` is how far the frame lies after `next_seq_expected`
  have hlost : (c.fcrb.nextSeqExpected + numBufsAcked txSeq c.fcrb.nextSeqExpected) % 64 = txSeq :=
    add_offsetMod htlt
  have hlost_lt : numBufsAcked txSeq c.fcrb.nextSeqExpected < 64 := by
    rw [numBufsAcked_eq_offsetMod]
    exact offsetMod_lt (by omega) _ _
  rcases hcase with ⟨hsrej, last, hlast, hnext⟩ | ⟨hsrej, hle⟩
  · have held := h.srej hsrej
    have hl := held.consecutive.getLast? hlast
    have hpos : 0 < c.fcrb.srejRcvHoldQ.length := List.length_pos_iff.2 held.ne_nil
    have hlen64 := held.length_lt_64
    rw [succ_and_seqModulo, hl] at hnext
    refine ⟨held.consecutive, ?_⟩
    omega
  · rw [h.idle hsrej]
    refine ⟨consecutive_nil _ _ _, ?_⟩
    simp only [List.length_nil, Nat.zero_add]
    have hpos : numBufsAcked txSeq c.fcrb.nextSeqExpected ≠ 0 := by
      intro h0
      rw [h0, Nat.add_zero, Nat.mod_eq_of_lt hn] at hlost
      exact ht hlost.symm
    omega

/-- An out-of-sequence frame keeps the hold queue in order. A frame `processOutOfSeq` holds
carries the TxSeq after the last held one, and its arrival proves that fewer than `tx_win_sz`
are held. -/
theorem SrejInv.processOutOfSeq {pBuf : BtHdr} {txSeq : Nat} (h : SrejInv c)
    (ht : txSeq ≠ c.fcrb.nextSeqExpected) (htlt : txSeq < 64)
    (hp : ctrlTxSeq (heldCtrlWord pBuf) = txSeq) (hout : processOutOfSeq c pBuf txSeq = some c₁) :
    SrejInv c₁ := by
  rcases processOutOfSeq_cases hout with hs | ⟨hwin, hcase, hs⟩
  · exact h.of_sameRx hs
  obtain ⟨hcons, hlen⟩ := h.held_length ht htlt hcase
  have hq : c₁.fcrb.srejRcvHoldQ = c.fcrb.srejRcvHoldQ ++ [{ pBuf with layerSpecific := txSeq }] :=
    hs.srejRcvHoldQ
  have hn₁ : c₁.fcrb.nextSeqExpected = c.fcrb.nextSeqExpected := hs.nextSeqExpected
  have hlost_lt : numBufsAcked txSeq c.fcrb.nextSeqExpected < 64 := by
    rw [numBufsAcked_eq_offsetMod]
    exact offsetMod_lt (by omega) _ _
  refine ⟨hn₁ ▸ h.nextSeqExpected_lt, ?_, fun _ => ⟨?_, ?_, ?_, ?_⟩, fun hf => ?_⟩
  · rw [hq]
    intro b hb
    rcases List.mem_append.1 hb with hb | hb
    · exact h.held_txSeq b hb
    · rw [List.mem_singleton.1 hb]
      exact hp
  · rw [hq]
    simp
  · -- the frame after the last held one
    rw [hq, hn₁]
    refine hcons.append ?_
    show txSeq = _
    have hlost : (c.fcrb.nextSeqExpected + numBufsAcked txSeq c.fcrb.nextSeqExpected) % 64 =
        txSeq := add_offsetMod htlt
    rw [Nat.mod_add_mod]
    omega
  · rw [hq, List.length_append, List.length_singleton, hlen, hs.ourCfgFcr]
    exact hwin
  · rw [hq, List.length_append, List.length_singleton, hlen]
    exact hlost_lt
  · rw [hs.srejSent] at hf
    cases hf

/-- An accepted frame leaves the hold queue as it was, with the SREJ cleared and
`next_seq_expected` one past the frame's TxSeq, or releases the channel. -/
theorem acceptIFrame_cases (c : Ccb) (pBuf : BtHdr) (ctrlWord : Nat) (delayAck : Bool) :
    (acceptIFrame c pBuf ctrlWord delayAck).fcrb.srejSent = false ∧
      (Released c (acceptIFrame c pBuf ctrlWord delayAck) ∨
        (acceptIFrame c pBuf ctrlWord delayAck).inUse = c.inUse ∧
        (acceptIFrame c pBuf ctrlWord delayAck).isOpen = c.isOpen ∧
        (acceptIFrame c pBuf ctrlWord delayAck).ourCfgFcr = c.ourCfgFcr ∧
        (acceptIFrame c pBuf ctrlWord delayAck).fcrb.nextSeqExpected = (ctrlTxSeq ctrlWord + 1) % 64 ∧
        (acceptIFrame c pBuf ctrlWord delayAck).fcrb.srejRcvHoldQ = c.fcrb.srejRcvHoldQ) := by
  rcases acceptIFrame_rxKept c pBuf ctrlWord delayAck with hk | hk
  · exact ⟨hk.srejSent, .inr ⟨hk.inUse, hk.isOpen, hk.ourCfgFcr, hk.nextSeqExpected,
      hk.srejRcvHoldQ⟩⟩
  · exact ⟨hk.srejSent, .inl ⟨hk.ourCfgFcr, hk.inUse, hk.nextSeqExpected, hk.srejSent,
      hk.srejRcvHoldQ⟩⟩

/-- **What one I-frame does to the hold queue.** It keeps it in order; or it is the frame the
outstanding SREJ asked for, and the SREJ is cleared with the held frames next in line. -/
theorem SrejInv.processIFrame {pBuf : BtHdr} {ctrlWord : Nat} {delayAck : Bool}
    {handed : List (BtHdr × Nat)} (h : SrejInv c)
    (hw : ctrlTxSeq (heldCtrlWord pBuf) = ctrlTxSeq ctrlWord)
    (hp : processIFrame c pBuf ctrlWord delayAck = some (c₁, handed)) :
    SrejInv c₁ ∨ (DrainReady c₁ ∧ c₁.inUse = c.inUse ∧ c₁.isOpen = c.isOpen) := by
  rcases processIFrame_cases hp with ⟨hcp, -⟩ | ⟨hok, hseq, hout, -⟩ | ⟨hok, hseq, rfl, -⟩
  · rw [checkpointRetransmit_refused hcp]
    exact .inl (h.of_rxKept (l2cuDisconnectChnl_rxKept c))
  · exact .inl ((h.of_sameRx (checkpointRetransmit_ok hok)).processOutOfSeq hseq
      (ctrlTxSeq_lt ctrlWord) hw hout)
  · have hs := checkpointRetransmit_ok hok
    rw [hs.nextSeqExpected] at hseq
    obtain ⟨hsrej', hk | ⟨hin, hop, hcfg, hn', hq'⟩⟩ := acceptIFrame_cases
      (checkpointRetransmit c ctrlWord).1 pBuf ctrlWord delayAck
    · exact .inl hk.srejInv
    have hn : (ctrlTxSeq ctrlWord + 1) % 64 < 64 := Nat.mod_lt _ (by omega)
    rw [hs.srejRcvHoldQ] at hq'
    rw [hs.inUse] at hin
    rw [hs.isOpen] at hop
    cases hsrej : c.fcrb.srejSent
    · -- nothing was held
      exact .inl (srejInv_of_idle (hn' ▸ hn) hsrej' (hq'.trans (h.idle hsrej)))
    · -- the frame the SREJ asked for: the held frames follow it
      have held := h.srej hsrej
      refine .inr ⟨⟨hn' ▸ hn, hq' ▸ h.held_txSeq, hsrej', ?_, hq' ▸ held.length_lt_64⟩, hin, hop⟩
      rw [hq', hn', hseq]
      exact held.consecutive

/-- The drain loop's invariant. The channel's own hold queue is as `SrejInv` wants it, and each
frame still to drain keeps its control word. While the channel is open, those frames carry
TxSeqs one after another, starting `gap` after `next_seq_expected`, and an outstanding SREJ
keeps the gap open. -/
structure DrainInv (c : Ccb) (rest : List BtHdr) : Prop where
  inv : SrejInv c
  rest_txSeq : ∀ b ∈ rest, ctrlTxSeq (heldCtrlWord b) = b.layerSpecific
  gap : c.inUse = true → c.isOpen = true → ∃ gap,
    Consecutive BtHdr.layerSpecific 64 ((c.fcrb.nextSeqExpected + gap) % 64) rest ∧
      gap + rest.length ≤ 64 ∧ (c.fcrb.srejSent = true → 0 < gap)

theorem DrainInv.of_sameRx {rest : List BtHdr} (h : DrainInv c rest) (hs : SameRx c c₁) :
    DrainInv c₁ rest := by
  refine ⟨h.inv.of_sameRx hs, h.rest_txSeq, fun hin hop => ?_⟩
  rw [hs.inUse] at hin
  rw [hs.isOpen] at hop
  rw [hs.nextSeqExpected, hs.srejSent]
  exact h.gap hin hop

/-- A released channel drains nothing more. -/
theorem Released.drainInv {rest : List BtHdr} (h : Released c c₁)
    (hrest : ∀ b ∈ rest, ctrlTxSeq (heldCtrlWord b) = b.layerSpecific) : DrainInv c₁ rest :=
  ⟨h.srejInv, hrest, fun hin => by rw [h.inUse] at hin; cases hin⟩

/-- One frame of the drain keeps the drain loop's invariant. Once its TxSeq falls behind
(`gap` past `next_seq_expected`), no later frame catches up, and every one is held after the
first. -/
theorem DrainInv.of_drainOne {pBuf : BtHdr} {rest : List BtHdr} {handed : List (BtHdr × Nat)}
    (h : DrainInv c (pBuf :: rest)) (hone : drainOne c pBuf = some (c₁, handed)) :
    DrainInv c₁ rest := by
  have hrest_txSeq : ∀ b ∈ rest, ctrlTxSeq (heldCtrlWord b) = b.layerSpecific :=
    fun b hb => h.rest_txSeq b (List.mem_cons_of_mem _ hb)
  unfold L2cap.drainOne at hone
  split at hone
  swap
  · -- the channel is no longer open: the frame is freed
    rename_i hclosed
    cases hone
    exact ⟨h.inv, hrest_txSeq, fun hin hop => absurd ⟨hin, hop⟩ hclosed⟩
  rename_i hopen
  obtain ⟨gap, hcons, hlen, hgap⟩ := h.gap hopen.1 hopen.2
  obtain ⟨hb, hcons⟩ := consecutive_cons_iff.1 hcons
  have hn := h.inv.nextSeqExpected_lt
  have hlen' : gap + 1 + rest.length ≤ 64 := by simp at hlen; omega
  have ht : ctrlTxSeq (heldCtrlWord pBuf) = (c.fcrb.nextSeqExpected + gap) % 64 := by
    rw [h.rest_txSeq pBuf List.mem_cons_self, hb, Nat.mod_mod]
  -- the rest follows one further on
  have hnext : Consecutive BtHdr.layerSpecific 64 ((c.fcrb.nextSeqExpected + (gap + 1)) % 64) rest := by
    rw [← Nat.add_assoc, ← Nat.mod_add_mod]
    exact hcons
  rcases processIFrame_cases hone with ⟨hcp, -⟩ | ⟨hok, hseq, hout, -⟩ | ⟨hok, hseq, rfl, -⟩
  · -- the checkpoint retransmission disconnected: the frame is dropped
    rw [checkpointRetransmit_refused hcp]
    rcases l2cuDisconnectChnl_cases c with hd | hd
    · rw [hd]
      exact ⟨h.inv, hrest_txSeq, fun _ _ => ⟨gap + 1, hnext, hlen', fun _ => by omega⟩⟩
    · exact hd.drainInv hrest_txSeq
  · -- out of sequence: kept in order, one step further behind
    have hs := checkpointRetransmit_ok hok
    have hn₁ : c₁.fcrb.nextSeqExpected = c.fcrb.nextSeqExpected :=
      (processOutOfSeq_nextSeqExpected hout).trans hs.nextSeqExpected
    rw [hs.nextSeqExpected] at hseq
    refine ⟨(h.inv.of_sameRx hs).processOutOfSeq (hs.nextSeqExpected ▸ hseq) (ctrlTxSeq_lt _)
      rfl hout, hrest_txSeq, fun _ _ => ⟨gap + 1, hn₁ ▸ hnext, hlen', fun _ => by omega⟩⟩
  · -- the next expected frame: accepted, and the rest follows it with no gap
    have hs := checkpointRetransmit_ok hok
    rw [hs.nextSeqExpected, ht] at hseq
    have hgap0 : gap = 0 := by omega
    have hsrej : c.fcrb.srejSent = false := by
      cases hc : c.fcrb.srejSent
      · rfl
      · exact absurd (hgap hc) (by omega)
    obtain ⟨hsrej', hk | ⟨-, -, -, hn', hq'⟩⟩ := acceptIFrame_cases
      (checkpointRetransmit c _).1 pBuf (heldCtrlWord pBuf) true
    · exact hk.drainInv hrest_txSeq
    have hq : c.fcrb.srejRcvHoldQ = [] := h.inv.idle hsrej
    rw [hs.srejRcvHoldQ, hq] at hq'
    refine ⟨srejInv_of_idle (hn' ▸ Nat.mod_lt _ (by omega)) hsrej' hq', hrest_txSeq,
      fun _ _ => ⟨0, ?_, by omega, fun hf => by rw [hsrej'] at hf; cases hf⟩⟩
    have hstart : ((ctrlTxSeq (heldCtrlWord pBuf) + 1) % 64 + 0) % 64 =
        (c.fcrb.nextSeqExpected + (gap + 1)) % 64 := by
      rw [ht]
      omega
    rw [hn', hstart]
    exact hnext

/-- **The drain keeps the hold queue in order.** -/
theorem DrainInv.srejInv_drainLoop {tempQ : List BtHdr} {handed : List (BtHdr × Nat)}
    (h : DrainInv c tempQ) (hd : drainLoop c tempQ = some (c₁, handed)) : SrejInv c₁ := by
  induction tempQ generalizing c handed with
  | nil =>
    cases hd
    exact h.inv
  | cons pBuf tempQ ih =>
    rw [drainLoop] at hd
    obtain ⟨⟨c₂, handed₂⟩, hone, hrest⟩ := Option.bind_eq_some_iff.1 hd
    dsimp only at hrest
    obtain ⟨⟨c₃, handed₃⟩, hloop, heq⟩ := Option.map_eq_some_iff.1 hrest
    simp only [Prod.mk.injEq] at heq
    obtain ⟨rfl, -⟩ := heq
    exact ih ((h.of_drainOne hone).of_sameRx (sendOwedRej_sameRx c₂)) hloop

/-- The drain starts from the frames next in line and leaves the hold queue in order. -/
theorem DrainReady.drainHoldQ {handed : List (BtHdr × Nat)} (h : DrainReady c)
    (hd : drainHoldQ c = some (c₁, handed)) : SrejInv c₁ := by
  have hn := h.nextSeqExpected_lt
  have h₀ : DrainInv { c with fcrb := { c.fcrb with srejRcvHoldQ := [] } } c.fcrb.srejRcvHoldQ := by
    refine ⟨srejInv_of_idle hn h.srejSent rfl, h.held_txSeq, fun _ _ => ⟨0, ?_, ?_, ?_⟩⟩
    · rw [Nat.add_zero, Nat.mod_eq_of_lt hn]
      exact h.consecutive
    · have := h.length_lt_64
      omega
    · intro hs
      rw [h.srejSent] at hs
      cases hs
  unfold L2cap.drainHoldQ at hd
  obtain ⟨⟨c₂, handed₂⟩, hloop, hfin⟩ := Option.map_eq_some_iff.1 hd
  have h₂ := DrainInv.srejInv_drainLoop h₀ hloop
  dsimp only at hfin
  split at hfin
  · simp only [Prod.mk.injEq] at hfin
    obtain ⟨rfl, -⟩ := hfin
    exact h₂.of_sameRx (l2cFcrSendSFrame_sameRx _ _ _)
  · simp only [Prod.mk.injEq] at hfin
    obtain ⟨rfl, -⟩ := hfin
    exact h₂

/-- After a frame on an open channel, the hold queue is in order again: a queue next in line is
drained. -/
theorem afterFrame_srejInv {handed handed' : List (BtHdr × Nat)}
    (h : SrejInv c ∨ (DrainReady c ∧ c.inUse = true ∧ c.isOpen = true))
    (ha : afterFrame c handed = some (c₁, handed')) : SrejInv c₁ := by
  unfold afterFrame at ha
  split at ha
  · rename_i hdrain
    obtain ⟨⟨c₂, handed₂⟩, hd, heq⟩ := Option.map_eq_some_iff.1 ha
    simp only [Prod.mk.injEq] at heq
    obtain ⟨rfl, -⟩ := heq
    have hready : DrainReady c := by
      rcases h with h | ⟨h, -⟩
      · -- with no SREJ outstanding nothing is held
        exact absurd (h.idle (by simpa using hdrain.2.2.1)) hdrain.2.2.2
      · exact h
    exact hready.drainHoldQ hd
  · rename_i hno
    simp only [Option.some.injEq, Prod.mk.injEq] at ha
    obtain ⟨rfl, -⟩ := ha
    rcases h with h | ⟨h, hin, hop⟩
    · exact h
    · -- a queue next in line on an open channel is drained, so none is there
      have hq : c.fcrb.srejRcvHoldQ = [] := by
        by_contra hne
        exact hno ⟨hin, hop, by simp [h.srejSent], hne⟩
      exact srejInv_of_idle h.nextSeqExpected_lt h.srejSent hq

theorem procCtrl_srejInv {pBuf : BtHdr} {ctrlWord : Nat} {handed : List (BtHdr × Nat)}
    (h : SrejInv c) (hin : c.inUse = true) (hop : c.isOpen = true)
    (hw : ctrlWord &&& l2capFcrSFrameBit = 0 →
      ctrlTxSeq (heldCtrlWord pBuf) = ctrlTxSeq ctrlWord)
    (hp : procCtrl c pBuf ctrlWord = some (c₁, handed)) : SrejInv c₁ := by
  unfold procCtrl at hp
  obtain ⟨r, hr, hp⟩ := Option.bind_eq_some_iff.1 hp
  rcases processReqseq_cases hr with ⟨hd, hok⟩ | ⟨hok, hs⟩
  · rw [hok] at hp
    simp only [Bool.not_false, if_true, Option.some.injEq, Prod.mk.injEq] at hp
    obtain ⟨rfl, -⟩ := hp
    rw [hd]
    exact h.of_rxKept (l2cuDisconnectChnl_rxKept c)
  · rw [hok] at hp
    simp only [Bool.not_true, Bool.false_eq_true, if_false] at hp
    obtain ⟨⟨c₂, handed₂⟩, hf, ha⟩ := Option.bind_eq_some_iff.1 hp
    dsimp only at ha
    refine afterFrame_srejInv ?_ ha
    split at hf
    · simp only [Option.some.injEq, Prod.mk.injEq] at hf
      obtain ⟨rfl, -⟩ := hf
      exact .inl ((h.of_sameRx hs).of_rxKept (processSFrame_rxKept _ _))
    · rename_i hI
      rcases (h.of_sameRx hs).processIFrame (hw (not_not.1 hI)) hf with h₂ | ⟨h₂, hin₂, hop₂⟩
      · exact .inl h₂
      · exact .inr ⟨h₂, hin₂.trans (hs.inUse.trans hin), hop₂.trans (hs.isOpen.trans hop)⟩

/-- **A frame received on an open channel keeps the hold queue in order.** -/
theorem l2cFcrProcPdu_srejInv {pBuf : BtHdr} {handed : List (BtHdr × Nat)} (h : SrejInv c)
    (hin : c.inUse = true) (hop : c.isOpen = true)
    (hp : l2cFcrProcPdu c pBuf = some (c₁, handed)) : SrejInv c₁ := by
  unfold l2cFcrProcPdu at hp
  split at hp
  · simp only [Option.some.injEq, Prod.mk.injEq] at hp
    obtain ⟨rfl, -⟩ := hp
    exact h
  split at hp
  · simp only [Option.some.injEq, Prod.mk.injEq] at hp
    obtain ⟨rfl, -⟩ := hp
    exact h
  have hheld := heldCtrlWord_fcrIFramePayload pBuf
  rcases hf : fcrIFramePayload pBuf with ⟨p, w⟩
  rw [hf] at hheld hp
  dsimp only at hheld hp
  split at hp
  · split at hp
    · -- no final bit while a poll waits: dropped, a polled S-frame answered
      split at hp
      · simp only [Option.some.injEq, Prod.mk.injEq] at hp
        obtain ⟨rfl, -⟩ := hp
        exact h.of_sameRx (l2cFcrSendSFrame_sameRx _ _ _)
      · simp only [Option.some.injEq, Prod.mk.injEq] at hp
        obtain ⟨rfl, -⟩ := hp
        exact h
    · -- the final bit: the P bit of an S-frame cleared, an I-frame's word kept
      refine procCtrl_srejInv (h.of_sameRx ?_) ?_ ?_ (fun hI => ?_) hp
      · exact ⟨rfl, rfl, rfl, rfl, rfl, rfl⟩
      · exact hin
      · exact hop
      · split at hI
        · rename_i hS
          rw [ctrlClear_pBit_sFrameBit] at hI
          exact absurd hI hS
        · rw [if_neg (by assumption), hheld]
  · refine procCtrl_srejInv h hin hop (fun _ => ?_) hp
    rw [ctrlTxSeq_ctrlClear_fBit, hheld]

theorem RxStep.srejInv (h : SrejInv c) (hs : RxStep false c c₁) : SrejInv c₁ := by
  cases hs with
  | receive pBuf hin hstate hp =>
    exact l2cFcrProcPdu_srejInv h hin (hstate.resolve_right Bool.false_ne_true) hp
  | send htx => exact h.of_rxKept htx.rxKept
  | reconfigure => exact h.of_rx rfl rfl rfl rfl
  | configDone => exact h.of_rx rfl rfl rfl rfl

/-- **The hold queue in order.** On every run that receives frames only while the channel is
open, from a channel with no SREJ outstanding and nothing held: an outstanding SREJ has frames
held, which carry the TxSeqs after `next_seq_expected` one after another, fewer than `tx_win_sz`
of them. -/
theorem rxReachable_srejInv {c₀ : Ccb} (h₀ : SrejInv c₀) (h : RxReachable false c₀ c) :
    SrejInv c := by
  induction h with
  | refl => exact h₀
  | tail _ hs ih => exact RxStep.srejInv ih hs

/-! ## Replaying events -/

/-- An event given to a channel, for replaying a run. -/
inductive RxEvent where
  | receive (pBuf : BtHdr)
  | dataWrite (pBuf : BtHdr)
  | linkPull (maxPacketLength : Nat)
  | timeout
  | reconfigure
  | configDone

instance : DecidablePred SduBuffer := fun _ => inferInstanceAs (Decidable (_ ∧ _))

/-- Replay events on a channel that receives in `CST_CONFIG` too; `none` if an event is not
possible in the state it meets. -/
def rxRun (c : Ccb) : List RxEvent → Option Ccb
  | [] => some c
  | .receive pBuf :: evs =>
    if c.inUse then (l2cFcrProcPdu c pBuf).bind fun r => rxRun r.1 evs else none
  | .dataWrite pBuf :: evs => if SduBuffer pBuf then rxRun (l2cEnqueuePeerData c pBuf) evs else none
  | .linkPull maxPacketLength :: evs =>
    if c.fcrb.retransQ ≠ [] ∨ l2cFcrIsFlowControlled c = false then
      (l2cFcrGetNextXmitSduSeg c maxPacketLength).bind fun r => rxRun r.1 evs
    else none
  | .timeout :: evs => rxRun (l2cFcrProcTout c) evs
  | .reconfigure :: evs => rxRun { c with isOpen := false } evs
  | .configDone :: evs => rxRun { c with isOpen := true } evs

/-- A replay is a run. -/
theorem RxReachable.of_rxRun {c₀ : Ccb} (h : RxReachable true c₀ c) {evs : List RxEvent}
    (hr : rxRun c evs = some c₁) : RxReachable true c₀ c₁ := by
  induction evs generalizing c with
  | nil =>
    cases hr
    exact h
  | cons ev evs ih =>
    cases ev with
    | receive pBuf =>
      rw [rxRun] at hr
      split at hr
      · obtain ⟨⟨c₂, handed⟩, hp, hrest⟩ := Option.bind_eq_some_iff.1 hr
        exact ih (h.tail (.receive pBuf ‹_› (.inr rfl) hp)) hrest
      · cases hr
    | dataWrite pBuf =>
      rw [rxRun] at hr
      split at hr
      · exact ih (h.tail (.send (.dataWrite pBuf ‹_›))) hr
      · cases hr
    | linkPull maxPacketLength =>
      rw [rxRun] at hr
      split at hr
      · obtain ⟨⟨c₂, pXmit⟩, hp, hrest⟩ := Option.bind_eq_some_iff.1 hr
        exact ih (h.tail (.send (.linkPull maxPacketLength ‹_› hp))) hrest
      · cases hr
    | timeout => exact ih (h.tail (.send .timeout)) hr
    | reconfigure => exact ih (h.tail .reconfigure) hr
    | configDone => exact ih (h.tail .configDone) hr

/-- The control word of an unsegmented I-frame. -/
def iFrameCtrl (txSeq reqSeq : Nat) (final : Bool) : Nat :=
  (txSeq <<< l2capFcrTxSeqBitsShift) ||| (reqSeq <<< l2capFcrReqSeqBitsShift) |||
    (if final then l2capFcrFBit else 0)

/-- A frame as `l2c_rcv_acl_data` hands it to the channel: the basic header before `offset`,
then the control word and the payload, and the FCS over all of them. -/
def rxFrame (cid ctrlWord : Nat) (payload : List UInt8) : BtHdr :=
  let frame := uint16ToStream (payload.length + l2capFcrOverhead + l2capFcsLen) ++
    uint16ToStream cid ++ uint16ToStream ctrlWord ++ payload
  ⟨0, payload.length + l2capFcrOverhead + l2capFcsLen, l2capPktOverhead, 0,
    frame ++ uint16ToStream (l2cFcrUpdcrc l2capFcrInitCrc frame)⟩

/-- A reconfiguration during which I-frame 1 arrives before I-frame 0, then I-frame 2 once the
channel is open again. -/
def staleHoldRun : List RxEvent :=
  [.reconfigure, .receive (rxFrame l2capBaseApplCid (iFrameCtrl 1 0 false) [7]),
    .receive (rxFrame l2capBaseApplCid (iFrameCtrl 0 0 false) [7]), .configDone,
    .receive (rxFrame l2capBaseApplCid (iFrameCtrl 2 0 false) [7])]

/-- In `CST_CONFIG` the missing frame clears the SREJ, but the held frame is not drained. The next
SREJ then holds I-frame 2 after it. With an SREJ outstanding, the hold queue starts at
`next_seq_expected`, not at the TxSeq after it. -/
theorem srej_hold_queue_stale :
    ∃ c, RxReachable true ertmChannel c ∧ c.fcrb.srejSent = true ∧
      c.fcrb.nextSeqExpected = 1 ∧ c.fcrb.srejRcvHoldQ.map BtHdr.layerSpecific = [1, 2] := by
  have hrun : (rxRun ertmChannel staleHoldRun).map (fun c =>
      (c.fcrb.srejSent, c.fcrb.nextSeqExpected, c.fcrb.srejRcvHoldQ.map BtHdr.layerSpecific)) =
      some (true, 1, [1, 2]) := by
    decide
  obtain ⟨c, hc, hv⟩ := Option.map_eq_some_iff.1 hrun
  simp only [Prod.mk.injEq] at hv
  exact ⟨c, RxReachable.refl.of_rxRun hc, hv.1, hv.2.1, hv.2.2⟩

/-- On runs that receive frames only while the channel is open, the frames held for an
outstanding SREJ start at the TxSeq after `next_seq_expected`: the hold queue above, which starts
at `next_seq_expected`, takes a frame received in `CST_CONFIG`. -/
theorem openRun_hold_starts_after_expected {c : Ccb} (h : RxReachable false ertmChannel c)
    (hsrej : c.fcrb.srejSent = true) :
    ∃ b rest, c.fcrb.srejRcvHoldQ = b :: rest ∧
      b.layerSpecific = (c.fcrb.nextSeqExpected + 1) % 64 := by
  have h₀ : SrejInv ertmChannel := srejInv_of_idle (by decide) rfl rfl
  obtain ⟨hne, hcons, -, -⟩ := (rxReachable_srejInv h₀ h).srej hsrej
  obtain ⟨b, rest, hq⟩ := List.exists_cons_of_ne_nil hne
  refine ⟨b, rest, hq, ?_⟩
  -- the first held frame carries the start of the run of TxSeqs
  have hfirst := hcons 0 (by rw [hq]; exact Nat.zero_lt_succ _)
  simp only [hq, List.getElem_cons_zero, Nat.add_zero, Nat.mod_mod] at hfirst
  exact hfirst

/-- A one-byte SDU is sent and not acknowledged, and the retransmission timer polls the peer. -/
def pollRun : List RxEvent :=
  [.dataWrite ⟨0, 1, l2capMinOffset, 0, List.replicate 14 9⟩, .linkPull 0, .timeout]

/-- The peer's answer to the poll: I-frame 1 with the F bit, I-frame 0 having been lost. -/
def finalFrame : BtHdr := rxFrame l2capBaseApplCid (iFrameCtrl 1 0 true) [7]

/-- I-frame 0, sent again after the SREJ. -/
def missingFrame : BtHdr := rxFrame l2capBaseApplCid (iFrameCtrl 0 0 false) [7]

/-- The F bit of a held frame acts twice. It arrives answering our poll: the wait ends, every
unacknowledged frame is retransmitted with `num_tries` raised, and the frame is held. Then the
missing frame comes without an F bit, and with no poll outstanding. The drain reads the held
frame's control word back with its F bit, and everything is retransmitted again with
`num_tries` raised once more. Both frames go to reassembly. -/
theorem held_frame_retransmits_twice :
    ∃ c₁ c₂ c₃ handed₂ handed₃, RxReachable true ertmChannel c₁ ∧ c₁.fcrb.waitAck = true ∧
      l2cFcrProcPdu c₁ finalFrame = some (c₂, handed₂) ∧ handed₂ = [] ∧
      c₂.fcrb.numTries = c₁.fcrb.numTries + 1 ∧ c₂.fcrb.waitAck = false ∧
      l2cFcrProcPdu c₂ missingFrame = some (c₃, handed₃) ∧ handed₃.length = 2 ∧
      c₃.fcrb.numTries = c₂.fcrb.numTries + 1 := by
  have hrun : (rxRun ertmChannel pollRun).map (fun c₁ => (c₁.fcrb.waitAck, c₁.fcrb.numTries,
      (l2cFcrProcPdu c₁ finalFrame).map fun r₂ => (r₂.2.length, r₂.1.fcrb.numTries,
        r₂.1.fcrb.waitAck,
        (l2cFcrProcPdu r₂.1 missingFrame).map fun r₃ => (r₃.2.length, r₃.1.fcrb.numTries)))) =
      some (true, 1, some (0, 2, false, some (2, 3))) := by
    rfl
  obtain ⟨c₁, h₁, hv⟩ := Option.map_eq_some_iff.1 hrun
  simp only [Prod.mk.injEq] at hv
  obtain ⟨hwait, htries₁, hv⟩ := hv
  obtain ⟨⟨c₂, handed₂⟩, h₂, hv⟩ := Option.map_eq_some_iff.1 hv
  simp only [Prod.mk.injEq] at hv
  obtain ⟨hh₂, htries₂, hwait₂, hv⟩ := hv
  obtain ⟨⟨c₃, handed₃⟩, h₃, hv⟩ := Option.map_eq_some_iff.1 hv
  simp only [Prod.mk.injEq] at hv
  exact ⟨c₁, c₂, c₃, handed₂, handed₃, RxReachable.refl.of_rxRun h₁, hwait, h₂,
    List.length_eq_zero_iff.1 hh₂,
    by omega, hwait₂, h₃, hv.1, by omega⟩

end BluetoothStack.L2cap
