import BluetoothStack.L2cap.Fcr

/-!
# ERTM reassembly

The receiving side of segmentation in enhanced retransmission mode. `do_sar_reassembly` takes
an I-frame stripped of its basic header, control word and FCS, checks its SAR bits against the
reassembly state (`p_rx_sdu`, `rx_sdu_len`) and copies its bytes into the SDU being built.

`sarPieces max_pdu s` says how a sender cuts an SDU `s` into pieces: one unsegmented piece if it
fits, otherwise a start piece carrying the SDU length, continuation pieces and an end piece.
`sarReceive_sarPieces` shows that frames carrying these pieces, handed in order to
`do_sar_reassembly` with no SDU in progress, are all accepted and deliver exactly `s`. The
sending side (`Segmentation.lean`) shows that `l2c_fcr_get_next_xmit_sdu_seg` produces such
frames.
-/

namespace BluetoothStack.L2cap

open Bytes

/-! ## The receive path up to `do_sar_reassembly` -/

/-- `l2c_rcv_acl_data` passes the channel the L2CAP payload of a frame: `offset` steps over the
basic header. -/
def rcvL2capPayload (pBuf : BtHdr) : BtHdr := pBuf.skip l2capPktOverhead

/-- What `l2c_fcr_proc_pdu` does to an I-frame whose FCS and sequence numbers check before it
reaches `do_sar_reassembly`: it reads the control word, drops the FCS from the end and steps over
the control word. (Clearing the F bit of the control word leaves its SAR bits alone.) -/
def fcrIFramePayload (pBuf : BtHdr) : BtHdr × Nat :=
  let ctrlWord := streamToUint16 pBuf.data pBuf.offset
  (({ pBuf with len := pBuf.len - l2capFcsLen } : BtHdr).skip l2capFcrOverhead, ctrlWord)

/-! ## `do_sar_reassembly` -/

/-- The outcome of `do_sar_reassembly`: the channel after it, the `packet_ok` it returns, and the
SDU it hands up (to `l2c_csm_execute` or the fixed channel's callback), if any. -/
structure SarResult where
  ccb : Ccb
  packetOk : Bool
  sdu : Option BtHdr

/-- Whether the SAR state admits a frame: an unsegmented or start frame only with no SDU in
progress (a start frame also needs room for the SDU length), a continuation or end frame only
with one. -/
def sarStateOk (c : Ccb) (pBuf : BtHdr) (sarType : Nat) : Bool :=
  if sarType = l2capFcrUnsegSdu ∨ sarType = l2capFcrStartSdu then
    c.fcrb.pRxSdu.isNone && !(sarType = l2capFcrStartSdu && pBuf.len < l2capSduLenOverhead)
  else c.fcrb.pRxSdu.isSome

/-- The SDU buffer `do_sar_reassembly` opens for an SDU of `rx_sdu_len` bytes: `osi_malloc`'s
storage, with an empty message at `OBX_BUF_MIN_OFFSET`. -/
def rxSduBuffer (rxSduLen : Nat) : BtHdr :=
  { osiMallocBuf (btHdrSize + obxBufMinOffset + rxSduLen) with offset := obxBufMinOffset, len := 0 }

/-- A start frame: read the SDU length, step over it, and open an SDU buffer of that size if it
is within the MTU. The flag is `false` when the MTU check fails, in which case `rx_sdu_len` has
been read but no buffer opened. -/
def sarStart (c : Ccb) (pBuf : BtHdr) : Ccb × BtHdr × Bool :=
  let rxSduLen := streamToUint16 pBuf.data pBuf.offset
  let pBuf := pBuf.skip 2
  let c := { c with fcrb := { c.fcrb with rxSduLen } }
  if rxSduLen > c.maxRxMtu then (c, pBuf, false)
  else ({ c with fcrb := { c.fcrb with pRxSdu := some (rxSduBuffer rxSduLen) } }, pBuf, true)

/-- Copy a frame's bytes to the end of the SDU in progress, unless they overrun `rx_sdu_len` or
an end frame leaves the SDU short. An end frame hands the completed SDU up. -/
def sarAppend (c : Ccb) (rxSdu pBuf : BtHdr) (sarType : Nat) : SarResult :=
  if rxSdu.len + pBuf.len > c.fcrb.rxSduLen then ⟨c, false, none⟩
  else if sarType = l2capFcrEndSdu ∧ rxSdu.len + pBuf.len ≠ c.fcrb.rxSduLen then ⟨c, false, none⟩
  else
    let rxSdu := rxSdu.appendPayload pBuf
    if sarType = l2capFcrEndSdu then
      ⟨{ c with fcrb := { c.fcrb with pRxSdu := none } }, true, some rxSdu⟩
    else ⟨{ c with fcrb := { c.fcrb with pRxSdu := some rxSdu } }, true, none⟩

/-- `do_sar_reassembly`. A frame the SAR state does not admit is dropped; an unsegmented frame is
handed up as it is; a start frame opens an SDU; then the frame's bytes are appended. A frame
that fails a check is freed, and the SDU in progress (possibly just opened) stays. -/
def doSarReassembly (c : Ccb) (pBuf : BtHdr) (ctrlWord : Nat) : SarResult :=
  let sarType := ctrlWord &&& l2capFcrSegBits
  if !sarStateOk c pBuf sarType then ⟨c, false, none⟩
  else if sarType = l2capFcrUnsegSdu then ⟨c, true, some pBuf⟩
  else
    let (c, pBuf, mtuOk) := if sarType = l2capFcrStartSdu then sarStart c pBuf else (c, pBuf, true)
    if !mtuOk then ⟨c, false, none⟩
    else
      match c.fcrb.pRxSdu with
      | some rxSdu => sarAppend c rxSdu pBuf sarType
      -- not reached: a frame admitted here has an SDU in progress
      | none => ⟨c, false, none⟩

/-- Frames handed to `do_sar_reassembly` one after another: the channel after them, each frame's
`packet_ok`, and the SDUs handed up. -/
def sarReceive (c : Ccb) : List (BtHdr × Nat) → Ccb × List Bool × List BtHdr
  | [] => (c, [], [])
  | (pBuf, ctrlWord) :: frames =>
    let r := doSarReassembly c pBuf ctrlWord
    let rest := sarReceive r.ccb frames
    (rest.1, r.packetOk :: rest.2.1, r.sdu.toList ++ rest.2.2)

/-! ## The pieces of an SDU -/

/-- The pieces after the first of a segmented SDU: `max_pdu` bytes in each continuation piece,
and the rest in the end piece. -/
def laterPieces (maxPdu : Nat) (s : List UInt8) : List (Nat × List UInt8) :=
  if s.length ≤ maxPdu ∨ maxPdu = 0 then [(l2capFcrEndSdu, s)]
  else (l2capFcrContSdu, s.take maxPdu) :: laterPieces maxPdu (s.drop maxPdu)
termination_by s.length
decreasing_by
  simp only [List.length_drop]
  omega

/-- The later pieces are continuation pieces and one end piece. -/
theorem laterPieces_sar (maxPdu : Nat) (s : List UInt8) :
    ∀ p ∈ laterPieces maxPdu s, p.1 = l2capFcrContSdu ∨ p.1 = l2capFcrEndSdu := by
  induction s using laterPieces.induct maxPdu with
  | case1 s hs =>
    rw [laterPieces, if_pos hs]
    simp
  | case2 s hs ih =>
    rw [laterPieces, if_neg hs]
    simp only [List.mem_cons, forall_eq_or_imp, true_or, true_and]
    exact ih

/-- How an SDU travels as I-frames for a given `max_pdu`, each piece being the SAR bits and the
bytes after the control word: unsegmented if it fits, otherwise a start piece with the 2-byte SDU
length and the first `max_pdu` bytes, then `laterPieces`. -/
def sarPieces (maxPdu : Nat) (s : List UInt8) : List (Nat × List UInt8) :=
  if s.length ≤ maxPdu then [(l2capFcrUnsegSdu, s)]
  else (l2capFcrStartSdu, uint16ToStream s.length ++ s.take maxPdu) ::
    laterPieces maxPdu (s.drop maxPdu)

/-- The piece a frame carries as `do_sar_reassembly` gets it: the SAR bits of its control word
and its message. -/
def pieceOf (frame : BtHdr × Nat) : Nat × List UInt8 :=
  (frame.2 &&& l2capFcrSegBits, frame.1.payload)

/-! ## One frame -/

/-- The receiver holds the first bytes `got` of an SDU of `total` bytes, in an SDU buffer with
room for all of it. -/
structure SduInProgress (c : Ccb) (got : List UInt8) (total : Nat) : Prop where
  rxSduLen : c.fcrb.rxSduLen = total
  buffer : ∃ rx, c.fcrb.pRxSdu = some rx ∧ rx.len = got.length ∧
    rx.offset + total ≤ rx.data.length ∧ rx.payload = got

variable {c : Ccb} {pBuf : BtHdr} {ctrlWord : Nat}

/-- Appending a frame that does not overrun the SDU keeps it in progress, one frame longer. -/
theorem sduInProgress_append {rx : BtHdr} {got : List UInt8} {total : Nat}
    (hlen : c.fcrb.rxSduLen = total) (hrx : rx.len = got.length)
    (hroom : rx.offset + total ≤ rx.data.length) (hgot : rx.payload = got) (hfit : pBuf.Fits)
    (hle : got.length + pBuf.len ≤ total) :
    SduInProgress { c with fcrb := { c.fcrb with pRxSdu := some (rx.appendPayload pBuf) } }
      (got ++ pBuf.payload) total := by
  have hpay : (rx.appendPayload pBuf).payload = rx.payload ++ pBuf.payload :=
    BtHdr.payload_appendPayload (by omega) hfit
  refine ⟨hlen, _, rfl, ?_, by simpa using hroom, by rw [hpay, hgot]⟩
  simp [hrx, BtHdr.length_payload hfit]

theorem sarAppend_of_ne_end {rx : BtHdr} {sarType : Nat} (hne : sarType ≠ l2capFcrEndSdu)
    (hle : rx.len + pBuf.len ≤ c.fcrb.rxSduLen) :
    sarAppend c rx pBuf sarType =
      ⟨{ c with fcrb := { c.fcrb with pRxSdu := some (rx.appendPayload pBuf) } }, true, none⟩ := by
  unfold sarAppend
  rw [if_neg (Nat.not_lt.2 hle), if_neg (fun h => hne h.1), if_neg hne]

theorem sarAppend_end {rx : BtHdr} (heq : rx.len + pBuf.len = c.fcrb.rxSduLen) :
    sarAppend c rx pBuf l2capFcrEndSdu =
      ⟨{ c with fcrb := { c.fcrb with pRxSdu := none } }, true, some (rx.appendPayload pBuf)⟩ := by
  unfold sarAppend
  rw [if_neg (Nat.not_lt.2 (Nat.le_of_eq heq)), if_neg (fun h => h.2 heq), if_pos rfl]

/-- With no SDU in progress, an unsegmented frame is handed up as it is. -/
theorem doSarReassembly_unseg (hnone : c.fcrb.pRxSdu = none)
    (hsar : ctrlWord &&& l2capFcrSegBits = l2capFcrUnsegSdu) :
    doSarReassembly c pBuf ctrlWord = ⟨c, true, some pBuf⟩ := by
  simp [doSarReassembly, sarStateOk, hsar, hnone, l2capFcrUnsegSdu, l2capFcrStartSdu]

/-- With no SDU in progress, a start frame whose SDU length is within the MTU opens an SDU buffer
of that length and goes on to the append. -/
theorem doSarReassembly_of_start (hnone : c.fcrb.pRxSdu = none)
    (hsar : ctrlWord &&& l2capFcrSegBits = l2capFcrStartSdu)
    (hhdr : l2capSduLenOverhead ≤ pBuf.len)
    (hmtu : streamToUint16 pBuf.data pBuf.offset ≤ c.maxRxMtu) :
    let rxSduLen := streamToUint16 pBuf.data pBuf.offset
    doSarReassembly c pBuf ctrlWord =
      sarAppend { c with fcrb := { c.fcrb with rxSduLen, pRxSdu := some (rxSduBuffer rxSduLen) } }
        (rxSduBuffer rxSduLen) (pBuf.skip 2) l2capFcrStartSdu := by
  have hok : sarStateOk c pBuf l2capFcrStartSdu = true := by
    have hlen : ¬pBuf.len < l2capSduLenOverhead := Nat.not_lt.2 hhdr
    simp [sarStateOk, hnone, hlen]
  have hstart : l2capFcrStartSdu ≠ l2capFcrUnsegSdu := by decide
  simp only [doSarReassembly, hsar, hok, hstart, Bool.not_true, if_false, if_true]
  simp only [sarStart, Nat.not_lt.2 hmtu, if_false, Bool.not_true, Bool.false_eq_true]

/-- With an SDU in progress, a continuation or end frame goes straight to the append. -/
theorem doSarReassembly_of_inProgress {rx : BtHdr} (hrx : c.fcrb.pRxSdu = some rx)
    (hsar : ctrlWord &&& l2capFcrSegBits = l2capFcrContSdu ∨
      ctrlWord &&& l2capFcrSegBits = l2capFcrEndSdu) :
    doSarReassembly c pBuf ctrlWord = sarAppend c rx pBuf (ctrlWord &&& l2capFcrSegBits) := by
  rcases hsar with hsar | hsar <;>
    simp [doSarReassembly, sarStateOk, hsar, hrx, l2capFcrUnsegSdu, l2capFcrStartSdu,
      l2capFcrContSdu, l2capFcrEndSdu]

/-- A start frame whose SDU length is within the MTU and covers the frame's bytes opens an SDU
holding them. -/
theorem doSarReassembly_start (hnone : c.fcrb.pRxSdu = none)
    (hsar : ctrlWord &&& l2capFcrSegBits = l2capFcrStartSdu) (hfit : pBuf.Fits)
    (hhdr : l2capSduLenOverhead ≤ pBuf.len)
    (hmtu : streamToUint16 pBuf.data pBuf.offset ≤ c.maxRxMtu)
    (hle : pBuf.len - 2 ≤ streamToUint16 pBuf.data pBuf.offset) :
    let r := doSarReassembly c pBuf ctrlWord
    r.packetOk = true ∧ r.sdu = none ∧
      SduInProgress r.ccb (pBuf.payload.drop 2) (streamToUint16 pBuf.data pBuf.offset) := by
  have hend : l2capFcrStartSdu ≠ l2capFcrEndSdu := by decide
  have hroom : (rxSduBuffer (streamToUint16 pBuf.data pBuf.offset)).offset +
      streamToUint16 pBuf.data pBuf.offset ≤
        (rxSduBuffer (streamToUint16 pBuf.data pBuf.offset)).data.length := by
    simp only [rxSduBuffer, osiMallocBuf, List.length_replicate, btHdrSize, obxBufMinOffset]
    omega
  have hempty : (rxSduBuffer (streamToUint16 pBuf.data pBuf.offset)).payload = [] := by
    simp [rxSduBuffer, BtHdr.payload, load]
  have hskip : (pBuf.skip 2).Fits := hfit.skip (by simp only [l2capSduLenOverhead] at hhdr; omega)
  have hin := sduInProgress_append (c := { c with fcrb := { c.fcrb with
      rxSduLen := streamToUint16 pBuf.data pBuf.offset
      pRxSdu := some (rxSduBuffer (streamToUint16 pBuf.data pBuf.offset)) } })
    rfl rfl hroom hempty hskip (by simpa using hle)
  rw [doSarReassembly_of_start hnone hsar hhdr hmtu,
    sarAppend_of_ne_end hend (by simp only [rxSduBuffer, BtHdr.skip_len]; omega)]
  refine ⟨rfl, rfl, ?_⟩
  simpa [BtHdr.payload_skip] using hin

/-- A continuation frame that does not overrun the SDU is appended to it. -/
theorem doSarReassembly_cont {got : List UInt8} {total : Nat} (hp : SduInProgress c got total)
    (hsar : ctrlWord &&& l2capFcrSegBits = l2capFcrContSdu) (hfit : pBuf.Fits)
    (hle : got.length + pBuf.len ≤ total) :
    let r := doSarReassembly c pBuf ctrlWord
    r.packetOk = true ∧ r.sdu = none ∧ SduInProgress r.ccb (got ++ pBuf.payload) total := by
  obtain ⟨hlen, rx, hrx, hrxlen, hroom, hgot⟩ := hp
  have hcont : l2capFcrContSdu ≠ l2capFcrEndSdu := by decide
  rw [doSarReassembly_of_inProgress hrx (.inl hsar), hsar, sarAppend_of_ne_end hcont (by omega)]
  exact ⟨rfl, rfl, sduInProgress_append hlen hrxlen hroom hgot hfit hle⟩

/-- An end frame that completes the SDU hands it up and closes the reassembly. -/
theorem doSarReassembly_end {got : List UInt8} {total : Nat} (hp : SduInProgress c got total)
    (hsar : ctrlWord &&& l2capFcrSegBits = l2capFcrEndSdu) (hfit : pBuf.Fits)
    (heq : got.length + pBuf.len = total) :
    let r := doSarReassembly c pBuf ctrlWord
    r.packetOk = true ∧ r.ccb.fcrb.pRxSdu = none ∧
      ∃ sdu, r.sdu = some sdu ∧ sdu.payload = got ++ pBuf.payload := by
  obtain ⟨hlen, rx, hrx, hrxlen, hroom, hgot⟩ := hp
  rw [doSarReassembly_of_inProgress hrx (.inr hsar), hsar, sarAppend_end (by omega)]
  refine ⟨rfl, rfl, _, rfl, ?_⟩
  rw [BtHdr.payload_appendPayload (by omega) hfit, hgot]

/-! ## Whole SDUs -/

/-- Frames carrying the later pieces of an SDU whose first bytes `got` are already in progress
are all accepted and complete it. The induction follows `laterPieces`. -/
theorem sarReceive_laterPieces {maxPdu : Nat} (rem : List UInt8) :
    ∀ {c : Ccb} {got : List UInt8} {frames : List (BtHdr × Nat)},
      SduInProgress c got (got.length + rem.length) →
      frames.map pieceOf = laterPieces maxPdu rem → (∀ f ∈ frames, f.1.Fits) →
      (sarReceive c frames).2.1 = List.replicate frames.length true ∧
        (sarReceive c frames).2.2.map BtHdr.payload = [got ++ rem] ∧
        (sarReceive c frames).1.fcrb.pRxSdu = none := by
  induction rem using laterPieces.induct maxPdu with
  | case1 s hs =>
    -- the end piece
    intro c got frames hp hfr hfit
    rw [laterPieces, if_pos hs] at hfr
    obtain ⟨⟨pBuf, w⟩, rest, rfl, hf, hrest⟩ := List.map_eq_cons_iff.1 hfr
    obtain rfl := List.map_eq_nil_iff.1 hrest
    simp only [pieceOf, Prod.mk.injEq] at hf
    have hfit' : pBuf.Fits := hfit _ (List.mem_singleton_self _)
    have hlen : pBuf.len = s.length := by rw [← BtHdr.length_payload hfit', hf.2]
    obtain ⟨hok, hnone, sdu, hsdu, hpay⟩ := doSarReassembly_end hp hf.1 hfit' (by omega)
    simp [sarReceive, hok, hnone, hsdu, hpay, hf.2]
  | case2 s hs ih =>
    -- a continuation piece of `max_pdu` bytes, then the rest
    intro c got frames hp hfr hfit
    rw [laterPieces, if_neg hs] at hfr
    obtain ⟨⟨pBuf, w⟩, rest, rfl, hf, hrest⟩ := List.map_eq_cons_iff.1 hfr
    simp only [pieceOf, Prod.mk.injEq] at hf
    have hfit' : pBuf.Fits := hfit _ List.mem_cons_self
    have hlen : pBuf.len = maxPdu := by
      rw [← BtHdr.length_payload hfit', hf.2, List.length_take]
      omega
    obtain ⟨hok, hsdu, hp'⟩ := doSarReassembly_cont hp hf.1 hfit' (by omega)
    have htotal : got.length + s.length =
        (got ++ pBuf.payload).length + (s.drop maxPdu).length := by
      simp only [List.length_append, List.length_drop, BtHdr.length_payload hfit', hlen]
      omega
    rw [htotal] at hp'
    obtain ⟨hoks, hsdus, hnone⟩ := ih hp' hrest (fun f hf => hfit f (List.mem_cons_of_mem _ hf))
    refine ⟨?_, ?_, hnone⟩
    · simp [sarReceive, hok, hoks, List.replicate_succ]
    · simp only [sarReceive, hsdu, Option.toList_none, List.nil_append, hsdus, hf.2,
        List.append_assoc, List.take_append_drop]

/-- The SDU length a start frame carries, read where `do_sar_reassembly` reads it. -/
theorem streamToUint16_eq_leValue {b : BtHdr} (h : 2 ≤ b.len) :
    streamToUint16 b.data b.offset = leValue (b.payload.take 2) := by
  simp only [streamToUint16, BtHdr.payload, take_load, Nat.min_eq_left h]

/-- Frames carrying the pieces of an SDU of at most `max_rx_mtu` bytes, handed in order to
`do_sar_reassembly` with no SDU in progress, are all accepted, hand up exactly the SDU, and leave
no SDU in progress. -/
theorem sarReceive_sarPieces {maxPdu : Nat} {s : List UInt8} {frames : List (BtHdr × Nat)}
    (hnone : c.fcrb.pRxSdu = none) (hmtu : s.length ≤ c.maxRxMtu)
    (h16 : s.length < 65536) (hfr : frames.map pieceOf = sarPieces maxPdu s)
    (hfit : ∀ f ∈ frames, f.1.Fits) :
    (sarReceive c frames).2.1 = List.replicate frames.length true ∧
      (sarReceive c frames).2.2.map BtHdr.payload = [s] ∧
      (sarReceive c frames).1.fcrb.pRxSdu = none := by
  unfold sarPieces at hfr
  by_cases hs : s.length ≤ maxPdu
  · -- one unsegmented frame
    rw [if_pos hs] at hfr
    obtain ⟨⟨pBuf, w⟩, rest, rfl, hf, hrest⟩ := List.map_eq_cons_iff.1 hfr
    obtain rfl := List.map_eq_nil_iff.1 hrest
    simp only [pieceOf, Prod.mk.injEq] at hf
    simp [sarReceive, doSarReassembly_unseg hnone hf.1, hf.2, hnone]
  · -- a start frame, then the later pieces
    rw [if_neg hs] at hfr
    obtain ⟨⟨pBuf, w⟩, rest, rfl, hf, hrest⟩ := List.map_eq_cons_iff.1 hfr
    simp only [pieceOf, Prod.mk.injEq] at hf
    have hfit' : pBuf.Fits := hfit _ List.mem_cons_self
    have hlen : pBuf.len = 2 + maxPdu := by
      rw [← BtHdr.length_payload hfit', hf.2, List.length_append, List.length_take]
      simp [uint16ToStream]
      omega
    -- the SDU length field reads back as the SDU's length
    have hsdulen : streamToUint16 pBuf.data pBuf.offset = s.length := by
      rw [streamToUint16_eq_leValue (by omega), hf.2, List.take_left' (by simp [uint16ToStream]),
        uint16ToStream, leValue_leBytes]
      omega
    obtain ⟨hok, hsdu, hp⟩ := doSarReassembly_start hnone hf.1 hfit'
      (by simp only [l2capSduLenOverhead]; omega) (by omega) (by omega)
    have hgot : pBuf.payload.drop 2 = s.take maxPdu := by
      rw [hf.2, List.drop_left' (by simp [uint16ToStream])]
    have htotal : s.length = (s.take maxPdu).length + (s.drop maxPdu).length := by
      simp only [List.length_take, List.length_drop]
      omega
    rw [hgot, hsdulen, htotal] at hp
    obtain ⟨hoks, hsdus, hnone'⟩ :=
      sarReceive_laterPieces (s.drop maxPdu) hp hrest
        (fun f hf => hfit f (List.mem_cons_of_mem _ hf))
    refine ⟨?_, ?_, hnone'⟩
    · simp [sarReceive, hok, hoks, List.replicate_succ]
    · simp only [sarReceive, hsdu, Option.toList_none, List.nil_append, hsdus,
        List.take_append_drop]

end BluetoothStack.L2cap
