import DroneFirmware.Driver
import DroneFirmware.Receiver
import DroneFirmware.Reactive.Run

/-!
# The radio link: `read_data` against the chip

`read_data` is four SPI transactions: it reads STATUS, and if RX_DR is set it reads a payload,
clears the flag and flushes the receive FIFO.  The nRF24 goes on receiving meanwhile.  The FIFO
is read oldest first, so what is flushed is what arrived after the payload that was read.

* `Nrf24`: the chip, with the history of its arrivals.
* `RadioLink.step`: the driver, one transaction at a time, with arrivals in between.
* `data_of_call`: a whole call is `readData` of the bytes the chip gave.
* `delivers_newest_iff`: in which runs a payload read delivers the newest arrival.
* `failed_read_iff`: in which calls a failed transfer leaves the package alone.
-/

namespace DroneFirmware

open Reactive

/-! ## The chip -/

/-- The number of payloads the receive FIFO holds. -/
def fifoDepth : ℕ := 3

/-- A payload that reached the radio, numbered in the order of arrival. -/
structure Arrival where
  serial : ℕ
  bytes : Fin 9 → UInt8
  deriving DecidableEq

/-- The receiving side of the nRF24. -/
structure Nrf24 where
  /-- The receive FIFO, oldest first. -/
  fifo : List Arrival
  /-- The flag RX_DR of STATUS. -/
  rxDr : Bool
  /-- Every arrival, oldest first; the chip does not know it. -/
  arrived : List Arrival
  /-- The arrivals since the last flush. -/
  sinceFlush : List Arrival

/-- The chip after power-up. -/
def Nrf24.reset : Nrf24 := ⟨[], false, [], []⟩

/-- The newest payload that has arrived. -/
def Nrf24.newest (c : Nrf24) : Option Arrival := c.arrived.getLast?

/-- A payload arrives: RX_DR is set, and the FIFO takes the payload if it has room. -/
def Nrf24.arrive (bytes : Fin 9 → UInt8) (c : Nrf24) : Nrf24 :=
  let a : Arrival := ⟨c.arrived.length, bytes⟩
  { fifo := if c.fifo.length < fifoDepth then c.fifo ++ [a] else c.fifo
    rxDr := true
    arrived := c.arrived ++ [a]
    sinceFlush := c.sinceFlush ++ [a] }

/-- The register STATUS: RX_DR, and the pipe number that means an empty FIFO. -/
def Nrf24.status (c : Nrf24) : UInt8 :=
  (if c.rxDr then 0x40 else 0) ||| (if c.fifo.isEmpty then 0x0E else 0)

/-- What a read of STATUS leaves in the receive buffer: the chip shifts STATUS out during the
command byte, too. -/
def Nrf24.statusRx (c : Nrf24) : Fin 2 → UInt8 := fun _ => c.status

/-- What `R_RX_PAYLOAD` leaves in the receive buffer: the oldest payload, or unspecified bytes
when the FIFO is empty. -/
def Nrf24.payloadRx (junk : Fin 9 → UInt8) (c : Nrf24) : Fin 10 → UInt8 :=
  Fin.cons c.status
    (match c.fifo with
    | [] => junk
    | a :: _ => a.bytes)

/-- `R_RX_PAYLOAD` takes the payload it reads out of the FIFO. -/
def Nrf24.pop (c : Nrf24) : Nrf24 := { c with fifo := c.fifo.tail }

/-- A write to STATUS clears the flag RX_DR if its bit is set. -/
def Nrf24.writeStatus (value : UInt8) (c : Nrf24) : Nrf24 :=
  { c with rxDr := if value &&& 0x40 != 0 then false else c.rxDr }

/-- `FLUSH_RX`. -/
def Nrf24.flushRx (c : Nrf24) : Nrf24 := { c with fifo := [], sinceFlush := [] }

/-- The package of an arrival, as `read_data` stores it. -/
def Arrival.package (a : Arrival) : DataPackage := .ofBytes a.bytes

/-- The driver tests the mask of RX_DR, and that is the flag. -/
theorem Nrf24.status_rxDr (c : Nrf24) : (c.status &&& 0x40 != 0) = c.rxDr := by
  rw [status]
  cases c.rxDr with
  | false => cases c.fifo.isEmpty <;> rfl
  | true => cases c.fifo.isEmpty <;> rfl

/-! ## The driver -/

/-- The next transaction of the driver. -/
inductive Transaction where
  /-- `nrf_read_reg(REG_STATUS)`. -/
  | status
  /-- `R_RX_PAYLOAD`. -/
  | payload
  /-- `nrf_write_reg(REG_STATUS, 0x40)`. -/
  | clear
  /-- `spi_transfer(NRF_CMD_FLUSH_RX)`. -/
  | flush
  deriving DecidableEq

/-- The chip, the driver between two transactions, and the global `data`. -/
structure RadioLink where
  chip : Nrf24
  next : Transaction
  data : DataPackage

/-- The link before the first call. -/
def RadioLink.reset : RadioLink := ⟨.reset, .status, .zero⟩

/-- What happens next: a payload arrives, or the driver makes its next transaction.  `junk` is
what the chip gives when it has nothing. -/
inductive RadioEvent where
  | arrive (bytes : Fin 9 → UInt8)
  | transfer (junk : Fin 9 → UInt8)

/-- The step is one of the driver's. -/
def RadioEvent.isTransfer : RadioEvent → Bool
  | arrive _ => false
  | transfer _ => true

/-- The next transaction of `read_data`.  After the last one the call returns `data`, and the
next call begins. -/
def RadioLink.transfer (junk : Fin 9 → UInt8) (s : RadioLink) : RadioLink :=
  match s.next with
  | .status => if nrfReadReg s.chip.statusRx &&& 0x40 != 0 then { s with next := .payload } else s
  | .payload => ⟨s.chip.pop, .clear, .ofRx (s.chip.payloadRx junk)⟩
  | .clear => { s with chip := s.chip.writeStatus 0x40, next := .flush }
  | .flush => { s with chip := s.chip.flushRx, next := .status }

/-- One step of the link. -/
def RadioLink.step (s : RadioLink) : RadioEvent → RadioLink
  | .arrive bytes => { s with chip := s.chip.arrive bytes }
  | .transfer junk => s.transfer junk

/-- The step is the payload read of a call that has found RX_DR set. -/
def ReadsPayload (s : RadioLink) (e : RadioEvent) : Prop :=
  s.next = .payload ∧ e.isTransfer = true

/-- **The newest payload is delivered.**  The read takes the newest arrival out of the FIFO, and
`data` is its package. -/
def DeliversNewest (s : RadioLink) (e : RadioEvent) : Prop :=
  s.chip.fifo.head? = s.chip.newest ∧
    s.chip.newest.map Arrival.package = some (s.step e).data

/-- Exactly one payload has arrived since the last flush. -/
def OneArrival (s : RadioLink) : Prop := s.chip.sinceFlush.length = 1

instance (s : RadioLink) (e : RadioEvent) : Decidable (ReadsPayload s e) :=
  inferInstanceAs (Decidable (_ ∧ _))

instance (s : RadioLink) (e : RadioEvent) : Decidable (DeliversNewest s e) :=
  inferInstanceAs (Decidable (_ ∧ _))

instance (s : RadioLink) : Decidable (OneArrival s) := inferInstanceAs (Decidable (_ = _))

/-! ## A whole call -/

/-- The chip after some arrivals. -/
def Nrf24.arriveAll (payloads : List (Fin 9 → UInt8)) (c : Nrf24) : Nrf24 :=
  payloads.foldl (fun c bytes => c.arrive bytes) c

/-- Arrivals reach the chip and nothing else. -/
theorem run_arrivals (payloads : List (Fin 9 → UInt8)) (s : RadioLink) :
    run RadioLink.step s (payloads.map .arrive) =
      { s with chip := s.chip.arriveAll payloads } := by
  induction payloads generalizing s with
  | nil => rfl
  | cons bytes payloads ih =>
    rw [List.map_cons, run_cons, ih]
    rfl

/-- The steps of a call that finds RX_DR set, with what arrives between its transactions. -/
def callEvents (junk : Fin 9 → UInt8) (g1 g2 g3 : List (Fin 9 → UInt8)) : List RadioEvent :=
  .transfer junk :: (g1.map .arrive ++ .transfer junk :: (g2.map .arrive ++
    .transfer junk :: (g3.map .arrive ++ [.transfer junk])))

/-- A call that finds RX_DR clear is over after one transaction, and it is `readData` of what
the chip gave. -/
theorem data_of_idle_call {s : RadioLink} (hs : s.next = .status) (hdr : s.chip.rxDr = false)
    (junk : Fin 9 → UInt8) (rx : Fin 10 → UInt8) (t : ℤ) :
    (s.step (.transfer junk)).next = .status ∧
      (s.step (.transfer junk)).data = readData ⟨s.chip.statusRx, rx, t⟩ s.data := by
  have hflag : (nrfReadReg s.chip.statusRx &&& 0x40 != 0) = false := by
    rw [← hdr]
    exact s.chip.status_rxDr
  have hstep : s.step (.transfer junk) = s := by
    show s.transfer junk = s
    rw [RadioLink.transfer, hs]
    exact if_neg (by simp [hflag])
  rw [hstep, readData, NrfReply.rxDr, if_neg (by simp [hflag])]
  exact ⟨hs, rfl⟩

/-- **A call that finds RX_DR set is `readData` of the bytes the chip gave**, whatever arrives
between its transactions. -/
theorem data_of_call {s : RadioLink} (hs : s.next = .status) (hdr : s.chip.rxDr = true)
    (junk : Fin 9 → UInt8) (g1 g2 g3 : List (Fin 9 → UInt8)) (t : ℤ) :
    (run RadioLink.step s (callEvents junk g1 g2 g3)).next = .status ∧
      (run RadioLink.step s (callEvents junk g1 g2 g3)).data =
        readData ⟨s.chip.statusRx, (s.chip.arriveAll g1).payloadRx junk, t⟩ s.data := by
  have hflag : (nrfReadReg s.chip.statusRx &&& 0x40 != 0) = true := by
    rw [← hdr]
    exact s.chip.status_rxDr
  have hstatus : s.step (.transfer junk) = { s with next := .payload } := by
    show s.transfer junk = _
    rw [RadioLink.transfer, hs]
    exact if_pos hflag
  obtain ⟨c1, hc1⟩ : ∃ c1, c1 = s.chip.arriveAll g1 := ⟨_, rfl⟩
  obtain ⟨c2, hc2⟩ : ∃ c2, c2 = c1.pop.arriveAll g2 := ⟨_, rfl⟩
  have hrun : run RadioLink.step s (callEvents junk g1 g2 g3) =
      ⟨((c2.writeStatus 0x40).arriveAll g3).flushRx, .status, .ofRx (c1.payloadRx junk)⟩ := by
    rw [callEvents, run_cons, hstatus, run_append, run_arrivals, run_cons]
    show run RadioLink.step ⟨(s.chip.arriveAll g1).pop, .clear, _⟩ _ = _
    rw [← hc1, run_append, run_arrivals, run_cons]
    show run RadioLink.step ⟨(c1.pop.arriveAll g2).writeStatus 0x40, .flush, _⟩ _ = _
    rw [← hc2, run_append, run_arrivals]
    rfl
  rw [hrun, readData, NrfReply.rxDr, if_pos hflag, ← hc1]
  exact ⟨rfl, rfl⟩

/-! ## What the FIFO holds -/

/-- Arrivals are numbered, and while the driver has taken nothing since the last flush the FIFO
holds the first three arrivals since then. -/
structure RadioLink.Inv (s : RadioLink) : Prop where
  numbered : s.chip.arrived.map Arrival.serial = List.range s.chip.arrived.length
  recent : s.chip.sinceFlush <:+ s.chip.arrived
  queued : s.next = .status ∨ s.next = .payload → s.chip.fifo = s.chip.sinceFlush.take fifoDepth

theorem RadioLink.inv_reset : RadioLink.reset.Inv :=
  ⟨rfl, List.suffix_refl _, fun _ => rfl⟩

/-- One more arrival, in the FIFO if there is room. -/
theorem take_concat_of_fifo (l : List Arrival) (a : Arrival) :
    (if (l.take fifoDepth).length < fifoDepth then l.take fifoDepth ++ [a]
      else l.take fifoDepth) = (l ++ [a]).take fifoDepth := by
  rw [fifoDepth, List.length_take]
  split_ifs with h
  · have hl : l.length < 3 := by omega
    rw [List.take_of_length_le hl.le, List.take_of_length_le (by simp; omega)]
  · rw [List.take_append_of_le_length (by omega)]

/-- **Every step keeps the invariant.** -/
theorem RadioLink.Inv.step {s : RadioLink} (h : s.Inv) (e : RadioEvent) : (s.step e).Inv := by
  obtain ⟨hnum, hrecent, hqueued⟩ := h
  cases e with
  | arrive bytes =>
    refine ⟨?_, ?_, fun hnext => ?_⟩
    · show (s.chip.arrived ++ [_]).map Arrival.serial = List.range (s.chip.arrived ++ [_]).length
      rw [List.map_append, hnum, List.length_append, List.length_singleton, List.range_succ]
      rfl
    · obtain ⟨older, hsplit⟩ := hrecent
      refine ⟨older, ?_⟩
      show older ++ (s.chip.sinceFlush ++ [_]) = s.chip.arrived ++ [_]
      rw [← List.append_assoc, hsplit]
    · show (if s.chip.fifo.length < fifoDepth then s.chip.fifo ++ [_] else s.chip.fifo) =
        (s.chip.sinceFlush ++ [_]).take fifoDepth
      rw [hqueued hnext]
      exact take_concat_of_fifo _ _
  | transfer junk =>
    show (s.transfer junk).Inv
    rw [RadioLink.transfer]
    cases hnext : s.next with
    | status =>
      -- the driver has only looked, whether it goes on or returns
      show (if _ then _ else s).Inv
      split_ifs
      · exact ⟨hnum, hrecent, fun _ => hqueued (Or.inl hnext)⟩
      · exact ⟨hnum, hrecent, hqueued⟩
    | payload => exact ⟨hnum, hrecent, fun h => by simp at h⟩
    | clear => exact ⟨hnum, hrecent, fun h => by simp at h⟩
    | flush => exact ⟨hnum, List.nil_suffix, fun _ => rfl⟩

/-! ## The newest payload -/

/-- Two arrivals are never the same. -/
theorem RadioLink.Inv.nodup {s : RadioLink} (h : s.Inv) : s.chip.sinceFlush.Nodup := by
  have harrived : s.chip.arrived.Nodup := by
    refine List.Nodup.of_map Arrival.serial ?_
    rw [h.numbered]
    exact List.nodup_range
  exact harrived.sublist h.recent.sublist

/-- **The head of the FIFO is the newest arrival exactly when nothing else arrived since the last
flush.** -/
theorem RadioLink.Inv.head_eq_newest_iff {s : RadioLink} (h : s.Inv) (hnext : s.next = .payload) :
    (∃ a, s.chip.fifo.head? = some a ∧ s.chip.newest = some a) ↔ OneArrival s := by
  have hnodup := h.nodup
  obtain ⟨older, hsplit⟩ := h.recent
  rw [h.queued (Or.inr hnext), Nrf24.newest, ← hsplit, OneArrival]
  cases hsince : s.chip.sinceFlush with
  | nil => simp
  | cons a later =>
    rw [hsince, List.nodup_cons] at hnodup
    have hhead : ((a :: later).take fifoDepth).head? = some a := rfl
    rw [hhead, List.getLast?_append_of_ne_nil _ (List.cons_ne_nil a later)]
    cases later with
    | nil => simp
    | cons b later =>
      -- the newest came after `a`, and no arrival comes twice
      constructor
      · rintro ⟨a', ha, hlast⟩
        rw [List.getLast?_cons_cons, ← ha] at hlast
        exact absurd (List.mem_of_getLast? hlast) hnodup.1
      · intro hlen
        simp at hlen

/-- A payload read leaves the oldest payload of the FIFO in `data`. -/
theorem data_of_readsPayload {s : RadioLink} {e : RadioEvent} (h : ReadsPayload s e)
    {a : Arrival} (ha : s.chip.fifo.head? = some a) : (s.step e).data = a.package := by
  obtain ⟨hnext, htransfer⟩ := h
  cases e with
  | arrive => cases htransfer
  | transfer junk =>
    obtain ⟨older, hfifo⟩ := List.head?_eq_some_iff.mp ha
    show (s.transfer junk).data = a.package
    rw [RadioLink.transfer, hnext]
    show DataPackage.ofRx (s.chip.payloadRx junk) = a.package
    rw [Nrf24.payloadRx, hfifo]
    rfl

/-- A payload read delivers the newest arrival exactly when it is the only one since the last
flush. -/
theorem deliversNewest_iff {s : RadioLink} (h : s.Inv) (e : RadioEvent) :
    (ReadsPayload s e → DeliversNewest s e) ↔ (ReadsPayload s e → OneArrival s) := by
  refine forall_congr' fun hread => ?_
  rw [← h.head_eq_newest_iff hread.1]
  constructor
  · rintro ⟨hhead, hdata⟩
    obtain ⟨a, ha, -⟩ := Option.map_eq_some_iff.mp hdata
    exact ⟨a, hhead.trans ha, ha⟩
  · rintro ⟨a, hhead, hnewest⟩
    refine ⟨hhead.trans hnewest.symm, ?_⟩
    rw [hnewest, data_of_readsPayload hread hhead]
    rfl

/-- The law that the radio delivers the newest command, at every payload read of every
interleaving. -/
def NewestDelivered : Prop :=
  ∀ events : List RadioEvent,
    Along RadioLink.step (fun s e => ReadsPayload s e → DeliversNewest s e) .reset events

/-- **The newest command is delivered exactly when it is alone.**  In an interleaving every
payload read delivers the newest arrival if and only if, whenever one starts, exactly one payload
has arrived since the last flush. -/
theorem delivers_newest_iff (events : List RadioEvent) :
    Along RadioLink.step (fun s e => ReadsPayload s e → DeliversNewest s e) .reset events ↔
      Along RadioLink.step (fun s e => ReadsPayload s e → OneArrival s) .reset events :=
  along_congr_of RadioLink.Inv (fun _ e h => deliversNewest_iff h e) (fun _ e h _ => h.step e)
    RadioLink.inv_reset events

/-- Throttle up, then the pilot lets go of it: two payloads between two calls. -/
def twoQueuedRun : List RadioEvent :=
  [.arrive (DataPackage.bytes ⟨512, 512, 512, 600, true⟩),
    .arrive (DataPackage.bytes ⟨512, 512, 512, 0, true⟩), .transfer fun _ => 0xFF,
    .transfer fun _ => 0xFF]

/-- A call, a payload between its clear and its flush, and the next call up to its read. -/
def lateArrivalRun : List RadioEvent :=
  [.arrive (DataPackage.bytes ⟨512, 512, 512, 0, true⟩), .transfer fun _ => 0xFF,
    .transfer fun _ => 0xFF, .transfer fun _ => 0xFF,
    .arrive (DataPackage.bytes ⟨512, 512, 512, 0, true⟩), .transfer fun _ => 0xFF,
    .transfer fun _ => 0xFF, .transfer fun _ => 0xFF]

/-- **The older of two queued commands is delivered**; and a payload that arrives between the
clear and the flush leaves the flag set over an empty FIFO, so the next call takes bytes that
nobody sent for a command. -/
theorem not_newestDelivered :
    ¬ NewestDelivered ∧
      (run RadioLink.step .reset twoQueuedRun).data = ⟨512, 512, 512, 600, true⟩ ∧
      (run RadioLink.step .reset twoQueuedRun).chip.newest.map Arrival.package =
        some ⟨512, 512, 512, 0, true⟩ ∧
      (run RadioLink.step .reset lateArrivalRun).data = ⟨-1, -1, -1, -1, true⟩ := by
  refine ⟨fun h => ?_, by decide +kernel, by decide +kernel, by decide +kernel⟩
  have hrun := h twoQueuedRun
  revert hrun
  decide +kernel

/-! ## Failing transfers -/

/-- What `spi_transceive` returns, and what it leaves in the receive buffer: arbitrary bytes when
it fails. -/
structure SpiTransfer (n : ℕ) where
  result : DriverResult
  rx : Fin n → UInt8

/-- The two transfers of a call that `data` depends on.  The clear and the flush come after it
is written. -/
structure ReadTransfers where
  status : SpiTransfer 2
  payload : SpiTransfer 10

/-- The bytes of the call, as `read_data` sees them: it does not look at the results. -/
def ReadTransfers.reply (r : ReadTransfers) : NrfReply := ⟨r.status.rx, r.payload.rx, 0⟩

/-- `read_data` with the results of its transfers. -/
def readDataOf (r : ReadTransfers) (data : DataPackage) : DataPackage := readData r.reply data

/-- The status read fails, or the payload read does, if there is one. -/
def ReadTransfers.Failed (r : ReadTransfers) : Prop :=
  r.status.result ≠ .ok ∨ r.reply.rxDr = true ∧ r.payload.result ≠ .ok

/-- A failed transfer leaves the package as it was. -/
def KeepsPackage (r : ReadTransfers) (data : DataPackage) : Prop :=
  r.Failed → readDataOf r data = data

/-- The buffers a failed call leaves do no harm: the status buffer has not RX_DR set, or the
payload buffer spells the old package. -/
def HarmlessBuffers (r : ReadTransfers) (data : DataPackage) : Prop :=
  r.reply.rxDr = false ∨ r.reply.package = data

theorem readDataOf_eq_iff (r : ReadTransfers) (data : DataPackage) :
    readDataOf r data = data ↔ HarmlessBuffers r data := by
  rw [readDataOf, readData, HarmlessBuffers]
  cases r.reply.rxDr with
  | false => simp
  | true => simp

/-- The law that a failed transfer never changes the command. -/
def FailedReadKeepsPackage : Prop :=
  ∀ (r : ReadTransfers) (data : DataPackage), KeepsPackage r data

/-- Whatever the buffers hold, the package is kept exactly when neither transfer fails. -/
theorem forall_keepsPackage_iff (status payload : DriverResult) :
    (∀ r data, r.status.result = status → r.payload.result = payload → KeepsPackage r data) ↔
      status = .ok ∧ payload = .ok := by
  constructor
  · intro h
    -- buffers full of ones: RX_DR is set, and the payload is not the package of zeros
    have hkeeps := h ⟨⟨status, fun _ => 0xFF⟩, ⟨payload, fun _ => 0xFF⟩⟩ .zero rfl rfl
    by_contra hfail
    have hdr : NrfReply.rxDr ⟨fun _ => 0xFF, fun _ => 0xFF, 0⟩ = true := by decide
    have hfailed : ReadTransfers.Failed ⟨⟨status, fun _ => 0xFF⟩, ⟨payload, fun _ => 0xFF⟩⟩ := by
      by_cases hs : status = .ok
      · exact Or.inr ⟨hdr, fun hp => hfail ⟨hs, hp⟩⟩
      · exact Or.inl hs
    have hchanged : readData ⟨fun _ => 0xFF, fun _ => 0xFF, 0⟩ .zero ≠ .zero := by decide
    exact hchanged (hkeeps hfailed)
  · rintro ⟨rfl, rfl⟩ r data hs hp hfailed
    rcases hfailed with hf | ⟨-, hf⟩
    · exact absurd hs hf
    · exact absurd hp hf

/-- **When a failed transfer leaves the package alone.**  In one call exactly when the buffers it
left do no harm; with the same results and whatever in the buffers, exactly when neither transfer
failed. -/
theorem failed_read_iff (r : ReadTransfers) (data : DataPackage) :
    (KeepsPackage r data ↔ (r.Failed → HarmlessBuffers r data)) ∧
      ((∀ r' data', r'.status.result = r.status.result → r'.payload.result = r.payload.result →
          KeepsPackage r' data') ↔ r.status.result = .ok ∧ r.payload.result = .ok) :=
  ⟨imp_congr_right fun _ => readDataOf_eq_iff r data, forall_keepsPackage_iff _ _⟩

/-- Both transfers of a call fail with `-EIO`, on a stack that held other bytes. -/
def failedCall : ReadTransfers := ⟨⟨.fail 4, fun _ => 0x40⟩, ⟨.fail 4, fun _ => 0x7F⟩⟩

/-- **A failed call flies a disarmed drone**: its buffers become an active package with the
throttle beyond its end. -/
theorem not_failedReadKeepsPackage :
    ¬ FailedReadKeepsPackage ∧ failedCall.Failed ∧
      readDataOf failedCall .zero = ⟨32639, 32639, 32639, 32639, true⟩ := by
  have hfailed : failedCall.Failed := Or.inl (by decide)
  refine ⟨fun h => ?_, hfailed, by decide⟩
  have hkept := h failedCall .zero hfailed
  revert hkept
  decide

end DroneFirmware
