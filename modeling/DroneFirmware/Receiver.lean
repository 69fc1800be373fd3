import Mathlib

/-!
# The radio receiver: `drone_receiver.c`

`read_data` reads the STATUS register of the nRF24 over SPI and, when RX_DR is
set, reads one 9-byte payload and copies it over the global `data`.  It returns
`data` in either case, so the last payload stays in force until another one
replaces it.

What the SPI transactions leave in their receive buffers is the environment's
choice: `NrfReply` holds the bytes.  The code never looks at the return code of
`spi_transceive`, so a failed transfer is a reply like any other.
-/

namespace DroneFirmware

/-- `struct DataPackage`: four `int16_t` channels and the flag, packed into nine bytes. -/
structure DataPackage where
  xRight : Int16
  yRight : Int16
  xLeft : Int16
  yLeft : Int16
  droneActive : Bool
  deriving DecidableEq

/-- The static value of `data` and of `wifi_rc`: all bytes zero. -/
def DataPackage.zero : DataPackage := ⟨0, 0, 0, 0, false⟩

/-! ## The packed layout -/

/-- Two bytes of a little-endian `int16_t`, the low one first. -/
def int16OfBytes (lo hi : UInt8) : Int16 :=
  Int16.ofBitVec (hi.toBitVec ++ lo.toBitVec)

/-- The low byte of an `int16_t`. -/
def int16Lo (x : Int16) : UInt8 := UInt8.ofBitVec (x.toBitVec.extractLsb' 0 8)

/-- The high byte of an `int16_t`. -/
def int16Hi (x : Int16) : UInt8 := UInt8.ofBitVec (x.toBitVec.extractLsb' 8 8)

theorem int16OfBytes_lo_hi (x : Int16) : int16OfBytes (int16Lo x) (int16Hi x) = x := by
  apply Int16.toBitVec_inj.mp
  show x.toBitVec.extractLsb' 8 8 ++ x.toBitVec.extractLsb' 0 8 = x.toBitVec
  rw [BitVec.extractLsb'_append_extractLsb'_eq_extractLsb' (by rfl)]
  exact BitVec.extractLsb'_eq_self

/-- `memcpy(&data, &rx[1], sizeof(data))`: the payload that follows the status byte. -/
def DataPackage.ofRx (rx : Fin 10 → UInt8) : DataPackage where
  xRight := int16OfBytes (rx 1) (rx 2)
  yRight := int16OfBytes (rx 3) (rx 4)
  xLeft := int16OfBytes (rx 5) (rx 6)
  yLeft := int16OfBytes (rx 7) (rx 8)
  droneActive := rx 9 != 0

/-- The receive buffer a transmitter's package arrives in: a status byte, then the struct. -/
def DataPackage.toRx (status : UInt8) (p : DataPackage) : Fin 10 → UInt8 :=
  ![status, int16Lo p.xRight, int16Hi p.xRight, int16Lo p.yRight, int16Hi p.yRight,
    int16Lo p.xLeft, int16Hi p.xLeft, int16Lo p.yLeft, int16Hi p.yLeft,
    if p.droneActive then 1 else 0]

/-- **The layout loses nothing.**  A package sent byte for byte is the package stored. -/
@[simp] theorem DataPackage.ofRx_toRx (status : UInt8) (p : DataPackage) :
    ofRx (p.toRx status) = p := by
  obtain ⟨xr, yr, xl, yl, active⟩ := p
  have hx := int16OfBytes_lo_hi xr
  have hy := int16OfBytes_lo_hi yr
  have hl := int16OfBytes_lo_hi xl
  have ht := int16OfBytes_lo_hi yl
  cases active <;> simp [ofRx, toRx, hx, hy, hl, ht]

/-- The nine bytes of a package. -/
def DataPackage.bytes (p : DataPackage) : Fin 9 → UInt8 := fun i => p.toRx 0 i.succ

/-- The package of nine bytes. -/
def DataPackage.ofBytes (b : Fin 9 → UInt8) : DataPackage := .ofRx (Fin.cons 0 b)

@[simp] theorem DataPackage.ofBytes_bytes (p : DataPackage) : ofBytes p.bytes = p := by
  have hcons : (Fin.cons 0 p.bytes : Fin 10 → UInt8) = p.toRx 0 := by
    ext i
    refine Fin.cases rfl (fun i => ?_) i
    rw [Fin.cons_succ, bytes]
  rw [ofBytes, hcons, ofRx_toRx]

/-! ## `read_data` -/

/-- What the SPI transactions of one `read_data` call leave in their receive buffers.
`arrivedMs` is the uptime at which the payload had reached the radio; the firmware
never sees it. -/
structure NrfReply where
  /-- `rx` of the STATUS read: the register is in `rx[1]`. -/
  status : Fin 2 → UInt8
  /-- `rx` of `R_RX_PAYLOAD`: the status byte and the nine payload bytes. -/
  payload : Fin 10 → UInt8
  arrivedMs : ℤ

/-- `nrf_read_reg`: the second byte of the transaction. -/
def nrfReadReg (rx : Fin 2 → UInt8) : UInt8 := rx 1

/-- RX_DR in the STATUS register: the mask `0x40`. -/
def NrfReply.rxDr (r : NrfReply) : Bool := nrfReadReg r.status &&& 0x40 != 0

/-- The package of a reply, as `read_data` stores it. -/
def NrfReply.package (r : NrfReply) : DataPackage := .ofRx r.payload

/-- `read_data`: the new value of the global `data`, which is also what is returned. -/
def readData (r : NrfReply) (data : DataPackage) : DataPackage :=
  if r.rxDr then r.package else data

/-- A reply without RX_DR, as the radio gives when nothing has arrived. -/
def NrfReply.silent : NrfReply := ⟨fun _ => 0x0E, fun _ => 0xFF, 0⟩

/-- The reply of a radio that holds the package `p`, arrived at `t`. -/
def NrfReply.received (t : ℤ) (p : DataPackage) : NrfReply :=
  ⟨fun _ => 0x40, p.toRx 0x40, t⟩

@[simp] theorem readData_silent (data : DataPackage) : readData .silent data = data := rfl

@[simp] theorem readData_received (t : ℤ) (p data : DataPackage) :
    readData (.received t p) data = p := by
  have hdr : (NrfReply.received t p).rxDr = true := by
    show ((0x40 : UInt8) &&& 0x40 != 0) = true
    decide
  rw [readData, if_pos hdr]
  exact DataPackage.ofRx_toRx 0x40 p

end DroneFirmware
