/-
# Data object exchange: framing, and the response buffer

`val_host_doe.c` talks to a device through a mailbox.  A request is written word by word to ONE
register, two header words first; the second of them says how many words the object has, headers
included.  A response is read word by word from another, and a write to that register acknowledges
the word, so that the next read sees the next one.

The sender counts bytes and rounds up; the receiver counts words and takes the header off.  The two
agree: what was sent, presented by a device, is received (section 4).

The receiver's loop bound is what the DEVICE says.  The response buffer is one page, and nothing
compares the two; a length word below the size of the header wraps.  Section 5 says for which
length words the response stays in its buffer.

A device is what it answers to a read, given all that was read and written before.
-/
import Mathlib

namespace RmmAcs.Doe

/-! ## 1. Configuration accesses -/

/-- A configuration access, with the offset and the value that was read or written. -/
inductive CfgAccess where
  | read (offset value : UInt32)
  | write (offset value : UInt32)
deriving DecidableEq, Repr

/-- The accesses so far, oldest first. -/
abbrev Log := List CfgAccess

/-- What a read of an offset gives. -/
abbrev Device := Log → UInt32 → UInt32

/-- `val_pcie_read_cfg`, for a function that is mapped. -/
def valPcieReadCfg (dev : Device) (offset : UInt32) (log : Log) : UInt32 × Log :=
  (dev log offset, log ++ [.read offset (dev log offset)])

def valPcieWriteCfg (offset data : UInt32) (log : Log) : Log := log ++ [.write offset data]

/-- `VAL_EXTRACT_BITS`. -/
def valExtractBits (data : UInt32) (start stop : UInt64) : UInt64 :=
  (data.toUInt64 >>> start) &&& ((1 <<< (stop - start + 1)) - 1)

def DOE_CTRL_REG : UInt32 := 0x8
def DOE_STATUS_REG : UInt32 := 0xC
def DOE_WRITE_DATA_MAILBOX_REG : UInt32 := 0x10
def DOE_READ_DATA_MAILBOX_REG : UInt32 := 0x14

def busy (status : UInt32) : Prop := valExtractBits status 0 0 ≠ 0
def error (status : UInt32) : Prop := valExtractBits status 2 2 ≠ 0
def ready (status : UInt32) : Prop := valExtractBits status 31 31 ≠ 0

instance (s : UInt32) : Decidable (busy s) := inferInstanceAs (Decidable (_ ≠ _))
instance (s : UInt32) : Decidable (error s) := inferInstanceAs (Decidable (_ ≠ _))
instance (s : UInt32) : Decidable (ready s) := inferInstanceAs (Decidable (_ ≠ _))

def VAL_HOST_DOE_HEADER_1 : UInt32 := 0x10001
def VAL_HOST_DOE_HEADER_2 : UInt32 := 0x20001
def VAL_HOST_DOE_HEADER_LENGTH : UInt32 := 2

def VAL_SUCCESS : UInt32 := 0
def VAL_ERROR : UInt32 := 1

def PAGE_SIZE : ℕ := 4096

/-! ## 2. `val_host_doe.c` -/

/-- `doe_length`: the request in words, rounded up. -/
def doeLength (reqLen : UInt64) : UInt64 :=
  if reqLen % 4 ≠ 0 then (reqLen >>> 2) + 1 else reqLen >>> 2

/-- The first header word, by the protocol. -/
def doeHeader (reqType : UInt8) : UInt32 :=
  if reqType = 1 then VAL_HOST_DOE_HEADER_2 else VAL_HOST_DOE_HEADER_1

/-- The loop over the payload, with `n` rounds to go from index `i`. -/
def sendWords (base : UInt32) (req : ℕ → UInt32) : (n i : ℕ) → Log → Log
  | 0, _, log => log
  | n + 1, i, log =>
    sendWords base req n (i + 1) (valPcieWriteCfg (base + DOE_WRITE_DATA_MAILBOX_REG) (req i) log)

/-- `val_host_pcie_doe_send_req`: what it returns, and the accesses up to then. -/
def valHostPcieDoeSendReq (dev : Device) (base : UInt32) (req : ℕ → UInt32) (reqLen : UInt64)
    (reqType : UInt8) (log : Log) : UInt32 × Log :=
  let (value, log) := valPcieReadCfg dev (base + DOE_STATUS_REG) log
  if busy value then (VAL_ERROR, log) else
  let (value, log) := valPcieReadCfg dev (base + DOE_STATUS_REG) log
  if error value then (VAL_ERROR, log) else
  let log := valPcieWriteCfg (base + DOE_WRITE_DATA_MAILBOX_REG) (doeHeader reqType) log
  let log := valPcieWriteCfg (base + DOE_WRITE_DATA_MAILBOX_REG)
    ((doeLength reqLen).toUInt32 + VAL_HOST_DOE_HEADER_LENGTH) log
  let log := sendWords base req (doeLength reqLen).toNat 0 log
  -- the GO bit
  (VAL_SUCCESS, valPcieWriteCfg (base + DOE_CTRL_REG) ((1 : UInt32) <<< 31) log)

/-- A word read from the mailbox and acknowledged. -/
def recvWord (dev : Device) (base : UInt32) (log : Log) : UInt32 × Log :=
  let (value, log) := valPcieReadCfg dev (base + DOE_READ_DATA_MAILBOX_REG) log
  (value, valPcieWriteCfg (base + DOE_READ_DATA_MAILBOX_REG) 0 log)

/-- The loop over the response, with `n` rounds to go: the words stored at `resp_addr`, in order. -/
def recvWords (dev : Device) (base : UInt32) : ℕ → Log → List UInt32 × Log
  | 0, log => ([], log)
  | n + 1, log =>
    let (value, log) := recvWord dev base log
    let (words, log) := recvWords dev base n log
    (value :: words, log)

/-- What a call leaves behind: the status, `*resp_len`, the words stored from `resp_addr` on, and
the accesses. -/
structure Response where
  rc : UInt32
  respLen : UInt64
  words : List UInt32
  log : Log

/-- The second half of `val_host_pcie_doe_recv_resp`: the headers, the words, and the last look at
the status. -/
def recvObject (dev : Device) (base : UInt32) (log : Log) : Response :=
  let (_, log) := recvWord dev base log
  let (value, log) := recvWord dev base log
  let length := value - VAL_HOST_DOE_HEADER_LENGTH
  let respLen := length.toUInt64 * 4
  let (words, log) := recvWords dev base length.toNat log
  let (value, log) := valPcieReadCfg dev (base + DOE_STATUS_REG) log
  if ready value then ⟨VAL_ERROR, respLen, words, log⟩ else
  ⟨VAL_SUCCESS, respLen, words, log⟩

/-- `val_host_pcie_doe_recv_resp`, where `*resp_len` is `respLen` at the call. -/
def valHostPcieDoeRecvResp (dev : Device) (base : UInt32) (respLen : UInt64) (log : Log) :
    Response :=
  let (value, log) := valPcieReadCfg dev (base + DOE_STATUS_REG) log
  if ¬ ready value then ⟨VAL_ERROR, respLen, [], log⟩ else
  let (value, log) := valPcieReadCfg dev (base + DOE_STATUS_REG) log
  if error value then ⟨VAL_ERROR, respLen, [], log⟩ else
  recvObject dev base log

/-! ## 3. What a log holds -/

/-- The words written to the write mailbox, in order. -/
def written (base : UInt32) (log : Log) : List UInt32 :=
  log.filterMap fun
    | .write offset v => if offset = base + DOE_WRITE_DATA_MAILBOX_REG then some v else none
    | .read _ _ => none

/-- The accesses to the read mailbox, in order. -/
def mailbox (base : UInt32) (log : Log) : Log :=
  log.filter fun
    | .read offset _ => offset = base + DOE_READ_DATA_MAILBOX_REG
    | .write offset _ => offset = base + DOE_READ_DATA_MAILBOX_REG

/-- A word of the response, read and acknowledged once. -/
def acked (base w : UInt32) : Log :=
  [.read (base + DOE_READ_DATA_MAILBOX_REG) w, .write (base + DOE_READ_DATA_MAILBOX_REG) 0]

/-- How many words have been acknowledged. -/
def acks (base : UInt32) (log : Log) : ℕ :=
  log.countP fun
    | .write offset _ => offset = base + DOE_READ_DATA_MAILBOX_REG
    | .read _ _ => false

@[simp] theorem written_append (base : UInt32) (l l' : Log) :
    written base (l ++ l') = written base l ++ written base l' := List.filterMap_append

@[simp] theorem mailbox_append (base : UInt32) (l l' : Log) :
    mailbox base (l ++ l') = mailbox base l ++ mailbox base l' := List.filter_append ..

@[simp] theorem acks_append (base : UInt32) (l l' : Log) :
    acks base (l ++ l') = acks base l + acks base l' := List.countP_append

@[simp] theorem written_nil (base : UInt32) : written base [] = [] := rfl

@[simp] theorem written_read (base offset v : UInt32) (l : Log) :
    written base (.read offset v :: l) = written base l := rfl

@[simp] theorem written_word (base v : UInt32) (l : Log) :
    written base (.write (base + DOE_WRITE_DATA_MAILBOX_REG) v :: l) = v :: written base l := by
  simp [written]

@[simp] theorem written_ctrl (base v : UInt32) (l : Log) :
    written base (.write (base + DOE_CTRL_REG) v :: l) = written base l := by
  simp [written, DOE_CTRL_REG, DOE_WRITE_DATA_MAILBOX_REG]

@[simp] theorem mailbox_nil (base : UInt32) : mailbox base [] = [] := rfl

@[simp] theorem mailbox_status (base v : UInt32) (l : Log) :
    mailbox base (.read (base + DOE_STATUS_REG) v :: l) = mailbox base l := by
  simp [mailbox, DOE_STATUS_REG, DOE_READ_DATA_MAILBOX_REG]

@[simp] theorem mailbox_acked (base w : UInt32) : mailbox base (acked base w) = acked base w := by
  simp [mailbox, acked]

@[simp] theorem acks_nil (base : UInt32) : acks base [] = 0 := rfl

@[simp] theorem acks_read (base offset v : UInt32) (l : Log) :
    acks base (.read offset v :: l) = acks base l := by simp [acks]

@[simp] theorem acks_acked (base w : UInt32) : acks base (acked base w) = 1 := by
  simp [acks, acked]

theorem recvWord_eq (dev : Device) (base : UInt32) (log : Log) :
    recvWord dev base log = (dev log (base + DOE_READ_DATA_MAILBOX_REG),
      log ++ acked base (dev log (base + DOE_READ_DATA_MAILBOX_REG))) := by
  simp [recvWord, valPcieReadCfg, valPcieWriteCfg, acked]

/-! ## 4. The round trip -/

theorem doeLength_toNat (reqLen : UInt64) : (doeLength reqLen).toNat = (reqLen.toNat + 3) / 4 := by
  have hlt := reqLen.toNat_lt
  have hshift : (reqLen >>> 2).toNat = reqLen.toNat / 4 := by
    simp [UInt64.toNat_shiftRight, Nat.shiftRight_eq_div_pow]
  have hmod : reqLen % 4 = 0 ↔ reqLen.toNat % 4 = 0 := by
    rw [← UInt64.toNat_inj, UInt64.toNat_mod]
    rfl
  unfold doeLength
  split
  · rename_i h
    rw [Ne, hmod] at h
    rw [UInt64.toNat_add, hshift]
    have h1 : (1 : UInt64).toNat = 1 := rfl
    omega
  · rename_i h
    rw [Ne, hmod] at h
    omega

/-- An object as it goes through a mailbox: the protocol, the number of words with the two headers,
and the payload. -/
def frame (reqType : UInt8) (payload : List UInt32) : List UInt32 :=
  doeHeader reqType :: UInt32.ofNat (payload.length + 2) :: payload

/-- The payload of a request, in words. -/
def payload (req : ℕ → UInt32) (reqLen : UInt64) : List UInt32 :=
  (List.range ((reqLen.toNat + 3) / 4)).map req

@[simp] theorem payload_length (req : ℕ → UInt32) (reqLen : UInt64) :
    (payload req reqLen).length = (reqLen.toNat + 3) / 4 := by simp [payload]

theorem written_sendWords (base : UInt32) (req : ℕ → UInt32) (n i : ℕ) (log : Log) :
    written base (sendWords base req n i log) =
      written base log ++ (List.range' i n).map req := by
  induction n generalizing i log with
  | zero => simp [sendWords]
  | succ n ih => simp [sendWords, ih, valPcieWriteCfg, List.range'_succ]

theorem lengthWord_eq (reqLen : UInt64) :
    (doeLength reqLen).toUInt32 + VAL_HOST_DOE_HEADER_LENGTH =
      UInt32.ofNat ((reqLen.toNat + 3) / 4 + 2) := by
  rw [← UInt32.toNat_inj, UInt32.toNat_add, UInt64.toNat_toUInt32, doeLength_toNat]
  simp [VAL_HOST_DOE_HEADER_LENGTH]

/-- The device has a response ready, and no error. -/
def Answers (dev : Device) (base : UInt32) (log : Log) : Prop :=
  let s := dev log (base + DOE_STATUS_REG)
  ready s ∧ ¬ error (dev (log ++ [.read (base + DOE_STATUS_REG) s]) (base + DOE_STATUS_REG))

/-- The device takes a request: it is not busy, and has no error. -/
def Accepts (dev : Device) (base : UInt32) (log : Log) : Prop :=
  let s := dev log (base + DOE_STATUS_REG)
  ¬ busy s ∧ ¬ error (dev (log ++ [.read (base + DOE_STATUS_REG) s]) (base + DOE_STATUS_REG))

instance (dev : Device) (base : UInt32) (log : Log) : Decidable (Accepts dev base log) :=
  inferInstanceAs (Decidable (_ ∧ _))

/-- **The sender.**  A device that takes a request is given the frame of its payload. -/
theorem sendReq_accepted {dev : Device} {base : UInt32} {log : Log} (h : Accepts dev base log)
    (req : ℕ → UInt32) (reqLen : UInt64) (reqType : UInt8) :
    let r := valHostPcieDoeSendReq dev base req reqLen reqType log
    r.1 = VAL_SUCCESS ∧
      written base r.2 = written base log ++ frame reqType (payload req reqLen) := by
  obtain ⟨hb, he⟩ := h
  simp only [valHostPcieDoeSendReq, valPcieReadCfg, hb, he, if_false, true_and]
  simp [valPcieWriteCfg, written_sendWords, doeLength_toNat, lengthWord_eq, frame, payload,
    List.range_eq_range']

/-- A device that does not take it is given nothing. -/
theorem sendReq_refused {dev : Device} {base : UInt32} {log : Log} (h : ¬ Accepts dev base log)
    (req : ℕ → UInt32) (reqLen : UInt64) (reqType : UInt8) :
    let r := valHostPcieDoeSendReq dev base req reqLen reqType log
    r.1 = VAL_ERROR ∧ written base r.2 = written base log := by
  by_cases hb : busy (dev log (base + DOE_STATUS_REG))
  · simp [valHostPcieDoeSendReq, valPcieReadCfg, hb]
  · have he := not_not.mp fun he => h ⟨hb, he⟩
    simp [valHostPcieDoeSendReq, valPcieReadCfg, hb, he]

/-- **A device that presents words.**  From the accesses `log` on it has these words in its read
mailbox: a read sees the first that is not yet acknowledged, and it is ready as long as there is
one. -/
structure Presents (dev : Device) (base : UInt32) (ws : List UInt32) (log : Log) : Prop where
  word : ∀ ext (h : acks base ext < ws.length),
    dev (log ++ ext) (base + DOE_READ_DATA_MAILBOX_REG) = ws[acks base ext]
  ready_iff : ∀ ext, ready (dev (log ++ ext) (base + DOE_STATUS_REG)) ↔ acks base ext < ws.length
  no_error : ∀ ext, ¬ error (dev (log ++ ext) (base + DOE_STATUS_REG))

/-- A status read takes nothing from the mailbox. -/
theorem Presents.status {dev : Device} {base : UInt32} {ws : List UInt32} {log : Log}
    (h : Presents dev base ws log) (v : UInt32) :
    Presents dev base ws (log ++ [.read (base + DOE_STATUS_REG) v]) where
  word ext hext := by
    simpa using h.word (.read (base + DOE_STATUS_REG) v :: ext) (by simpa using hext)
  ready_iff ext := by simpa using h.ready_iff (.read (base + DOE_STATUS_REG) v :: ext)
  no_error ext := by simpa using h.no_error (.read (base + DOE_STATUS_REG) v :: ext)

/-- A word that was acknowledged is gone. -/
theorem Presents.acked {dev : Device} {base w : UInt32} {ws : List UInt32} {log : Log}
    (h : Presents dev base (w :: ws) log) (v : UInt32) :
    Presents dev base ws (log ++ Doe.acked base v) where
  word ext hext := by
    have hacks : acks base (Doe.acked base v ++ ext) = acks base ext + 1 := by simp; omega
    have hlt : acks base (Doe.acked base v ++ ext) < (w :: ws).length := by simp [hacks, hext]
    have := h.word (Doe.acked base v ++ ext) hlt
    simpa [hacks] using this
  ready_iff ext := by
    have hacks : acks base (Doe.acked base v ++ ext) = acks base ext + 1 := by simp; omega
    have := h.ready_iff (Doe.acked base v ++ ext)
    simpa [hacks] using this
  no_error ext := by simpa using h.no_error (Doe.acked base v ++ ext)

theorem Presents.head {dev : Device} {base w : UInt32} {ws : List UInt32} {log : Log}
    (h : Presents dev base (w :: ws) log) : dev log (base + DOE_READ_DATA_MAILBOX_REG) = w := by
  simpa using h.word [] (by simp)

theorem Presents.ready {dev : Device} {base : UInt32} {ws : List UInt32} {log : Log}
    (h : Presents dev base ws log) : Doe.ready (dev log (base + DOE_STATUS_REG)) ↔ ws ≠ [] := by
  simpa [List.length_pos_iff] using h.ready_iff []

/-- The loop takes the first words that are presented, and acknowledges each once. -/
theorem Presents.recvWords {dev : Device} {base : UInt32} {ws rest : List UInt32} {log : Log}
    (h : Presents dev base (ws ++ rest) log) :
    Doe.recvWords dev base ws.length log = (ws, log ++ ws.flatMap (Doe.acked base)) ∧
      Presents dev base rest (log ++ ws.flatMap (Doe.acked base)) := by
  induction ws generalizing log with
  | nil => simpa [Doe.recvWords] using h
  | cons w ws ih =>
    obtain ⟨hrun, hrest⟩ := ih (h.acked w)
    simp only [Doe.recvWords, recvWord_eq, h.head, List.length_cons]
    rw [hrun]
    simpa [List.append_assoc] using hrest

/-- The accesses when both status reads are over. -/
def polled (dev : Device) (base : UInt32) (log : Log) : Log :=
  let log := log ++ [.read (base + DOE_STATUS_REG) (dev log (base + DOE_STATUS_REG))]
  log ++ [.read (base + DOE_STATUS_REG) (dev log (base + DOE_STATUS_REG))]

theorem recvResp_of_answers {dev : Device} {base : UInt32} {log : Log} (h : Answers dev base log)
    (respLen : UInt64) :
    valHostPcieDoeRecvResp dev base respLen log = recvObject dev base (polled dev base log) := by
  obtain ⟨hr, he⟩ := h
  simp only [valHostPcieDoeRecvResp, valPcieReadCfg, hr, he, not_true, if_false, polled]

/-- **The receiver**, once the device answers: the rounds are what its length word says. -/
theorem recvObject_eq (dev : Device) (base : UInt32) (log : Log) {header len : UInt32}
    {words : List UInt32} {done : Log}
    (hheader : dev log (base + DOE_READ_DATA_MAILBOX_REG) = header)
    (hlen : dev (log ++ acked base header) (base + DOE_READ_DATA_MAILBOX_REG) = len)
    (hwords : recvWords dev base (len - VAL_HOST_DOE_HEADER_LENGTH).toNat
      (log ++ acked base header ++ acked base len) = (words, done)) :
    let status := dev done (base + DOE_STATUS_REG)
    recvObject dev base log =
      ⟨if ready status then VAL_ERROR else VAL_SUCCESS,
        (len - VAL_HOST_DOE_HEADER_LENGTH).toUInt64 * 4, words,
        done ++ [.read (base + DOE_STATUS_REG) status]⟩ := by
  subst hheader hlen
  simp only [recvObject, recvWord_eq, hwords, valPcieReadCfg]
  split <;> simp_all

theorem recvResp_refused {dev : Device} {base : UInt32} {log : Log} (h : ¬ Answers dev base log)
    (respLen : UInt64) :
    let r := valHostPcieDoeRecvResp dev base respLen log
    r.rc = VAL_ERROR ∧ r.respLen = respLen ∧ r.words = [] := by
  by_cases hr : ready (dev log (base + DOE_STATUS_REG))
  · have he := not_not.mp fun he => h ⟨hr, he⟩
    simp [valHostPcieDoeRecvResp, valPcieReadCfg, hr, he]
  · simp [valHostPcieDoeRecvResp, valPcieReadCfg, hr]

theorem Presents.answers {dev : Device} {base w : UInt32} {ws : List UInt32} {log : Log}
    (h : Presents dev base (w :: ws) log) : Answers dev base log :=
  ⟨h.ready.mpr (List.cons_ne_nil _ _), by simpa using (h.status _).no_error []⟩

theorem Presents.polled {dev : Device} {base : UInt32} {ws : List UInt32} {log : Log}
    (h : Presents dev base ws log) : Presents dev base ws (Doe.polled dev base log) :=
  (h.status _).status _

theorem length_of_frame {n : ℕ} (h : n + 2 < 2 ^ 32) :
    (UInt32.ofNat (n + 2) - VAL_HOST_DOE_HEADER_LENGTH).toNat = n := by
  have h2 : VAL_HOST_DOE_HEADER_LENGTH.toNat = 2 := rfl
  rw [UInt32.toNat_sub, UInt32.toNat_ofNat', h2]
  omega

theorem bytes_of_length (length : UInt32) : (length.toUInt64 * 4).toNat = 4 * length.toNat := by
  have hlt := length.toNat_lt
  have h4 : (4 : UInt64).toNat = 4 := rfl
  rw [UInt64.toNat_mul, UInt32.toNat_toUInt64, h4]
  omega

theorem mailbox_flatMap_acked (base : UInt32) (ws : List UInt32) :
    mailbox base (ws.flatMap (acked base)) = ws.flatMap (acked base) := by
  induction ws with
  | nil => rfl
  | cons w ws ih => simp [ih]

/-- **A frame that is presented is received**: its payload, and each word is acknowledged once. -/
theorem Presents.recvResp {dev : Device} {base : UInt32} {log : Log} {reqType : UInt8}
    {ws : List UInt32} (h : Presents dev base (frame reqType ws) log) (hlen : ws.length + 2 < 2 ^ 32)
    (respLen : UInt64) :
    let r := valHostPcieDoeRecvResp dev base respLen log
    r.rc = VAL_SUCCESS ∧ r.respLen.toNat = 4 * ws.length ∧ r.words = ws ∧
      mailbox base r.log = mailbox base log ++ (frame reqType ws).flatMap (Doe.acked base) := by
  have h1 := h.polled.acked (doeHeader reqType)
  have h2 := h1.acked (UInt32.ofNat (ws.length + 2))
  generalize hlog : Doe.polled dev base log ++ Doe.acked base (doeHeader reqType) ++
    Doe.acked base (UInt32.ofNat (ws.length + 2)) = taken at h2
  rw [← List.append_nil ws] at h2
  obtain ⟨hbody, hdone⟩ := h2.recvWords
  have hidle := hdone.ready.not.mpr (by simp)
  rw [← length_of_frame hlen, ← hlog] at hbody
  intro r
  have hr : r = _ :=
    (recvResp_of_answers h.answers respLen).trans (recvObject_eq _ _ _ h.polled.head h1.head hbody)
  rw [hr, hlog]
  refine ⟨if_neg hidle, ?_, rfl, ?_⟩
  · rw [bytes_of_length, length_of_frame hlen]
  · simp [← hlog, Doe.polled, mailbox_flatMap_acked, frame]

/-- **DOE framing round trip.**  A device that takes the request is given two header words and the
payload, and one that does not is given nothing; the second header word is the number of payload
words and two more.  A device that presents these words has them received, in order, and each of
them acknowledged once. -/
theorem doe_round_trip (dev : Device) (base : UInt32) (log : Log) (req : ℕ → UInt32)
    (reqLen : UInt64) (reqType : UInt8) (hlen : reqLen.toNat < 2 ^ 20) :
    let words := (List.range ((reqLen.toNat + 3) / 4)).map req
    let header := if reqType = 1 then (0x20001 : UInt32) else 0x10001
    let sent := valHostPcieDoeSendReq dev base req reqLen reqType log
    (sent.1 = VAL_SUCCESS ↔ Accepts dev base log) ∧
    (sent.1 ≠ VAL_SUCCESS → written base sent.2 = written base log) ∧
    ∃ length : UInt32, length.toNat = (reqLen.toNat + 3) / 4 + 2 ∧
      (sent.1 = VAL_SUCCESS →
        written base sent.2 = written base log ++ header :: length :: words) ∧
      ∀ dev' respLen log', Presents dev' base (header :: length :: words) log' →
        let r := valHostPcieDoeRecvResp dev' base respLen log'
        r.rc = VAL_SUCCESS ∧ r.respLen.toNat = 4 * ((reqLen.toNat + 3) / 4) ∧ r.words = words ∧
          mailbox base r.log =
            mailbox base log' ++ (header :: length :: words).flatMap (acked base) := by
  have hne : VAL_ERROR ≠ VAL_SUCCESS := by decide
  refine ⟨?_, ?_, UInt32.ofNat ((reqLen.toNat + 3) / 4 + 2), ?_, ?_, ?_⟩
  · by_cases h : Accepts dev base log
    · simp [sendReq_accepted h, h]
    · simp [sendReq_refused h, h, hne]
  · intro hrc
    by_cases h : Accepts dev base log
    · exact absurd (sendReq_accepted h req reqLen reqType).1 hrc
    · exact (sendReq_refused h req reqLen reqType).2
  · rw [UInt32.toNat_ofNat']
    omega
  · intro hrc
    by_cases h : Accepts dev base log
    · rw [(sendReq_accepted h req reqLen reqType).2, frame, payload_length]
      rfl
    · exact absurd ((sendReq_refused h req reqLen reqType).1.symm.trans hrc) hne
  · intro dev' respLen log' hpres
    have hframe : Presents dev' base (frame reqType (payload req reqLen)) log' := by
      rw [frame, payload_length]
      exact hpres
    have hfit : (payload req reqLen).length + 2 < 2 ^ 32 := by
      rw [payload_length]
      omega
    have hr := hframe.recvResp hfit respLen
    rw [payload_length] at hr
    rw [frame, payload_length] at hr
    exact hr

/-- A device with a mailbox that is a queue. -/
def fifo (base : UInt32) (ws : List UInt32) : Device := fun log offset =>
  if offset = base + DOE_READ_DATA_MAILBOX_REG then ws.getD (acks base log) 0
  else if offset = base + DOE_STATUS_REG ∧ acks base log < ws.length then 0x80000000
  else 0

theorem fifo_presents (base : UInt32) (ws : List UInt32) : Presents (fifo base ws) base ws [] where
  word ext hext := by simp [fifo, hext]
  ready_iff ext := by
    by_cases h : acks base ext < ws.length
    · simp [fifo, h, DOE_STATUS_REG, DOE_READ_DATA_MAILBOX_REG]
      decide
    · simp [fifo, h, DOE_STATUS_REG, DOE_READ_DATA_MAILBOX_REG]
      decide
  no_error ext := by
    by_cases h : acks base ext < ws.length
    · simp [fifo, h, DOE_STATUS_REG, DOE_READ_DATA_MAILBOX_REG]
      decide
    · simp [fifo, h, DOE_STATUS_REG, DOE_READ_DATA_MAILBOX_REG]
      decide

/-- A request of five bytes. -/
theorem doe_round_trip_five :
    (5 : UInt64).toNat < 2 ^ 20 ∧
    let sent := valHostPcieDoeSendReq (fifo 0x200 []) 0x200 (fun i => UInt32.ofNat (i + 7)) 5 1 []
    sent.1 = VAL_SUCCESS ∧ written 0x200 sent.2 = [0x20001, 4, 7, 8] ∧
      (valHostPcieDoeRecvResp (fifo 0x200 [0x20001, 4, 7, 8]) 0x200 0 []).words = [7, 8] := by
  have hlen : (5 : UInt64).toNat < 2 ^ 20 := by decide
  obtain ⟨hrc, -, length, hlength, hsent, hrecv⟩ :=
    doe_round_trip (fifo 0x200 []) 0x200 [] (fun i => UInt32.ofNat (i + 7)) 5 1 hlen
  have h4 : length = 4 := UInt32.toNat_inj.mp hlength
  subst h4
  have hok := hrc.mpr (by decide)
  exact ⟨hlen, hok, hsent hok, (hrecv _ 0 [] (fifo_presents _ _)).2.2.1⟩

/-! ## 5. The response buffer -/

/-- The length word the device presents, after the two status reads and the header word. -/
def lengthWord (dev : Device) (base : UInt32) (log : Log) : UInt32 :=
  let log := polled dev base log
  dev (log ++ acked base (dev log (base + DOE_READ_DATA_MAILBOX_REG)))
    (base + DOE_READ_DATA_MAILBOX_REG)

/-- A length word that leaves room for its two headers, and whose payload fits the page that
`da_init` allocates for a response. -/
def Honourable (length : UInt32) : Prop :=
  2 ≤ length.toNat ∧ 4 * (length.toNat - 2) ≤ PAGE_SIZE

/-- What is asked of a call: it stays in the buffer, it reports as many bytes as it wrote there,
and it does not succeed on a length word that it cannot honour. -/
def InBuffer (dev : Device) (base : UInt32) (log : Log) (r : Response) : Prop :=
  4 * r.words.length ≤ PAGE_SIZE ∧ r.respLen.toNat = 4 * r.words.length ∧
    (Answers dev base log → ¬ Honourable (lengthWord dev base log) → r.rc ≠ VAL_SUCCESS)

theorem recvWords_length (dev : Device) (base : UInt32) (n : ℕ) (log : Log) :
    (recvWords dev base n log).1.length = n := by
  induction n generalizing log with
  | zero => rfl
  | succ n ih => simp [recvWords, ih]

/-- The words a device that answers has stored are as many as its length word says, LESS TWO and
modulo `2 ^ 32`, and `*resp_len` is that in bytes. -/
theorem recvResp_words {dev : Device} {base : UInt32} {log : Log} (h : Answers dev base log)
    (respLen : UInt64) :
    let r := valHostPcieDoeRecvResp dev base respLen log
    let length := lengthWord dev base log - VAL_HOST_DOE_HEADER_LENGTH
    r.words.length = length.toNat ∧ r.respLen.toNat = 4 * length.toNat := by
  intro r length
  have hr : r = _ := (recvResp_of_answers h respLen).trans (recvObject_eq _ _ _ rfl rfl rfl)
  rw [hr]
  exact ⟨recvWords_length _ _ _ _, bytes_of_length _⟩

/-- A length word can be honoured exactly if the rounds it makes stay in the page. -/
theorem honourable_iff (length : UInt32) :
    Honourable length ↔ 4 * (length - VAL_HOST_DOE_HEADER_LENGTH).toNat ≤ PAGE_SIZE := by
  have hlt := length.toNat_lt
  have h2 : VAL_HOST_DOE_HEADER_LENGTH.toNat = 2 := rfl
  rw [Honourable, PAGE_SIZE, UInt32.toNat_sub, h2]
  omega

/-- **When a response stays in its buffer.**  A call, with `*resp_len` zero as its caller has it,
stays in the response buffer and reports what it wrote there exactly if the length word presented
by a device that answers can be honoured: nothing is rejected for its length. -/
theorem recvResp_inBuffer_iff (dev : Device) (base : UInt32) (log : Log) :
    InBuffer dev base log (valHostPcieDoeRecvResp dev base 0 log) ↔
      (Answers dev base log → Honourable (lengthWord dev base log)) := by
  by_cases h : Answers dev base log
  · obtain ⟨hwords, hbytes⟩ := recvResp_words h 0
    rw [InBuffer, hwords, hbytes]
    constructor
    · exact fun hin _ => (honourable_iff _).mpr hin.1
    · exact fun hok => ⟨(honourable_iff _).mp (hok h), rfl, fun _ hbad => absurd (hok h) hbad⟩
  · obtain ⟨-, hbytes, hwords⟩ := recvResp_refused h 0
    rw [InBuffer, hwords, hbytes]
    exact ⟨fun _ h' => absurd h' h, fun _ => ⟨by decide, rfl, fun h' => absurd h' h⟩⟩

/-- A device with one word more than the page holds: the call SUCCEEDS, with `4100` bytes. -/
theorem recvResp_overruns :
    ¬ InBuffer (fifo 0x200 (frame 0 (List.replicate 1025 0))) 0x200 []
        (valHostPcieDoeRecvResp (fifo 0x200 (frame 0 (List.replicate 1025 0))) 0x200 0 []) ∧
      (valHostPcieDoeRecvResp (fifo 0x200 (frame 0 (List.replicate 1025 0))) 0x200 0 []).rc =
        VAL_SUCCESS := by
  have h := (fifo_presents 0x200 (frame 0 (List.replicate 1025 0))).recvResp
    (by rw [List.length_replicate]; decide) 0
  refine ⟨fun hin => ?_, h.1⟩
  have hpage := hin.1
  rw [h.2.2.1, List.length_replicate, PAGE_SIZE] at hpage
  omega

end RmmAcs.Doe
