/-
# Cached device objects: `val_host_da.c`

While the RMM talks to a device the host keeps copies of what passes by: the certificate chain and
the VCA of a physical device, the measurements and the interface report of a virtual one.  On every
exit the RMM names an object, a slice of the request buffer and a slice of the response buffer, and
the host appends the two slices to the object.

Offsets and lengths are 64-bit values of the RMM's.  Each slice is checked against the granule its
buffer is in, and the object against its maximal length, both times by ADDING first and comparing
afterwards; and of the two slices the first is appended before the second is checked.  So a slice
whose end wraps around is accepted, and a call that fails can leave half of what it was asked for.
`cache_bounds_iff` and `cache_failure_keeps_iff` say exactly when.
-/
import Mathlib

namespace RmmAcs.Dev

/-! ## 1. Objects -/

def granuleSize : UInt64 := 0x1000

def valHostPdevCertLenMax : UInt64 := 64 * 1024
def valHostPdevVcaLenMax : UInt64 := 4 * 1024
def valHostVdevMeasLenMax : UInt64 := 4 * 1024
def valHostVdevIfcReportLenMax : UInt64 := 8 * 1024

def rmiDevVca : UInt8 := 0
def rmiDevCertificate : UInt8 := 1
def rmiDevMeasurements : UInt8 := 2
def rmiDevInterfaceReport : UInt8 := 3

def valError : UInt64 := 1

/-- A buffer and how much of it is filled. -/
structure CachedObject where
  data : ℕ → UInt8
  len : UInt64

/-- The filled part. -/
def CachedObject.contents (o : CachedObject) : List UInt8 := (List.range o.len.toNat).map o.data

/-- `val_memcpy(data + len, buf, n); len += n`. -/
def CachedObject.append (o : CachedObject) (buf : ℕ → UInt8) (n : UInt64) : CachedObject where
  data j := if o.len.toNat ≤ j ∧ j < o.len.toNat + n.toNat then buf (j - o.len.toNat) else o.data j
  len := o.len + n

/-- The four objects of a device: `cert_chain` and `vca` are fields of `val_host_pdev_ts`, `meas` and
`ifc_report` of `val_host_vdev_ts`. -/
structure DevCache where
  certChain : CachedObject
  vca : CachedObject
  meas : CachedObject
  ifcReport : CachedObject

/-- A page the RMM or the device has written, from its first byte on. -/
abbrev Buffer := UInt64 → UInt8

/-- `buf + offset`. -/
def Buffer.slice (buf : Buffer) (offset : UInt64) : ℕ → UInt8 :=
  fun i => buf (offset + UInt64.ofNat i)

/-- `vdev_obj ? ... : ...`: whose objects a call is about. -/
inductive Owner where
  | pdev
  | vdev
deriving DecidableEq, Repr

/-- `val_host_pdev_cache_device_object`. -/
def valHostPdevCacheDeviceObject (o : DevCache) (devObjId : UInt8) (buf : ℕ → UInt8)
    (len : UInt64) : UInt64 × DevCache :=
  if devObjId = rmiDevCertificate then
    if o.certChain.len + len > valHostPdevCertLenMax then (valError, o)
    else (0, { o with certChain := o.certChain.append buf len })
  else if devObjId = rmiDevVca then
    if o.vca.len + len > valHostPdevVcaLenMax then (valError, o)
    else (0, { o with vca := o.vca.append buf len })
  else (valError, o)

/-- `val_host_vdev_cache_device_object`. -/
def valHostVdevCacheDeviceObject (o : DevCache) (devObjId : UInt8) (buf : ℕ → UInt8)
    (len : UInt64) : UInt64 × DevCache :=
  if devObjId = rmiDevMeasurements then
    if o.meas.len + len > valHostVdevMeasLenMax then (valError, o)
    else (0, { o with meas := o.meas.append buf len })
  else if devObjId = rmiDevInterfaceReport then
    if o.ifcReport.len + len > valHostVdevIfcReportLenMax then (valError, o)
    else (0, { o with ifcReport := o.ifcReport.append buf len })
  else (valError, o)

/-- `val_host_dev_cache_dev_object`. -/
def valHostDevCacheDevObject (w : Owner) (o : DevCache) (buf : Buffer) (cacheObjId : UInt8)
    (cacheOffset cacheLen : UInt64) : UInt64 × DevCache :=
  if cacheLen ≠ 0 ∧ cacheOffset + cacheLen > granuleSize then (valError, o)
  else
    match w with
    | .vdev => valHostVdevCacheDeviceObject o cacheObjId (buf.slice cacheOffset) cacheLen
    | .pdev => valHostPdevCacheDeviceObject o cacheObjId (buf.slice cacheOffset) cacheLen

/-- The fields of `val_host_dev_comm_exit_ts` the host reads. -/
structure DevCommExit where
  flags : UInt64
  reqCacheOffset : UInt64
  reqCacheLen : UInt64
  rspCacheOffset : UInt64
  rspCacheLen : UInt64
  cacheObjId : UInt8
  protocol : UInt8
  reqLen : UInt64
deriving DecidableEq, Repr

/-- `val_host_dev_cache_dev_req_resp`.  The flags are not looked at. -/
def valHostDevCacheDevReqResp (w : Owner) (o : DevCache) (req rsp : Buffer) (x : DevCommExit) :
    UInt64 × DevCache :=
  if x.reqCacheLen = 0 ∧ x.rspCacheLen = 0 then (valError, o)
  else
    let (rc, o) := valHostDevCacheDevObject w o req x.cacheObjId x.reqCacheOffset x.reqCacheLen
    if rc ≠ 0 then (valError, o)
    else valHostDevCacheDevObject w o rsp x.cacheObjId x.rspCacheOffset x.rspCacheLen

/-! ## 2. One slice -/

/-- The kinds of objects. -/
inductive Kind where
  | vca
  | certificate
  | measurements
  | interfaceReport
deriving DecidableEq, Repr

/-- The maximal length of a kind. -/
def Kind.max : Kind → UInt64
  | .vca => valHostPdevVcaLenMax
  | .certificate => valHostPdevCertLenMax
  | .measurements => valHostVdevMeasLenMax
  | .interfaceReport => valHostVdevIfcReportLenMax

theorem Kind.max_le (k : Kind) : k.max.toNat ≤ 64 * 1024 := by
  cases k <;> decide

/-- Which of its objects an identifier names to an owner. -/
def Owner.object (w : Owner) (id : UInt8) : Option Kind :=
  match w with
  | .pdev => if id = rmiDevCertificate then some .certificate
    else if id = rmiDevVca then some .vca else none
  | .vdev => if id = rmiDevMeasurements then some .measurements
    else if id = rmiDevInterfaceReport then some .interfaceReport else none

def DevCache.get (o : DevCache) : Kind → CachedObject
  | .vca => o.vca
  | .certificate => o.certChain
  | .measurements => o.meas
  | .interfaceReport => o.ifcReport

def DevCache.set (o : DevCache) (v : CachedObject) : Kind → DevCache
  | .vca => { o with vca := v }
  | .certificate => { o with certChain := v }
  | .measurements => { o with meas := v }
  | .interfaceReport => { o with ifcReport := v }

theorem DevCache.get_set (o : DevCache) (v : CachedObject) (k j : Kind) :
    (o.set v k).get j = if j = k then v else o.get j := by
  cases k <;> cases j <;> rfl

/-- How much of each object is filled. -/
def DevCache.lens (o : DevCache) : Kind → UInt64 := fun k => (o.get k).len

/-- **The checks of one slice**, as the code makes them: the sums are modulo `2 ^ 64`. -/
def Passes (w : Owner) (lens : Kind → UInt64) (id : UInt8) (offset len : UInt64) : Prop :=
  (len = 0 ∨ offset + len ≤ granuleSize) ∧ ∃ k ∈ w.object id, lens k + len ≤ k.max

section Slice

variable {w : Owner} {o : DevCache} {buf : Buffer} {id : UInt8} {offset len : UInt64}

/-- The branches of the two owners, read off one table. -/
theorem cacheDevObject_eq (w : Owner) (o : DevCache) (buf : Buffer) (id : UInt8)
    (offset len : UInt64) : valHostDevCacheDevObject w o buf id offset len =
      if len ≠ 0 ∧ offset + len > granuleSize then (valError, o)
      else match w.object id with
        | none => (valError, o)
        | some k => if o.lens k + len > k.max then (valError, o)
          else (0, o.set ((o.get k).append (buf.slice offset) len) k) := by
  unfold valHostDevCacheDevObject
  congr 1
  cases w with
  | pdev =>
    unfold valHostPdevCacheDeviceObject Owner.object
    by_cases hcert : id = rmiDevCertificate
    · simp only [if_pos hcert]
      rfl
    by_cases hvca : id = rmiDevVca
    · simp only [if_neg hcert, if_pos hvca]
      rfl
    · simp only [if_neg hcert, if_neg hvca]
  | vdev =>
    unfold valHostVdevCacheDeviceObject Owner.object
    by_cases hmeas : id = rmiDevMeasurements
    · simp only [if_pos hmeas]
      rfl
    by_cases hifc : id = rmiDevInterfaceReport
    · simp only [if_neg hmeas, if_pos hifc]
      rfl
    · simp only [if_neg hmeas, if_neg hifc]

/-- A slice that passes is appended to its object. -/
theorem cacheDevObject_of_passes (buf : Buffer) (h : Passes w o.lens id offset len) :
    ∃ k, w.object id = some k ∧ o.lens k + len ≤ k.max ∧
      valHostDevCacheDevObject w o buf id offset len
        = (0, o.set ((o.get k).append (buf.slice offset) len) k) := by
  obtain ⟨hin, k, hk, hfits⟩ := h
  have hgranule : ¬ (len ≠ 0 ∧ offset + len > granuleSize) := by
    rintro ⟨hne, hgt⟩
    exact UInt64.not_lt.mpr (hin.resolve_left hne) hgt
  have hobj : w.object id = some k := hk
  refine ⟨k, hobj, hfits, ?_⟩
  rw [cacheDevObject_eq, if_neg hgranule, hobj]
  dsimp only
  rw [if_neg (UInt64.not_lt.mpr hfits)]

/-- One that does not is refused, and changes nothing. -/
theorem cacheDevObject_of_not_passes (buf : Buffer) (h : ¬ Passes w o.lens id offset len) :
    valHostDevCacheDevObject w o buf id offset len = (valError, o) := by
  rw [cacheDevObject_eq]
  by_cases hgranule : len ≠ 0 ∧ offset + len > granuleSize
  · rw [if_pos hgranule]
  rw [if_neg hgranule]
  cases hobj : w.object id with
  | none => rfl
  | some k =>
    refine if_pos (UInt64.not_le.mp fun hfits => h ⟨?_, k, hobj, hfits⟩)
    by_cases hlen : len = 0
    · exact Or.inl hlen
    · exact Or.inr (UInt64.not_lt.mp fun hgt => hgranule ⟨hlen, hgt⟩)

theorem cacheDevObject_ok_iff (buf : Buffer) :
    (valHostDevCacheDevObject w o buf id offset len).1 = 0 ↔ Passes w o.lens id offset len := by
  constructor
  · intro hok
    by_contra h
    rw [cacheDevObject_of_not_passes buf h] at hok
    nomatch hok
  · intro h
    obtain ⟨k, -, -, heq⟩ := cacheDevObject_of_passes buf h
    rw [heq]

/-- How long the objects are after a slice that passes. -/
theorem lens_of_passes (buf : Buffer) (h : Passes w o.lens id offset len) (j : Kind) :
    (valHostDevCacheDevObject w o buf id offset len).2.lens j
      = if w.object id = some j then o.lens j + len else o.lens j := by
  obtain ⟨k, hk, -, heq⟩ := cacheDevObject_of_passes buf h
  rw [heq, hk]
  unfold DevCache.lens
  rw [DevCache.get_set]
  by_cases hjk : j = k
  · rw [if_pos hjk, if_pos (by rw [hjk]), hjk]
    rfl
  · rw [if_neg hjk, if_neg fun he => hjk (Option.some.inj he).symm]

end Slice

/-! ## 3. Bounds -/

/-- Every object is within the maximum of its kind. -/
def DevCache.WithinMax (o : DevCache) : Prop := ∀ k, o.lens k ≤ k.max

/-- **The bounds of an accepted slice**, as integers: it lies in the granule, and the object with it
is not longer than its maximum. -/
def AcceptsOnlyInside (w : Owner) (o : DevCache) (buf : Buffer) (id : UInt8) (offset len : UInt64) :
    Prop :=
  (valHostDevCacheDevObject w o buf id offset len).1 = 0 →
    Set.Ico offset.toNat (offset.toNat + len.toNat) ⊆ Set.Ico 0 granuleSize.toNat ∧
      ∀ k ∈ w.object id, (o.lens k).toNat + len.toNat ≤ k.max.toNat

/-- A request to `val_host_dev_cache_dev_object`. -/
structure CacheRequest where
  owner : Owner
  buf : Buffer
  id : UInt8
  offset : UInt64
  len : UInt64

/-- The objects after a sequence of requests. -/
def cacheRun (o : DevCache) (rs : List CacheRequest) : DevCache :=
  rs.foldl (fun o r => (valHostDevCacheDevObject r.owner o r.buf r.id r.offset r.len).2) o

/-- One request keeps the objects within their maxima, wrapped sums or not: it is the wrapped sum
that is stored. -/
theorem DevCache.WithinMax.step {o : DevCache} (h : o.WithinMax) (w : Owner) (buf : Buffer)
    (id : UInt8) (offset len : UInt64) :
    (valHostDevCacheDevObject w o buf id offset len).2.WithinMax := by
  by_cases hpass : Passes w o.lens id offset len
  · intro j
    rw [lens_of_passes buf hpass]
    split
    · rename_i hj
      obtain ⟨-, k, hk, hfits⟩ := hpass
      obtain rfl : j = k := Option.some.inj (hj.symm.trans hk)
      exact hfits
    · exact h j
  · rw [cacheDevObject_of_not_passes buf hpass]
    exact h

theorem DevCache.WithinMax.run {o : DevCache} (h : o.WithinMax) (rs : List CacheRequest) :
    (cacheRun o rs).WithinMax := by
  induction rs generalizing o with
  | nil => exact h
  | cons r rs ih => exact ih (h.step r.owner r.buf r.id r.offset r.len)

/-- A slice that does not wrap around is inside. -/
theorem inside_iff {offset len : UInt64} (h : len = 0 ∨ offset + len ≤ granuleSize) :
    Set.Ico offset.toNat (offset.toNat + len.toNat) ⊆ Set.Ico 0 granuleSize.toNat ↔
      offset.toNat + len.toNat < 2 ^ 64 := by
  have hoff := offset.toNat_lt
  have hlen := len.toNat_lt
  have hsize : granuleSize.toNat = 0x1000 := rfl
  rw [hsize]
  constructor
  · intro hsub
    by_contra hge
    have hlast : offset.toNat + len.toNat - 1 ∈ Set.Ico 0 0x1000 := hsub ⟨by omega, by omega⟩
    have hlt := hlast.2
    omega
  · intro hlt i hi
    refine ⟨Nat.zero_le i, ?_⟩
    rcases h with rfl | hle
    · have hzero : (0 : UInt64).toNat = 0 := rfl
      obtain ⟨h1, h2⟩ := hi
      omega
    · have hle' := UInt64.le_iff_toNat_le.mp hle
      rw [UInt64.toNat_add, Nat.mod_eq_of_lt hlt, hsize] at hle'
      exact Nat.lt_of_lt_of_le hi.2 hle'

/-- **Cache bounds.**  With every object within its maximum, a request is accepted only inside the
granule and the object, as integers, if and only if one that passes the checks does not wrap around:
`offset + len < 2 ^ 64`.  And whatever the requests are, no object ever gets longer than its maximum. -/
theorem cache_bounds_iff (w : Owner) {o : DevCache} (ho : o.WithinMax) (buf : Buffer) (id : UInt8)
    (offset len : UInt64) (rs : List CacheRequest) :
    (AcceptsOnlyInside w o buf id offset len ↔
      (Passes w o.lens id offset len → offset.toNat + len.toNat < 2 ^ 64)) ∧
    (cacheRun o rs).WithinMax := by
  refine ⟨?_, ho.run rs⟩
  unfold AcceptsOnlyInside
  rw [cacheDevObject_ok_iff]
  refine forall_congr' fun hpass => ?_
  rw [inside_iff hpass.1]
  refine and_iff_left_of_imp fun hlt k hk => ?_
  obtain ⟨hin, j, hj, hfits⟩ := hpass
  obtain rfl : k = j := Option.some.inj (hk.symm.trans hj)
  have hlen := k.max_le
  have hold := UInt64.le_iff_toNat_le.mp (ho k)
  have hsize : granuleSize.toNat = 0x1000 := rfl
  have hsmall : len.toNat ≤ 0x1000 := by
    rcases hin with rfl | hin
    · exact Nat.zero_le _
    · have hin' := UInt64.le_iff_toNat_le.mp hin
      rw [UInt64.toNat_add, Nat.mod_eq_of_lt hlt, hsize] at hin'
      omega
  have hfits' := UInt64.le_iff_toNat_le.mp hfits
  rw [UInt64.toNat_add, Nat.mod_eq_of_lt (by omega)] at hfits'
  exact hfits'

/-- Nothing cached. -/
def DevCache.empty : DevCache := ⟨⟨fun _ => 0, 0⟩, ⟨fun _ => 0, 0⟩, ⟨fun _ => 0, 0⟩, ⟨fun _ => 0, 0⟩⟩

theorem DevCache.empty_withinMax : DevCache.empty.WithinMax := by
  intro k
  cases k <;> decide

/-- The last four bytes of the granule are inside, and stay accepted. -/
theorem cache_bounds_iff_end :
    AcceptsOnlyInside .pdev .empty (fun _ => 0) rmiDevCertificate 0xffc 4 ∧
      (valHostDevCacheDevObject .pdev .empty (fun _ => 0) rmiDevCertificate 0xffc 4).1 = 0 :=
  ⟨((cache_bounds_iff .pdev DevCache.empty_withinMax (fun _ => 0) rmiDevCertificate 0xffc 4 []).1).mpr
    fun _ => by decide, by decide⟩

/-- **A slice outside the granule is accepted**: four bytes, the first of which is the one BEFORE the
buffer. -/
theorem cache_bounds_wrap :
    ¬ AcceptsOnlyInside .pdev .empty (fun _ => 0) rmiDevCertificate 0xffffffffffffffff 4 := by
  intro h
  have hfirst : 0xffffffffffffffff ∈ Set.Ico 0 granuleSize.toNat :=
    (h (by decide)).1 ⟨by decide, by decide⟩
  exact absurd hfirst.2 (by decide)

/-! ## 4. Two slices -/

/-- **A failure keeps the objects**: both what is in them and how much. -/
def FailureKeeps (w : Owner) (o : DevCache) (req rsp : Buffer) (x : DevCommExit) : Prop :=
  (valHostDevCacheDevReqResp w o req rsp x).1 ≠ 0 →
    ∀ k, ((valHostDevCacheDevReqResp w o req rsp x).2.get k).len = (o.get k).len ∧
      ((valHostDevCacheDevReqResp w o req rsp x).2.get k).contents = (o.get k).contents

/-- The lengths the second slice finds. -/
def lensAfter (w : Owner) (lens : Kind → UInt64) (id : UInt8) (len : UInt64) : Kind → UInt64 :=
  fun k => if w.object id = some k then lens k + len else lens k

/-- **The half-done call**: there is something in the request buffer to cache and it passes, and the
slice of the response buffer does not pass after it. -/
structure HalfDone (w : Owner) (o : DevCache) (x : DevCommExit) : Prop where
  something : x.reqCacheLen ≠ 0
  request : Passes w o.lens x.cacheObjId x.reqCacheOffset x.reqCacheLen
  response : ¬ Passes w (lensAfter w o.lens x.cacheObjId x.reqCacheLen) x.cacheObjId
    x.rspCacheOffset x.rspCacheLen

section TwoSlices

variable {w : Owner} {o : DevCache} {req rsp : Buffer} {x : DevCommExit}

/-- The lengths after the first slice are what the second one is checked against. -/
theorem passes_after_iff
    (h : Passes w o.lens x.cacheObjId x.reqCacheOffset x.reqCacheLen) (req : Buffer) :
    Passes w (valHostDevCacheDevObject w o req x.cacheObjId x.reqCacheOffset x.reqCacheLen).2.lens
        x.cacheObjId x.rspCacheOffset x.rspCacheLen ↔
      Passes w (lensAfter w o.lens x.cacheObjId x.reqCacheLen) x.cacheObjId x.rspCacheOffset
        x.rspCacheLen := by
  rw [funext fun j => lens_of_passes req h j]
  rfl

/-- An empty slice changes nothing. -/
theorem append_zero_same (o : CachedObject) (buf : ℕ → UInt8) :
    (o.append buf 0).len = o.len ∧ (o.append buf 0).contents = o.contents := by
  have hlen : (o.append buf 0).len = o.len := UInt64.add_zero o.len
  refine ⟨hlen, ?_⟩
  unfold CachedObject.contents
  rw [hlen]
  refine List.map_congr_left fun i hi => ?_
  have hzero : (0 : UInt64).toNat = 0 := rfl
  exact if_neg fun hc => by omega

/-- How the call goes: it is refused at once, or the first slice is appended and the second one
decides. -/
theorem cacheDevReqResp_eq (hsome : ¬ (x.reqCacheLen = 0 ∧ x.rspCacheLen = 0))
    (h : Passes w o.lens x.cacheObjId x.reqCacheOffset x.reqCacheLen) :
    valHostDevCacheDevReqResp w o req rsp x = valHostDevCacheDevObject w
      (valHostDevCacheDevObject w o req x.cacheObjId x.reqCacheOffset x.reqCacheLen).2 rsp
      x.cacheObjId x.rspCacheOffset x.rspCacheLen := by
  have hok := (cacheDevObject_ok_iff req).mpr h
  unfold valHostDevCacheDevReqResp
  rw [if_neg hsome]
  dsimp only
  rw [if_neg (not_not.mpr hok)]

theorem cacheDevReqResp_refused (h : (x.reqCacheLen = 0 ∧ x.rspCacheLen = 0) ∨
      ¬ Passes w o.lens x.cacheObjId x.reqCacheOffset x.reqCacheLen) :
    valHostDevCacheDevReqResp w o req rsp x = (valError, o) := by
  unfold valHostDevCacheDevReqResp
  by_cases hnone : x.reqCacheLen = 0 ∧ x.rspCacheLen = 0
  · rw [if_pos hnone]
  · rw [if_neg hnone, cacheDevObject_of_not_passes req (h.resolve_left hnone)]
    exact if_pos (by decide : valError ≠ 0)

/-- **Failed caching.**  For every exit and every state of the objects, a call that fails leaves all
of them as they were if and only if it is not one that fails half-way. -/
theorem cache_failure_keeps_iff (w : Owner) (o : DevCache) (req rsp : Buffer) (x : DevCommExit) :
    FailureKeeps w o req rsp x ↔ ¬ HalfDone w o x := by
  by_cases hrefused : (x.reqCacheLen = 0 ∧ x.rspCacheLen = 0) ∨
      ¬ Passes w o.lens x.cacheObjId x.reqCacheOffset x.reqCacheLen
  · refine iff_of_true ?_ fun hhalf => ?_
    · unfold FailureKeeps
      rw [cacheDevReqResp_refused hrefused]
      exact fun _ k => ⟨rfl, rfl⟩
    · exact hrefused.elim (fun hnone => hhalf.something hnone.1) fun hnot => hnot hhalf.request
  obtain ⟨hsome, hreq⟩ := not_or.mp hrefused
  have hreq := not_not.mp hreq
  unfold FailureKeeps
  rw [cacheDevReqResp_eq hsome hreq]
  by_cases hrsp : Passes w (lensAfter w o.lens x.cacheObjId x.reqCacheLen) x.cacheObjId
      x.rspCacheOffset x.rspCacheLen
  · refine iff_of_true (fun hfail => ?_) fun hhalf => hhalf.response hrsp
    exact absurd ((cacheDevObject_ok_iff rsp).mpr ((passes_after_iff hreq req).mpr hrsp)) hfail
  · have hfails := cacheDevObject_of_not_passes rsp (mt (passes_after_iff hreq req).mp hrsp)
    rw [hfails]
    obtain ⟨k, -, -, heq⟩ := cacheDevObject_of_passes req hreq
    rw [heq]
    dsimp only
    by_cases hzero : x.reqCacheLen = 0
    · -- the first slice was empty
      refine iff_of_true (fun _ j => ?_) fun hhalf => hhalf.something hzero
      rw [DevCache.get_set, hzero]
      split
      · rename_i hj
        rw [hj]
        exact append_zero_same _ _
      · exact ⟨rfl, rfl⟩
    · refine iff_of_false (fun hkeeps => ?_) (not_not.mpr ⟨hzero, hreq, hrsp⟩)
      have hlen := (hkeeps (by decide) k).1
      rw [DevCache.get_set, if_pos rfl] at hlen
      have hadd : (o.get k).len + x.reqCacheLen = (o.get k).len + 0 :=
        hlen.trans (UInt64.add_zero _).symm
      exact hzero ((UInt64.add_right_inj _).mp hadd)

end TwoSlices

/-- **A call that fails half-way**: one byte of the request buffer is cached, and then the slice of
the response buffer is found to be too long. -/
theorem cache_failure_changes :
    ¬ FailureKeeps .pdev .empty (fun _ => 0) (fun _ => 0)
      ⟨3, 0, 1, 0, 0x2000, rmiDevCertificate, 0, 0⟩ := by
  intro h
  have hlen := (h (by decide) .certificate).1
  exact absurd hlen (by decide)

end RmmAcs.Dev
