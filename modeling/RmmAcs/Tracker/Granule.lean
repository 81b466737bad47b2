/-
# The granule tracker of `val_host_realm.c`

The host side of the suite remembers every granule it has delegated, so that it can give all of
them back at the end of a test.  The memory of it is an array `mem_track` of ten slots, each with
a realm's `rd` and seven singly linked lists of `val_host_granule_ts` nodes; the file-level
globals `head` and `tail` repeat the ends of ONE of these lists, the NS list of slot 0, and
`current` and `current_realm` carry a cursor and a slot number from one function to the next.

This file is that code, pointer for pointer.  A node is an address in a memory of nodes, a list
is a pointer, and each function reads and writes the links and the globals in the order the
source does.  What C leaves undefined is a `Fault`: a NULL pointer that is dereferenced, a node
that could not be allocated, an index outside `has_auxiliary`, a circular list.  A field the
source does not initialise keeps what the memory held before.  Log output is left out, and so is
`val_host_mem_free`, which does nothing.
-/
import RmmAcs.Alloc
import RmmAcs.Lib.Chain

namespace RmmAcs.Granules

open RmmAcs Lib

/-! ## 1. Data -/

/-- The states of a granule. -/
inductive GranuleState where
  | undelegated
  | delegated
  | rd
  | rtt
  | rttAux
  | data
  | recg
  | unprotected
deriving DecidableEq, Repr

/-- `VAL_MAX_AUX_PLANES`. -/
abbrev maxAuxPlanes : ℕ := 3

/-- The payload of a `val_host_granule_ts` node. -/
structure Granule where
  rd : UInt64
  state : GranuleState
  pa : UInt64
  ipa : UInt64
  level : UInt64
  rttTreeIdx : UInt64
  isGranuleSliced : UInt8
  hasAuxiliary : Fin maxAuxPlanes → Bool
deriving DecidableEq

/-- An address of a node. -/
abbrev Ptr := UInt64

/-- The lists of a slot: the fields of `val_host_granule_type_ts`. -/
inductive GranType where
  | ns
  | rd
  | rtt
  | rttAux
  | recg
  | data
  | validNs
deriving DecidableEq, Repr

/-- `VAL_HOST_MAX_REALMS`. -/
abbrev maxRealms : ℕ := 10

/-- There is a slot 0, so the numerals are slots. -/
instance neZero_maxRealms : NeZero maxRealms := ⟨by decide⟩

/-- One element of `mem_track`. -/
structure MemTrack where
  rd : UInt64
  granType : GranType → Option Ptr

/-- `&mem_track[i].gran_type.x`. -/
abbrev ListRef := Fin maxRealms × GranType

/-- The globals of the tracker, the memory its nodes are in and the heap they come from. -/
structure Tracker where
  memTrack : Fin maxRealms → MemTrack
  head : Option Ptr
  current : Option Ptr
  tail : Option Ptr
  currentRealm : Fin maxRealms
  mem : NodeMem Ptr Granule
  heap : HeapState

/-- What C leaves undefined. -/
inductive Fault where
  | nullDeref
  | noMemory
  | outOfBounds
  | endless
deriving DecidableEq, Repr

/-- The value of `rd` in a slot that is not in use. -/
def freeRd : UInt64 := 0x00000000FFFFFFFF

/-- The NS list: `&mem_track[0].gran_type.ns`. -/
abbrev nsRef : ListRef := (0, .ns)

/-- The slots of the realms, in the order of `for (i = 1; i < VAL_HOST_MAX_REALMS; i++)`. -/
def slots : List (Fin maxRealms) := [1, 2, 3, 4, 5, 6, 7, 8, 9]

/-- There are no more nodes than addresses, so a walk that takes longer is in a cycle. -/
def loopFuel : ℕ := 2 ^ 64 + 1

namespace Tracker

def rd (t : Tracker) (i : Fin maxRealms) : UInt64 := (t.memTrack i).rd

def list (t : Tracker) (r : ListRef) : Option Ptr := (t.memTrack r.1).granType r.2

def setRd (t : Tracker) (i : Fin maxRealms) (v : UInt64) : Tracker :=
  { t with memTrack := Function.update t.memTrack i { t.memTrack i with rd := v } }

def setList (t : Tracker) (r : ListRef) (p : Option Ptr) : Tracker :=
  let slot := t.memTrack r.1
  let slot := { slot with granType := Function.update slot.granType r.2 p }
  { t with memTrack := Function.update t.memTrack r.1 slot }

/-- `a->next = q`. -/
def setNext (t : Tracker) (a : Ptr) (q : Option Ptr) : Tracker :=
  { t with mem := Lib.setNext t.mem a q }

/-- Assignments to the other fields of `*a`. -/
def modify (t : Tracker) (a : Ptr) (f : Granule → Granule) : Tracker :=
  { t with mem := modifyData t.mem a f }

/-- The globals as they are initialised, over any memory. -/
def init (mem : NodeMem Ptr Granule) (heap : HeapState) : Tracker where
  memTrack := fun _ => ⟨freeRd, fun _ => none⟩
  head := none
  current := none
  tail := none
  currentRealm := 1
  mem := mem
  heap := heap

end Tracker

/-! ## 2. Searching and removing -/

/-- `mem_alloc(sizeof(val_host_granule_ts), sizeof(val_host_granule_ts))`, whose result is used
without a check. -/
def allocNode (t : Tracker) : Except Fault (Ptr × Tracker) :=
  let (p, heap) := memAlloc sizeofGranule sizeofGranule t.heap
  if p = 0 then .error .noMemory else .ok (p, { t with heap := heap })

/-- `val_host_find_granule`. -/
def valHostFindGranule (pa : UInt64) (t : Tracker) : Except Fault (Option Ptr) :=
  match scan t.mem (fun g => g.pa == pa) loopFuel none t.head with
  | none => .error .endless
  | some (_, find) => .ok find

/-- `(current != NULL) && ...`: the first node, if it has the key. -/
def firstIf (key : Granule → Bool) (m : NodeMem Ptr Granule) : Option Ptr → Option Ptr
  | some a => if key (m a).data then some a else none
  | none => none

/-- The body the four removal routines share; they differ in the key they look for.  The first
node is a case of its own, and the NS list is recognised by its first node. -/
def removeGranuleBy (key : Granule → Bool) (listHead : ListRef) (t : Tracker) :
    Except Fault (Option Ptr × Tracker) :=
  let temp := t.list nsRef
  match firstIf key t.mem (t.list listHead) with
  | some a =>
    if temp = t.list listHead then
      let head := (t.mem a).next
      .ok (some a, ({ t with head := head }.setList nsRef head).setNext a none)
    else
      .ok (some a, (t.setList listHead (t.mem a).next).setNext a none)
  | none =>
    match scan t.mem key loopFuel none (t.list listHead) with
    | none => .error .endless
    | some (_, none) => .ok (none, t)
    | some (none, some _) => .error .nullDeref
    | some (some prev, some a) =>
      let t := t.setNext prev (t.mem a).next
      let t :=
        if t.list nsRef = t.list listHead ∧ (t.mem a).next = none then
          { t with tail := some prev }
        else t
      .ok (some a, t.setNext a none)

/-- `val_host_remove_granule`: by PA. -/
def valHostRemoveGranule (listHead : ListRef) (pa : UInt64) :
    Tracker → Except Fault (Option Ptr × Tracker) :=
  removeGranuleBy (fun g => g.pa == pa) listHead

/-- `val_host_remove_data_granule`: by IPA. -/
def valHostRemoveDataGranule (listHead : ListRef) (ipa : UInt64) :
    Tracker → Except Fault (Option Ptr × Tracker) :=
  removeGranuleBy (fun g => g.ipa == ipa) listHead

/-- `val_host_remove_rtt_granule`: by level and IPA. -/
def valHostRemoveRttGranule (listHead : ListRef) (ipa level : UInt64) :
    Tracker → Except Fault (Option Ptr × Tracker) :=
  removeGranuleBy (fun g => g.level == level && g.ipa == ipa) listHead

/-- `val_host_remove_aux_rtt_granule`: by level, IPA and tree index. -/
def valHostRemoveAuxRttGranule (listHead : ListRef) (ipa level index : UInt64) :
    Tracker → Except Fault (Option Ptr × Tracker) :=
  removeGranuleBy (fun g => g.level == level && g.ipa == ipa && g.rttTreeIdx == index) listHead

/-! ## 3. Adding -/

/-- The second half of `val_host_add_granule`: the node goes behind `tail`. -/
def addNode (node : Ptr) (t : Tracker) : Except Fault Tracker :=
  match t.head with
  | none =>
    .ok (({ t with head := some node, tail := some node }.setList nsRef (some node)).setNext
      node none)
  | some _ =>
    match t.tail with
    | none => .error .nullDeref
    | some b => .ok ({ t with tail := some node }.setNext b (some node))

/-- What `val_host_add_granule` writes to a new node.  `rd`, `ipa` and `level` stay as the memory
has them. -/
def addedGranule (state : GranuleState) (pa : UInt64) (g : Granule) : Granule :=
  { g with
    state := state
    pa := pa
    isGranuleSliced := 0
    rttTreeIdx := 0
    hasAuxiliary := fun _ => false }

/-- `val_host_add_granule`. -/
def valHostAddGranule (state : GranuleState) (pa : UInt64) (node : Option Ptr) (t : Tracker) :
    Except Fault Tracker :=
  match node with
  | none => do
    let (a, t) ← allocNode t
    addNode a ((t.modify a (addedGranule state pa)).setNext a none)
  | some a => addNode a t

/-- `val_host_get_curr_realm`, from the `rd` fields of the slots. -/
def slotOf (rds : Fin maxRealms → UInt64) (rd : UInt64) : Fin maxRealms :=
  (slots.find? fun i => rds i == rd).getD 0

/-- `val_host_get_curr_realm`. -/
def valHostGetCurrRealm (rd : UInt64) (t : Tracker) : Fin maxRealms := slotOf t.rd rd

/-- The code that closes six branches of `val_host_update_granule_state`: `node` becomes the
last node of a list that is walked with `current`. -/
def appendNode (r : ListRef) (node : Ptr) (t : Tracker) : Except Fault Tracker :=
  match t.list r with
  | none => .ok ({ t with current := none }.setList r (some node))
  | some a =>
    match lastNode t.mem loopFuel a with
    | none => .error .endless
    | some b => .ok ({ t with current := some b }.setNext b (some node))

/-- The list a granule in a given state is kept in. -/
def GranuleState.granType : GranuleState → Option GranType
  | .undelegated => none
  | .delegated => none
  | .rd => some .rd
  | .rtt => some .rtt
  | .rttAux => some .rttAux
  | .data => some .data
  | .recg => some .recg
  | .unprotected => some .validNs

/-- What a branch of `val_host_update_granule_state` writes to the node it moves: the state,
except for an unprotected mapping, and the tree index, for an auxiliary RTT only. -/
def movedGranule (rd : UInt64) (state : GranuleState) (ipa level idx : UInt64) (g : Granule) :
    Granule :=
  { g with
    rd := rd
    state := if state = .unprotected then g.state else state
    ipa := ipa
    level := level
    rttTreeIdx := if state = .rttAux then idx else g.rttTreeIdx }

/-- What `val_host_update_granule_state` writes to a new node, when the NS list has none for the
PA.  `is_granule_sliced` stays as the memory has it. -/
def mappedGranule (rd : UInt64) (state : GranuleState) (pa ipa level idx : UInt64) (g : Granule) :
    Granule :=
  { g with
    rd := rd
    state := state
    pa := pa
    ipa := ipa
    level := level
    rttTreeIdx := idx
    hasAuxiliary := fun _ => false }

/-- The loop of the `GRANULE_RD` branch: the realm takes the first free slot, unless it has one
already; with no free slot `current_realm` stays what `val_host_get_curr_realm` left there. -/
def addRealm (pa : UInt64) (t : Tracker) : Tracker :=
  match slots.find? fun i => t.rd i == pa || t.rd i == freeRd with
  | none => t
  | some i => if t.rd i = pa then t else { t.setRd i pa with currentRealm := i }

/-- `val_host_update_granule_state`. -/
def valHostUpdateGranuleState (rd : UInt64) (state : GranuleState) (pa ipa level idx : UInt64)
    (t : Tracker) : Except Fault Tracker := do
  let t := { t with currentRealm := valHostGetCurrRealm rd t }
  match ← valHostFindGranule pa t with
  | none =>
    let (a, t) ← allocNode t
    let t := (t.modify a (mappedGranule rd state pa ipa level idx)).setNext a none
    if state = .unprotected then appendNode (t.currentRealm, .validNs) a t else .ok t
  | some a =>
    let t := { t with current := t.head }
    match state.granType with
    | none => .ok t
    | some k =>
      let (_, t) ← valHostRemoveGranule nsRef pa t
      let t := (t.modify a (movedGranule rd state ipa level idx)).setNext a none
      if k = .rd then
        let t := addRealm pa t
        .ok (t.setList (t.currentRealm, .rd) (some a))
      else appendNode (t.currentRealm, k) a t

/-! ## 4. Rolling back -/

/-- A pointer the source dereferences. -/
def deref : Option Ptr → Except Fault Ptr
  | none => .error .nullDeref
  | some a => .ok a

def withState (state : GranuleState) (g : Granule) : Granule := { g with state := state }

/-- A removed node goes back to the NS list, in state `state`. -/
def giveBack (state : GranuleState) (r : Option Ptr × Tracker) : Except Fault Tracker := do
  let a ← deref r.1
  let t := r.2.modify a (withState state)
  valHostAddGranule state (t.mem a).data.pa (some a) t

/-- The `GRANULE_REC` branch: every slot's REC list, until one has the PA. -/
def giveBackRec (state : GranuleState) (pa : UInt64) :
    List (Fin maxRealms) → Tracker → Except Fault Tracker
  | [], t => .ok t
  | i :: is, t => do
    let r ← valHostRemoveGranule (i, .recg) pa t
    if r.1 = none then giveBackRec state pa is r.2 else giveBack state r

/-- `val_host_update_destroy_granule_state`. -/
def valHostUpdateDestroyGranuleState (rd pa ipa level : UInt64) (state listState : GranuleState)
    (idx : UInt64) (t : Tracker) : Except Fault Tracker :=
  if state = .undelegated then do
    match ← valHostFindGranule pa t with
    | none => .ok t
    | some a =>
      if (t.mem a).data.isGranuleSliced = 0 then do
        let r ← valHostRemoveGranule nsRef pa t
        -- `node->PA` is read for `val_host_mem_free`
        let _ ← deref r.1
        .ok r.2
      else if (t.mem a).data.isGranuleSliced = 1 then
        .ok (t.modify a (withState state))
      else .ok t
  else
    let t := if listState ≠ .recg then { t with currentRealm := valHostGetCurrRealm rd t } else t
    match listState with
    | .rtt => do
      giveBack state (← valHostRemoveRttGranule (t.currentRealm, .rtt) ipa level t)
    | .rttAux => do
      giveBack state (← valHostRemoveAuxRttGranule (t.currentRealm, .rttAux) ipa level idx t)
    | .data => do
      giveBack state (← valHostRemoveDataGranule (t.currentRealm, .data) ipa t)
    | .recg => giveBackRec state pa slots t
    | .rd => do
      let t' ← giveBack state (← valHostRemoveGranule (t.currentRealm, .rd) pa t)
      .ok (t'.setRd t'.currentRealm freeRd)
    | .unprotected => do
      giveBack .undelegated (← valHostRemoveGranule (t.currentRealm, .validNs) pa t)
    | .undelegated => .ok t
    | .delegated => .ok t

/-- `has_auxiliary[i] = val`. -/
def withAuxiliary (i : Fin maxAuxPlanes) (val : Bool) (g : Granule) : Granule :=
  { g with hasAuxiliary := Function.update g.hasAuxiliary i val }

/-- `val_host_update_aux_rtt_info`; the flag is `true` for `VAL_SUCCESS`. -/
def valHostUpdateAuxRttInfo (granState : GranuleState) (rd rttIndex ipa : UInt64) (val : Bool)
    (t : Tracker) : Except Fault (Bool × Tracker) :=
  let t := { t with currentRealm := valHostGetCurrRealm rd t }
  if granState = .data ∨ granState = .unprotected then
    let k : GranType := if granState = .data then .data else .validNs
    match t.list (t.currentRealm, k) with
    | none => .ok (false, t)
    | some a =>
      match scan t.mem (fun g => g.ipa == ipa) loopFuel none (some a) with
      | none => .error .endless
      | some (_, none) => .error .nullDeref
      | some (_, some b) =>
        if h : (rttIndex - 1).toNat < maxAuxPlanes then
          .ok (true, t.modify b (withAuxiliary ⟨(rttIndex - 1).toNat, h⟩ val))
        else .error .outOfBounds
  else .ok (false, t)

/-- `val_host_reset_mem_tack`.  Six of the seven lists, in every slot. -/
def valHostResetMemTack (t : Tracker) : Tracker :=
  { t with memTrack := fun i =>
      ⟨freeRd, fun k => if k = .rttAux then (t.memTrack i).granType k else none⟩ }

end RmmAcs.Granules
