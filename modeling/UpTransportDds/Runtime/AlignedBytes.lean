import UpTransportDds.Runtime.Config
import Mathlib

/-! # Aligned allocations

  `AlignedBytes`: the storage of a transmit loan. Its visible cells start out
  zeroed or uninitialized; once every cell has been written, the two cannot
  be told apart.
-/

namespace UpTransportDds

/-- Does `Layout::from_size_align` accept this size and alignment? The size,
    rounded up to the alignment, has to fit an `isize`. -/
def layoutValid (size alignment : Nat) : Bool :=
  2 ^ alignment.log2 = alignment && size + alignment ≤ 2 ^ 63

structure AlignedBytes where
  alignment : Nat
  /-- The visible range; `none` where nothing has been written yet. -/
  cells : List (Option UInt8)

namespace AlignedBytes

/-- `AlignedBytes::allocate`. -/
def allocate (len alignment : Nat) (zeroed : Bool) : Except UStatus AlignedBytes :=
  if layoutValid (max len 1) alignment then
    .ok ⟨alignment, List.replicate len (if zeroed then some 0 else none)⟩
  else
    .error (invalid "invalid requested payload allocation layout")

/-- `AlignedBytes::zeroed`. -/
def zeroed (len alignment : Nat) : Except UStatus AlignedBytes := allocate len alignment true

/-- `AlignedBytes::uninitialized`. -/
def uninitialized (len alignment : Nat) : Except UStatus AlignedBytes :=
  allocate len alignment false

def len (bytes : AlignedBytes) : Nat := bytes.cells.length

/-- Every visible cell has been written. -/
def Initialized (bytes : AlignedBytes) : Prop := ∀ cell ∈ bytes.cells, cell.isSome = true

/-- `AlignedBytes::as_slice`, for an initialized range. -/
def asSlice (bytes : AlignedBytes) : List UInt8 := bytes.cells.map fun cell => cell.getD 0

/-- A write through `as_mut_slice` or `as_uninit_mut_slice`. -/
def store (bytes : AlignedBytes) (i : Nat) (byte : UInt8) : AlignedBytes :=
  { bytes with cells := bytes.cells.set i (some byte) }

/-- A series of writes. -/
def storeAll (bytes : AlignedBytes) (writes : List (Nat × UInt8)) : AlignedBytes :=
  writes.foldl (fun bytes write => bytes.store write.1 write.2) bytes

/-- The last byte written to place `i`. -/
def lastWrite (writes : List (Nat × UInt8)) (i : Nat) : Option UInt8 :=
  (writes.reverse.find? fun write => write.1 = i).map Prod.snd

/-- The writes leave the bytes of `target` behind, every one of them. -/
def Writes (writes : List (Nat × UInt8)) (target : List UInt8) : Prop :=
  ∀ i, i < target.length → lastWrite writes i = target[i]?

/-- A later write to the same place wins. -/
theorem lastWrite_append (writes : List (Nat × UInt8)) (write : Nat × UInt8) (i : Nat) :
    lastWrite (writes ++ [write]) i = if write.1 = i then some write.2 else lastWrite writes i := by
  by_cases hi : write.1 = i <;> simp [lastWrite, hi]

section storing
variable {bytes : AlignedBytes} {writes : List (Nat × UInt8)} {i : Nat} {byte : UInt8}

@[simp] theorem length_store : (bytes.store i byte).cells.length = bytes.cells.length :=
  List.length_set

@[simp] theorem length_storeAll :
    (bytes.storeAll writes).cells.length = bytes.cells.length := by
  induction writes generalizing bytes with
  | nil => rfl
  | cons write writes ih =>
    show ((bytes.store write.1 write.2).storeAll writes).cells.length = bytes.cells.length
    rw [ih, length_store]

theorem initialized_store (h : bytes.Initialized) : (bytes.store i byte).Initialized := by
  intro cell hcell
  rcases List.mem_or_eq_of_mem_set hcell with hold | hnew
  · exact h cell hold
  · rw [hnew]
    rfl

theorem initialized_storeAll (h : bytes.Initialized) : (bytes.storeAll writes).Initialized := by
  induction writes generalizing bytes with
  | nil => exact h
  | cons write writes ih => exact ih (initialized_store h)

/-- A cell holds the last byte written there. -/
theorem getElem?_storeAll : (bytes.storeAll writes).cells[i]? =
    match lastWrite writes i with
    | some byte => (bytes.cells[i]?).map fun _ => some byte
    | none => bytes.cells[i]? := by
  induction writes using List.reverseRecOn with
  | nil => rfl
  | append_singleton writes write ih =>
    have hlast : bytes.storeAll (writes ++ [write]) =
        (bytes.storeAll writes).store write.1 write.2 := by
      simp [storeAll]
    rw [hlast]
    show ((bytes.storeAll writes).cells.set write.1 (some write.2))[i]? = _
    by_cases hi : write.1 = i
    · rw [lastWrite_append, if_pos hi, hi, List.getElem?_set_self']
      show (fun _ => some write.2) <$> (bytes.storeAll writes).cells[i]? = _
      rw [ih]
      cases lastWrite writes i <;> cases bytes.cells[i]? <;> rfl
    · rw [lastWrite_append, if_neg hi, List.getElem?_set_ne hi, ih]

/-- Once every byte has been written, the range holds them, whatever it was
    before. -/
theorem cells_storeAll {target : List UInt8} (hlen : bytes.cells.length = target.length)
    (hwrites : Writes writes target) : (bytes.storeAll writes).cells = target.map some := by
  apply List.ext_getElem?
  intro i
  rw [List.getElem?_map]
  by_cases hi : i < target.length
  · have hbyte := hwrites i hi
    rw [List.getElem?_eq_getElem hi] at hbyte
    rw [getElem?_storeAll, hbyte, List.getElem?_eq_getElem hi,
      List.getElem?_eq_getElem (hlen ▸ hi)]
    rfl
  · have hshort : target.length ≤ i := Nat.le_of_not_lt hi
    rw [List.getElem?_eq_none hshort, List.getElem?_eq_none (by rw [length_storeAll]; omega)]
    rfl

theorem asSlice_storeAll {target : List UInt8} (hlen : bytes.cells.length = target.length)
    (hwrites : Writes writes target) : (bytes.storeAll writes).asSlice = target := by
  unfold asSlice
  rw [cells_storeAll hlen hwrites, List.map_map]
  exact List.map_id _

theorem initialized_of_writes {target : List UInt8} (hlen : bytes.cells.length = target.length)
    (hwrites : Writes writes target) : (bytes.storeAll writes).Initialized := by
  intro cell hcell
  rw [cells_storeAll hlen hwrites] at hcell
  obtain ⟨byte, _, rfl⟩ := List.mem_map.mp hcell
  rfl

end storing

/-- Both allocations succeed for the same layouts. -/
theorem allocate_eq_ok {len alignment : Nat} {zeroed : Bool} {bytes : AlignedBytes} :
    allocate len alignment zeroed = .ok bytes ↔
      layoutValid (max len 1) alignment = true ∧
        bytes = ⟨alignment, List.replicate len (if zeroed then some 0 else none)⟩ := by
  unfold allocate
  split
  · rename_i hvalid
    constructor
    · intro h
      exact ⟨hvalid, (Except.ok.inj h).symm⟩
    · intro ⟨_, h⟩
      rw [h]
  · rename_i hvalid
    constructor
    · intro h
      contradiction
    · intro ⟨h, _⟩
      exact absurd h hvalid

theorem initialized_zeroed {len alignment : Nat} {bytes : AlignedBytes}
    (h : zeroed len alignment = .ok bytes) : bytes.Initialized := by
  rw [(allocate_eq_ok.mp h).2]
  intro cell hcell
  rw [List.eq_of_mem_replicate hcell]
  rfl

end AlignedBytes

end UpTransportDds
