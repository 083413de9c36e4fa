import Mathlib.Data.List.Pairwise
import Mathlib.Data.List.Perm.Basic
import Mathlib.Tactic.Common

/-! # Memory

  Byte-addressed memory with live allocations. Whatever is undefined for a
  program (an access outside its allocations, reading what was never written,
  returning what it does not own) is a fault here, so that a program can be
  shown to be free of it.
-/

namespace Memory

variable {Byte : Type}

/-! ### Blocks -/

structure Layout where
  size : Nat
  align : Nat
  deriving DecidableEq, Repr

/-- A live allocation. -/
structure Block where
  base : Nat
  layout : Layout
  deriving DecidableEq, Repr

namespace Block

def Contains (block : Block) (address : Nat) : Prop :=
  block.base ≤ address ∧ address < block.base + block.layout.size

instance (block : Block) (address : Nat) : Decidable (block.Contains address) :=
  inferInstanceAs (Decidable (_ ∧ _))

/-- No address is in both. -/
def Apart (block block' : Block) : Prop :=
  block.base + block.layout.size ≤ block'.base ∨ block'.base + block'.layout.size ≤ block.base

instance (block block' : Block) : Decidable (block.Apart block') :=
  inferInstanceAs (Decidable (_ ∨ _))

/-- Its address is a multiple of its alignment, and not zero. -/
def Placed (block : Block) : Prop :=
  0 < block.base ∧ block.base % block.layout.align = 0

instance (block : Block) : Decidable block.Placed := inferInstanceAs (Decidable (_ ∧ _))

theorem Apart.symm {block block' : Block} (h : block.Apart block') : block'.Apart block :=
  Or.symm h

theorem Apart.not_contains {block block' : Block} (h : block.Apart block') {address : Nat}
    (hin : block.Contains address) : ¬ block'.Contains address := by
  unfold Apart at h
  unfold Contains at hin ⊢
  omega

end Block

/-! ### The heap -/

inductive Fault where
  /-- The address is in no live allocation. -/
  | outside
  /-- The byte was never written. -/
  | uninitialized
  /-- There is no such allocation to return. -/
  | notAllocated
  deriving DecidableEq, Repr

structure Heap (Byte : Type) where
  /-- `none` where nothing has been written. -/
  content : Nat → Option Byte
  blocks : List Block

namespace Heap

def empty : Heap Byte := ⟨fun _ => none, []⟩

/-- May an allocator answer with this block? -/
def Free (heap : Heap Byte) (block : Block) : Prop :=
  block.Placed ∧ ∀ other ∈ heap.blocks, block.Apart other

instance (heap : Heap Byte) (block : Block) : Decidable (heap.Free block) :=
  inferInstanceAs (Decidable (_ ∧ _))

/-- `alloc`, with what the new bytes hold. -/
def alloc (heap : Heap Byte) (block : Block) (byte : Option Byte) : Heap Byte where
  content := fun address => if block.Contains address then byte else heap.content address
  blocks := heap.blocks ++ [block]

/-- `dealloc`. -/
def dealloc (heap : Heap Byte) (block : Block) : Except Fault (Heap Byte) :=
  if block ∈ heap.blocks then
    .ok { heap with blocks := heap.blocks.erase block }
  else
    .error .notAllocated

/-- Is the address in a live allocation? -/
def Live (heap : Heap Byte) (address : Nat) : Prop :=
  ∃ block ∈ heap.blocks, block.Contains address

instance (heap : Heap Byte) (address : Nat) : Decidable (heap.Live address) :=
  inferInstanceAs (Decidable (∃ block ∈ heap.blocks, block.Contains address))

def store (heap : Heap Byte) (address : Nat) (byte : Byte) : Except Fault (Heap Byte) :=
  if heap.Live address then
    .ok { heap with
      content := fun other => if other = address then some byte else heap.content other }
  else
    .error .outside

def load (heap : Heap Byte) (address : Nat) : Except Fault Byte :=
  if heap.Live address then
    match heap.content address with
    | some byte => .ok byte
    | none => .error .uninitialized
  else
    .error .outside

/-- What is in the range, whether it may be read or not. -/
def cells (heap : Heap Byte) (base len : Nat) : List (Option Byte) :=
  (List.range len).map fun i => heap.content (base + i)

/-- Reads the range. -/
def loadRange (heap : Heap Byte) (base len : Nat) : Except Fault (List Byte) :=
  (List.range len).mapM fun i => heap.load (base + i)

/-- Live allocations do not overlap. -/
structure WellFormed (heap : Heap Byte) : Prop where
  placed : ∀ block ∈ heap.blocks, block.Placed
  apart : heap.blocks.Pairwise Block.Apart
  sized : ∀ block ∈ heap.blocks, 0 < block.layout.size

theorem wellFormed_empty : (empty : Heap Byte).WellFormed where
  placed := by
    intro block hblock
    contradiction
  apart := List.Pairwise.nil
  sized := by
    intro block hblock
    contradiction

section blocks
variable {heap : Heap Byte} {block block' : Block} {byte : Option Byte}

/-- No allocation is listed twice. -/
theorem WellFormed.nodup (h : heap.WellFormed) : heap.blocks.Nodup := by
  refine List.Pairwise.imp_of_mem ?_ h.apart
  intro other other' hother _ hapart hsame
  have hsize := h.sized other hother
  rw [← hsame] at hapart
  unfold Block.Apart at hapart
  omega

theorem WellFormed.alloc (h : heap.WellFormed) (hfree : heap.Free block)
    (hsize : 0 < block.layout.size) : (heap.alloc block byte).WellFormed where
  placed := by
    intro other hother
    rcases List.mem_append.mp hother with hold | hnew
    · exact h.placed other hold
    · rw [List.mem_singleton.mp hnew]
      exact hfree.1
  apart := by
    refine List.pairwise_append.mpr ⟨h.apart, List.pairwise_singleton _ _, ?_⟩
    intro other hother block' hblock'
    rw [List.mem_singleton.mp hblock']
    exact (hfree.2 other hother).symm
  sized := by
    intro other hother
    rcases List.mem_append.mp hother with hold | hnew
    · exact h.sized other hold
    · rw [List.mem_singleton.mp hnew]
      exact hsize

theorem dealloc_ok (hblock : block ∈ heap.blocks) :
    heap.dealloc block = .ok { heap with blocks := heap.blocks.erase block } :=
  if_pos hblock

theorem WellFormed.erase (h : heap.WellFormed) :
    ({ heap with blocks := heap.blocks.erase block } : Heap Byte).WellFormed where
  placed := fun other hother => h.placed other (List.mem_of_mem_erase hother)
  apart := h.apart.sublist List.erase_sublist
  sized := fun other hother => h.sized other (List.mem_of_mem_erase hother)

end blocks

section ranges
variable {heap heap' : Heap Byte} {block block' : Block} {base len i : Nat} {byte : Byte}

@[simp] theorem cells_length : (heap.cells base len).length = len := by
  simp [cells]

theorem getElem?_cells (hi : i < len) :
    (heap.cells base len)[i]? = some (heap.content (base + i)) := by
  simp [cells, hi]

/-- Ranges with the same bytes hold the same. -/
theorem cells_congr (h : ∀ i < len, heap'.content (base + i) = heap.content (base + i)) :
    heap'.cells base len = heap.cells base len := by
  apply List.map_congr_left
  intro i hi
  exact h i (List.mem_range.mp hi)

/-- A new allocation holds what it is given. -/
theorem cells_alloc {new : Option Byte} (hlen : len ≤ block.layout.size) :
    (heap.alloc block new).cells block.base len = List.replicate len new := by
  apply List.eq_replicate_iff.mpr
  refine ⟨cells_length, ?_⟩
  intro byte hbyte
  obtain ⟨i, hi, rfl⟩ := List.mem_map.mp hbyte
  have hlt := List.mem_range.mp hi
  exact if_pos ⟨by omega, by omega⟩

/-- It leaves the others alone. -/
theorem cells_alloc_apart {new : Option Byte} (hapart : block.Apart block')
    (hlen : len ≤ block'.layout.size) :
    (heap.alloc block new).cells block'.base len = heap.cells block'.base len := by
  apply cells_congr
  intro i hi
  have hin : block'.Contains (block'.base + i) := ⟨by omega, by omega⟩
  exact if_neg (hapart.symm.not_contains hin)

theorem live_of_mem (hblock : block ∈ heap.blocks) (hi : i < block.layout.size) :
    heap.Live (block.base + i) :=
  ⟨block, hblock, by omega, by omega⟩

/-- A write within an allocation succeeds. -/
theorem store_ok (hblock : block ∈ heap.blocks) (hi : i < block.layout.size) :
    heap.store (block.base + i) byte = .ok { heap with
      content := fun other =>
        if other = block.base + i then some byte else heap.content other } :=
  if_pos (live_of_mem hblock hi)

theorem blocks_store {address : Nat} (h : heap.store address byte = .ok heap') :
    heap'.blocks = heap.blocks := by
  unfold store at h
  split at h
  · rw [← Except.ok.inj h]
  · contradiction

theorem content_store {address : Nat} (h : heap.store address byte = .ok heap') (other : Nat) :
    heap'.content other = if other = address then some byte else heap.content other := by
  unfold store at h
  split at h
  · rw [← Except.ok.inj h]
  · contradiction

theorem WellFormed.store {address : Nat} (h : heap.WellFormed)
    (hstore : heap.store address byte = .ok heap') : heap'.WellFormed := by
  have hblocks := blocks_store hstore
  exact ⟨hblocks ▸ h.placed, hblocks ▸ h.apart, hblocks ▸ h.sized⟩

/-- It changes one byte of its own range. -/
theorem cells_store (h : heap.store (base + i) byte = .ok heap') :
    heap'.cells base len = (heap.cells base len).set i (some byte) := by
  apply List.ext_getElem?
  intro j
  rw [List.getElem?_set]
  by_cases hj : j < len
  · rw [getElem?_cells hj, getElem?_cells hj, content_store h]
    by_cases hij : i = j
    · simp [hij, hj]
    · have hne : ¬ base + j = base + i := by omega
      rw [if_neg hne, if_neg hij]
  · have hshort : len ≤ j := Nat.le_of_not_lt hj
    rw [List.getElem?_eq_none (by simpa using hshort),
      List.getElem?_eq_none (by simpa using hshort)]
    split
    · rw [if_neg (by rw [cells_length]; omega)]
    · rfl

/-- It leaves the others alone. -/
theorem cells_store_apart (hapart : block.Apart block') (hi : i < block.layout.size)
    (hlen : len ≤ block'.layout.size) (h : heap.store (block.base + i) byte = .ok heap') :
    heap'.cells block'.base len = heap.cells block'.base len := by
  apply cells_congr
  intro j hj
  have hin : block'.Contains (block'.base + j) := ⟨by omega, by omega⟩
  have hout := hapart.symm.not_contains hin
  rw [content_store h, if_neg]
  intro heq
  exact hout (heq ▸ ⟨by omega, by omega⟩)

/-- Reading a range of an allocation succeeds if all of it has been written. -/
theorem loadRange_eq_ok (hblock : block ∈ heap.blocks) (hlen : len ≤ block.layout.size)
    {bytes : List Byte} :
    heap.loadRange block.base len = .ok bytes ↔ heap.cells block.base len = bytes.map some := by
  have hlive : ∀ i ∈ List.range len, heap.Live (block.base + i) := by
    intro i hi
    exact live_of_mem hblock (Nat.lt_of_lt_of_le (List.mem_range.mp hi) hlen)
  unfold loadRange cells
  generalize List.range len = offsets at hlive
  induction offsets generalizing bytes with
  | nil => cases bytes <;> simp [pure, Except.pure]
  | cons i offsets ih =>
    have hi := hlive i List.mem_cons_self
    have htail : ∀ j ∈ offsets, heap.Live (block.base + j) :=
      fun j hj => hlive j (List.mem_cons_of_mem i hj)
    rw [List.mapM_cons, load, if_pos hi, List.map_cons]
    cases hcontent : heap.content (block.base + i) with
    | none => cases bytes <;> simp [bind, Except.bind]
    | some byte =>
      cases bytes with
      | nil =>
        cases hloaded : offsets.mapM fun i => heap.load (block.base + i) <;>
          simp [bind, Except.bind, pure, Except.pure]
      | cons byte' bytes =>
        have hrest : offsets.mapM (fun i => heap.load (block.base + i)) = .ok bytes ↔
            offsets.map (fun i => heap.content (block.base + i)) = bytes.map some := ih htail
        rw [List.map_cons, List.cons.injEq, ← hrest]
        cases hloaded : offsets.mapM fun i => heap.load (block.base + i) <;>
          simp [bind, Except.bind, pure, Except.pure]

end ranges

end Heap

end Memory
