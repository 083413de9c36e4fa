import UpTransportDds.Framework.Memory
import UpTransportDds.Framework.System
import UpTransportDds.Runtime.AlignedBytes

/-! # Loans on the heap

  `AlignedBytes` as it is: a pointer into an allocation that it owns. Any
  number of loans share one heap, whose allocator answers as it likes. No
  access is ever undefined, and each loan is the value that `AlignedBytes`
  stands for everywhere else.
-/

namespace UpTransportDds

open LTS Memory

/-! ### State -/

/-- `AlignedBytes`. -/
structure RawBytes where
  pointer : Nat
  layout : Layout
  len : Nat
  deriving DecidableEq, Repr

/-- Its allocation. -/
def RawBytes.block (bytes : RawBytes) : Block := ⟨bytes.pointer, bytes.layout⟩

/-- A `DdsUninitTxBuffer`, or a `DdsTxBuffer` once it is initialized. -/
structure RawLoan where
  payload : RawBytes
  initialized : Bool
  deriving DecidableEq, Repr

/-- The heap, and every loan there has been; `none` once it is dropped. -/
structure LoanHeap where
  heap : Heap UInt8
  loans : List (Option RawLoan)

inductive LoanLabel where
  /-- `AlignedBytes::zeroed` or `uninitialized`; the allocator answers `base`. -/
  | allocate (len alignment : Nat) (zeroed : Bool) (base : Nat)
  /-- A write through the slice that loan `k` gives out. -/
  | write (k i : Nat) (byte : UInt8)
  /-- `assume_payload_init`. -/
  | assumeInit (k : Nat)
  /-- `as_slice`, and what is read there. -/
  | read (k : Nat) (bytes : List UInt8)
  | drop (k : Nat)
  deriving DecidableEq, Repr

/-! ### Steps -/

namespace LoanHeap

/-- The loan, unless it is dropped. -/
def loan (s : LoanHeap) (k : Nat) : Option RawLoan := (s.loans[k]?).join

/-- `AlignedBytes::allocate`. -/
def allocate (s : LoanHeap) (len alignment : Nat) (zeroed : Bool) (base : Nat) :
    Option (Except Fault LoanHeap) :=
  if layoutValid (max len 1) alignment then
    let layout : Layout := ⟨max len 1, alignment⟩
    if s.heap.Free ⟨base, layout⟩ then
      some (.ok
        { heap := s.heap.alloc ⟨base, layout⟩ (if zeroed then some 0 else none)
          loans := s.loans ++ [some ⟨⟨base, layout, len⟩, zeroed⟩] })
    else
      none
  else
    -- `invalid requested payload allocation layout`
    some (.ok s)

def next (s : LoanHeap) : LoanLabel → Option (Except Fault LoanHeap)
  | .allocate len alignment zeroed base => s.allocate len alignment zeroed base
  | .write k i byte =>
    (s.loan k).bind fun loan =>
      -- the slice checks its bounds
      if i < loan.payload.len then
        some ((s.heap.store (loan.payload.pointer + i) byte).map fun heap =>
          { s with heap := heap })
      else
        none
  | .assumeInit k =>
    (s.loan k).bind fun loan =>
      -- the caller vouches for every byte
      if loan.initialized = false ∧
          (s.heap.cells loan.payload.pointer loan.payload.len).all Option.isSome = true then
        some (.ok { s with loans := s.loans.set k (some { loan with initialized := true }) })
      else
        none
  | .read k bytes =>
    (s.loan k).bind fun loan =>
      if loan.initialized then
        match s.heap.loadRange loan.payload.pointer loan.payload.len with
        | .ok bytes' => if bytes' = bytes then some (.ok s) else none
        | .error fault => some (.error fault)
      else
        none
  | .drop k =>
    (s.loan k).bind fun loan =>
      some ((s.heap.dealloc loan.payload.block).map fun heap =>
        { heap := heap, loans := s.loans.set k none })

end LoanHeap

/-- Nothing goes on after a fault. -/
def loanHeapNext : Except Fault LoanHeap → LoanLabel → Option (Except Fault LoanHeap)
  | .ok s, l => s.next l
  | .error _, _ => none

/-- The loans of a process. -/
def loanHeap : System (Except Fault LoanHeap) LoanLabel :=
  ofNext (· = .ok ⟨Heap.empty, []⟩) loanHeapNext

/-! ### What the loans stand for -/

/-- A loan as a value. -/
structure Loan where
  payload : AlignedBytes
  initialized : Bool

instance (bytes : AlignedBytes) : Decidable bytes.Initialized :=
  inferInstanceAs (Decidable (∀ cell ∈ bytes.cells, cell.isSome = true))

abbrev Loans := List (Option Loan)

namespace Loans

def loan (s : Loans) (k : Nat) : Option Loan := (s[k]?).join

def next (s : Loans) : LoanLabel → Option Loans
  | .allocate len alignment zeroed _ =>
    match AlignedBytes.allocate len alignment zeroed with
    | .ok bytes => some (s ++ [some ⟨bytes, zeroed⟩])
    | .error _ => some s
  | .write k i byte =>
    (loan s k).bind fun loan =>
      if i < loan.payload.len then
        some (s.set k (some { loan with payload := loan.payload.store i byte }))
      else
        none
  | .assumeInit k =>
    (loan s k).bind fun loan =>
      if loan.initialized = false ∧ loan.payload.Initialized then
        some (s.set k (some { loan with initialized := true }))
      else
        none
  | .read k bytes =>
    (loan s k).bind fun loan =>
      if loan.initialized ∧ loan.payload.asSlice = bytes then some s else none
  | .drop k => (loan s k).bind fun _ => some (s.set k none)

end Loans

/-- The loans as values that have nothing to do with each other. -/
def loanValues : System Loans LoanLabel := ofNext (· = []) Loans.next

namespace LoanHeap

/-- What a loan stands for. -/
def value (heap : Heap UInt8) (loan : RawLoan) : Loan :=
  ⟨⟨loan.payload.layout.align, heap.cells loan.payload.pointer loan.payload.len⟩, loan.initialized⟩

def values (s : LoanHeap) : Loans := s.loans.map (Option.map (value s.heap))

end LoanHeap

/-- An initialized range is what `as_slice` gives out. -/
theorem AlignedBytes.cells_asSlice {bytes : AlignedBytes} (h : bytes.Initialized) :
    bytes.cells = bytes.asSlice.map some := by
  have hsome : ∀ cell ∈ bytes.cells, id cell = (some ∘ fun cell => cell.getD 0) cell := by
    intro cell hcell
    obtain ⟨byte, rfl⟩ := Option.isSome_iff_exists.mp (h cell hcell)
    rfl
  rw [asSlice, List.map_map, ← List.map_congr_left hsome, List.map_id]

section slots
variable {α : Type} {xs : List (Option α)} {a : α} {k : Nat}

theorem lt_of_join (h : (xs[k]?).join = some a) : k < xs.length := by
  by_contra hge
  rw [List.getElem?_eq_none (Nat.le_of_not_lt hge)] at h
  contradiction

theorem join_set (hk : k < xs.length) (x : Option α) (j : Nat) :
    ((xs.set k x)[j]?).join = if k = j then x else (xs[j]?).join := by
  rw [List.getElem?_set]
  by_cases hj : k = j
  · simp [hj, hj ▸ hk]
  · simp [hj]

theorem join_append (x : Option α) (j : Nat) :
    ((xs ++ [x])[j]?).join = if j = xs.length then x else (xs[j]?).join := by
  rw [List.getElem?_append]
  by_cases hlt : j < xs.length
  · rw [if_pos hlt, if_neg (Nat.ne_of_lt hlt)]
  · rw [if_neg hlt]
    by_cases hj : j = xs.length
    · simp [hj]
    · rw [if_neg hj, List.getElem?_eq_none (by simp; omega), List.getElem?_eq_none (by omega)]

end slots

/-! ### Ownership -/

/-- The loans own the live allocations between them. -/
structure Owned (s : LoanHeap) : Prop where
  wellFormed : s.heap.WellFormed
  /-- The visible range is in the allocation. -/
  fits : ∀ k loan, s.loan k = some loan → loan.payload.len ≤ loan.payload.layout.size
  owns : ∀ k loan, s.loan k = some loan → loan.payload.block ∈ s.heap.blocks
  apart : ∀ k k' loan loan', s.loan k = some loan → s.loan k' = some loan' → k ≠ k' →
    loan.payload.block.Apart loan'.payload.block
  owned : ∀ block ∈ s.heap.blocks, ∃ k loan, s.loan k = some loan ∧ loan.payload.block = block
  /-- Nothing of an initialized loan is still to be written. -/
  written : ∀ k loan, s.loan k = some loan → loan.initialized = true →
    ∀ cell ∈ s.heap.cells loan.payload.pointer loan.payload.len, cell.isSome = true

namespace LoanHeap

section loans
variable {s : LoanHeap} {heap' : Heap UInt8} {k k' : Nat} {loan loan' : RawLoan}

/-- Replacing a loan leaves the others. -/
theorem loan_set (x : Option RawLoan) (h : s.loan k = some loan) (j : Nat) :
    (LoanHeap.mk heap' (s.loans.set k x)).loan j = if k = j then x else s.loan j :=
  join_set (lt_of_join h) x j

/-- A new loan is put behind the others. -/
theorem loan_append (j : Nat) :
    (LoanHeap.mk heap' (s.loans ++ [some loan])).loan j =
      if j = s.loans.length then some loan else s.loan j :=
  join_append (some loan) j

theorem values_loan (j : Nat) : Loans.loan s.values j = (s.loan j).map (value s.heap) := by
  unfold Loans.loan values LoanHeap.loan
  rw [List.getElem?_map]
  cases s.loans[j]? <;> rfl

/-- The values stay if no range changes. -/
theorem values_congr (h : ∀ j loan, s.loan j = some loan →
    heap'.cells loan.payload.pointer loan.payload.len =
      s.heap.cells loan.payload.pointer loan.payload.len) :
    s.loans.map (Option.map (value heap')) = s.values := by
  apply List.ext_getElem?
  intro j
  unfold values
  rw [List.getElem?_map, List.getElem?_map]
  rcases hj : s.loans[j]? with _ | _ | loan
  · rfl
  · rfl
  · have hsame := h j loan (by rw [LoanHeap.loan, hj]; rfl)
    simp [value, hsame]

end loans

/-! ### Each operation keeps the ownership -/

section steps
variable {s : LoanHeap} {heap' : Heap UInt8} {k : Nat} {loan : RawLoan}

/-- A new loan owns the new allocation. -/
theorem owned_alloc (h : Owned s) (loan : RawLoan) {zeroed : Bool}
    (hfree : s.heap.Free loan.payload.block)
    (hlayout : loan.payload.layout.size = max loan.payload.len 1)
    (hinitialized : loan.initialized = zeroed) :
    Owned ⟨s.heap.alloc loan.payload.block (if zeroed then some 0 else none),
      s.loans ++ [some loan]⟩ := by
  have hold : ∀ {j loan'}, s.loan j = some loan' → j ≠ s.loans.length :=
    fun hj => Nat.ne_of_lt (lt_of_join hj)
  have hfits : loan.payload.len ≤ loan.payload.layout.size := by omega
  constructor
  case wellFormed => exact h.wellFormed.alloc hfree (by show 0 < loan.payload.layout.size; omega)
  case fits =>
    intro j loan' hj
    rw [loan_append] at hj
    split at hj
    · rw [← Option.some.inj hj]
      exact hfits
    · exact h.fits j loan' hj
  case owns =>
    intro j loan' hj
    rw [loan_append] at hj
    split at hj
    · rw [← Option.some.inj hj]
      exact List.mem_append_right _ (List.mem_singleton.mpr rfl)
    · exact List.mem_append_left _ (h.owns j loan' hj)
  case apart =>
    intro j j' loan' loan'' hj hj' hne
    rw [loan_append] at hj hj'
    split at hj
    · split at hj'
      · omega
      · rw [← Option.some.inj hj]
        exact hfree.2 _ (h.owns j' loan'' hj')
    · split at hj'
      · rw [← Option.some.inj hj']
        exact (hfree.2 _ (h.owns j loan' hj)).symm
      · exact h.apart j j' loan' loan'' hj hj' hne
  case owned =>
    intro block hblock
    rcases List.mem_append.mp hblock with hmem | hnew
    · obtain ⟨j, loan', hj, rfl⟩ := h.owned block hmem
      exact ⟨j, loan', by rw [loan_append, if_neg (hold hj), hj], rfl⟩
    · rw [List.mem_singleton.mp hnew]
      exact ⟨s.loans.length, loan, by rw [loan_append, if_pos rfl], rfl⟩
  case written =>
    intro j loan' hj hinit
    rw [loan_append] at hj
    split at hj
    · obtain rfl := Option.some.inj hj
      show ∀ cell ∈ Heap.cells _ loan.payload.block.base loan.payload.len, cell.isSome = true
      rw [Heap.cells_alloc hfits]
      intro cell hcell
      rw [List.eq_of_mem_replicate hcell, ← hinitialized, hinit]
      rfl
    · have hapart := hfree.2 _ (h.owns j loan' hj)
      show ∀ cell ∈ Heap.cells _ loan'.payload.block.base loan'.payload.len, cell.isSome = true
      rw [Heap.cells_alloc_apart hapart (h.fits j loan' hj)]
      exact h.written j loan' hj hinit

theorem values_alloc (h : Owned s) (loan : RawLoan) {new : Option UInt8}
    (hfree : s.heap.Free loan.payload.block)
    (hfits : loan.payload.len ≤ loan.payload.block.layout.size) :
    (LoanHeap.mk (s.heap.alloc loan.payload.block new) (s.loans ++ [some loan])).values =
      s.values ++ [some ⟨⟨loan.payload.layout.align, List.replicate loan.payload.len new⟩,
        loan.initialized⟩] := by
  have hnew : (s.heap.alloc loan.payload.block new).cells loan.payload.pointer loan.payload.len =
      List.replicate loan.payload.len new := Heap.cells_alloc hfits
  unfold values
  rw [List.map_append, List.map_singleton, Option.map_some, value, hnew]
  congr 1
  apply values_congr
  intro j loan' hj
  exact Heap.cells_alloc_apart (hfree.2 _ (h.owns j loan' hj)) (h.fits j loan' hj)

/-- A write through one loan does not show in another. -/
theorem cells_write (h : Owned s) (hloan : s.loan k = some loan) {i : Nat} {byte : UInt8}
    (hi : i < loan.payload.len)
    (hstore : s.heap.store (loan.payload.pointer + i) byte = .ok heap') {j : Nat}
    {loan' : RawLoan} (hj : s.loan j = some loan') :
    heap'.cells loan'.payload.pointer loan'.payload.len =
      if k = j then (s.heap.cells loan'.payload.pointer loan'.payload.len).set i (some byte)
      else s.heap.cells loan'.payload.pointer loan'.payload.len := by
  split
  · rename_i hkj
    rw [hkj, hj] at hloan
    obtain rfl := Option.some.inj hloan
    exact Heap.cells_store hstore
  · rename_i hkj
    have hapart := h.apart k j loan loan' hloan hj hkj
    have hlt : i < loan.payload.block.layout.size := Nat.lt_of_lt_of_le hi (h.fits k loan hloan)
    exact Heap.cells_store_apart hapart hlt (h.fits j loan' hj) hstore

theorem owned_write (h : Owned s) (hloan : s.loan k = some loan) {i : Nat} {byte : UInt8}
    (hi : i < loan.payload.len)
    (hstore : s.heap.store (loan.payload.pointer + i) byte = .ok heap') :
    Owned { s with heap := heap' } where
  wellFormed := h.wellFormed.store hstore
  fits := h.fits
  owns := fun j loan' hj => Heap.blocks_store hstore ▸ h.owns j loan' hj
  apart := h.apart
  owned := fun block hblock => h.owned block (Heap.blocks_store hstore ▸ hblock)
  written := by
    intro j loan' hj hinit
    show ∀ cell ∈ heap'.cells loan'.payload.pointer loan'.payload.len, cell.isSome = true
    rw [cells_write h hloan hi hstore hj]
    have hold := h.written j loan' hj hinit
    split
    · intro cell hcell
      rcases List.mem_or_eq_of_mem_set hcell with hmem | hnew
      · exact hold cell hmem
      · rw [hnew]
        rfl
    · exact hold

theorem values_write (h : Owned s) (hloan : s.loan k = some loan) {i : Nat} {byte : UInt8}
    (hi : i < loan.payload.len)
    (hstore : s.heap.store (loan.payload.pointer + i) byte = .ok heap') :
    (LoanHeap.mk heap' s.loans).values = s.values.set k (some
      { value s.heap loan with payload := (value s.heap loan).payload.store i byte }) := by
  have hlt : k < s.loans.length := lt_of_join hloan
  apply List.ext_getElem?
  intro j
  unfold values
  rw [List.getElem?_map, List.getElem?_set, List.length_map, List.getElem?_map]
  by_cases hj : k = j
  · obtain rfl := hj
    rw [if_pos rfl, if_pos hlt, List.getElem?_eq_getElem hlt]
    have hthis : s.loans[k] = some loan := by
      have hjoin := hloan
      rw [LoanHeap.loan, List.getElem?_eq_getElem hlt] at hjoin
      exact hjoin
    have hcells := cells_write h hloan hi hstore hloan
    rw [if_pos rfl] at hcells
    simp [hthis, value, hcells, AlignedBytes.store]
  · rw [if_neg hj]
    rcases hentry : s.loans[j]? with _ | _ | loan'
    · rfl
    · rfl
    · have hcells := cells_write h hloan hi hstore (show s.loan j = some loan' by
        rw [LoanHeap.loan, hentry]
        rfl)
      rw [if_neg hj] at hcells
      simp [value, hcells]

/-- A loan of which everything has been written may be read. -/
theorem owned_assumeInit (h : Owned s) (hloan : s.loan k = some loan)
    (hwritten : ∀ cell ∈ s.heap.cells loan.payload.pointer loan.payload.len, cell.isSome = true) :
    Owned { s with loans := s.loans.set k (some { loan with initialized := true }) } := by
  -- the loan keeps its payload
  have hkeep : ∀ {j loan'}, (LoanHeap.mk s.heap (s.loans.set k (some
      { loan with initialized := true }))).loan j = some loan' →
        ∃ old, s.loan j = some old ∧ old.payload = loan'.payload ∧
          (loan'.initialized = true → old.initialized = true ∨ old = loan) := by
    intro j loan' hj
    rw [loan_set _ hloan] at hj
    split at hj
    · rename_i hkj
      obtain rfl := Option.some.inj hj
      exact ⟨loan, hkj ▸ hloan, rfl, fun _ => .inr rfl⟩
    · exact ⟨loan', hj, rfl, fun hinit => .inl hinit⟩
  constructor
  case wellFormed => exact h.wellFormed
  case fits =>
    intro j loan' hj
    obtain ⟨old, hold, hsame, _⟩ := hkeep hj
    exact hsame ▸ h.fits j old hold
  case owns =>
    intro j loan' hj
    obtain ⟨old, hold, hsame, _⟩ := hkeep hj
    exact hsame ▸ h.owns j old hold
  case apart =>
    intro j j' loan' loan'' hj hj' hne
    obtain ⟨old, hold, hsame, _⟩ := hkeep hj
    obtain ⟨old', hold', hsame', _⟩ := hkeep hj'
    exact hsame ▸ hsame' ▸ h.apart j j' old old' hold hold' hne
  case owned =>
    intro block hblock
    obtain ⟨j, old, hold, hsame⟩ := h.owned block hblock
    by_cases hkj : k = j
    · rw [← hkj, hloan] at hold
      refine ⟨k, { loan with initialized := true }, by rw [loan_set _ hloan, if_pos rfl], ?_⟩
      rw [← hsame, ← Option.some.inj hold]
    · exact ⟨j, old, by rw [loan_set _ hloan, if_neg hkj, hold], hsame⟩
  case written =>
    intro j loan' hj hinit
    obtain ⟨old, hold, hsame, hwas⟩ := hkeep hj
    rw [← hsame]
    rcases hwas hinit with hold' | hthis
    · exact h.written j old hold hold'
    · exact hthis ▸ hwritten

/-- A loan that is dropped gives its allocation back, and no other. -/
theorem owned_drop (h : Owned s) (hloan : s.loan k = some loan) :
    Owned { heap := { s.heap with blocks := s.heap.blocks.erase loan.payload.block }
            loans := s.loans.set k none } := by
  have hkeep : ∀ {j loan'}, (LoanHeap.mk { s.heap with
      blocks := s.heap.blocks.erase loan.payload.block } (s.loans.set k none)).loan j =
        some loan' → k ≠ j ∧ s.loan j = some loan' := by
    intro j loan' hj
    rw [loan_set _ hloan] at hj
    split at hj
    · contradiction
    · rename_i hkj
      exact ⟨hkj, hj⟩
  constructor
  case wellFormed => exact h.wellFormed.erase
  case fits => exact fun j loan' hj => h.fits j loan' (hkeep hj).2
  case owns =>
    intro j loan' hj
    obtain ⟨hkj, hold⟩ := hkeep hj
    have hapart := h.apart k j loan loan' hloan hold hkj
    have hsize := h.wellFormed.sized _ (h.owns k loan hloan)
    apply (List.mem_erase_of_ne ?_).mpr (h.owns j loan' hold)
    intro hsame
    rw [hsame] at hapart
    unfold Block.Apart at hapart
    omega
  case apart =>
    intro j j' loan' loan'' hj hj' hne
    exact h.apart j j' loan' loan'' (hkeep hj).2 (hkeep hj').2 hne
  case owned =>
    intro block hblock
    obtain ⟨j, loan', hj, hsame⟩ := h.owned block (List.mem_of_mem_erase hblock)
    have hkj : k ≠ j := by
      intro hkj
      rw [← hkj, hloan] at hj
      apply (h.wellFormed.nodup.mem_erase_iff.mp hblock).1
      rw [← hsame, ← Option.some.inj hj]
    exact ⟨j, loan', by rw [loan_set _ hloan, if_neg hkj, hj], hsame⟩
  case written => exact fun j loan' hj => h.written j loan' (hkeep hj).2

/-- Nothing undefined happens, and the values follow. -/
theorem next_ok (h : Owned s) {l : LoanLabel} {result : Except Fault LoanHeap}
    (hnext : s.next l = some result) :
    ∃ s', result = .ok s' ∧ Owned s' ∧ Loans.next s.values l = some s'.values := by
  cases l with
  | allocate len alignment zeroed base =>
    simp only [LoanHeap.next, allocate] at hnext
    simp only [Loans.next, AlignedBytes.allocate]
    split at hnext
    · rename_i hvalid
      rw [if_pos hvalid]
      split at hnext
      · rename_i hfree
        have hfits : len ≤ max len 1 := Nat.le_max_left len 1
        refine ⟨_, (Option.some.inj hnext).symm, ?_, ?_⟩
        · exact owned_alloc h ⟨⟨base, ⟨max len 1, alignment⟩, len⟩, zeroed⟩ hfree rfl rfl
        · exact congrArg some
            (values_alloc h ⟨⟨base, ⟨max len 1, alignment⟩, len⟩, zeroed⟩ hfree hfits).symm
      · contradiction
    · rename_i hvalid
      rw [if_neg hvalid]
      exact ⟨s, (Option.some.inj hnext).symm, h, rfl⟩
  | write k i byte =>
    obtain ⟨loan, hloan, hwrite⟩ := Option.bind_eq_some_iff.mp hnext
    split at hwrite
    · rename_i hi
      have hlt : i < loan.payload.block.layout.size := Nat.lt_of_lt_of_le hi (h.fits k loan hloan)
      have hstore : s.heap.store (loan.payload.block.base + i) byte = .ok _ :=
        Heap.store_ok (h.owns k loan hloan) hlt
      refine ⟨_, ?_, owned_write h hloan hi hstore, ?_⟩
      · rw [← Option.some.inj hwrite]
        show (s.heap.store (loan.payload.block.base + i) byte).map _ = _
        rw [hstore]
        rfl
      · rw [values_write h hloan hi hstore, Loans.next, values_loan, hloan]
        simp [value, AlignedBytes.len, hi]
    · contradiction
  | assumeInit k =>
    obtain ⟨loan, hloan, hassume⟩ := Option.bind_eq_some_iff.mp hnext
    split at hassume
    · rename_i hguard
      have hinit : (value s.heap loan).payload.Initialized := List.all_eq_true.mp hguard.2
      refine ⟨_, (Option.some.inj hassume).symm, owned_assumeInit h hloan hinit, ?_⟩
      have hold : (value s.heap loan).initialized = false := hguard.1
      rw [Loans.next, values_loan, hloan, Option.map_some, Option.bind_some, if_pos ⟨hold, hinit⟩,
        values, values, List.map_set]
      rfl
    · contradiction
  | read k bytes =>
    obtain ⟨loan, hloan, hread⟩ := Option.bind_eq_some_iff.mp hnext
    split at hread
    · rename_i hinit
      -- everything of the range has been written, so it can be read
      have hcells : s.heap.cells loan.payload.pointer loan.payload.len =
          (value s.heap loan).payload.asSlice.map some :=
        (value s.heap loan).payload.cells_asSlice (h.written k loan hloan hinit)
      have hload : s.heap.loadRange loan.payload.pointer loan.payload.len =
          .ok (value s.heap loan).payload.asSlice :=
        (Heap.loadRange_eq_ok (h.owns k loan hloan) (h.fits k loan hloan)).mpr hcells
      simp only [hload] at hread
      split at hread
      · rename_i hbytes
        refine ⟨s, (Option.some.inj hread).symm, h, ?_⟩
        rw [Loans.next, values_loan, hloan, Option.map_some, Option.bind_some,
          if_pos ⟨hinit, hbytes⟩]
      · contradiction
    · contradiction
  | drop k =>
    obtain ⟨loan, hloan, hdrop⟩ := Option.bind_eq_some_iff.mp hnext
    refine ⟨_, ?_, owned_drop h hloan, ?_⟩
    · rw [← Option.some.inj hdrop, Heap.dealloc_ok (h.owns k loan hloan)]
      rfl
    · rw [Loans.next, values_loan, hloan, Option.map_some, Option.bind_some, values, values,
        List.map_set]
      rfl

end steps

end LoanHeap

/-! ### Runs -/

section runs
variable {tr : Trace (Except Fault LoanHeap) LoanLabel} {result result' : Except Fault LoanHeap}

theorem owned_start : Owned ⟨Heap.empty, []⟩ := by
  constructor
  case wellFormed => exact Heap.wellFormed_empty
  case owned =>
    intro block hblock
    contradiction
  all_goals
    intro k
    intros
    contradiction

/-- Every run is one of the values. -/
theorem run_values (h : InitRun loanHeap tr result) :
    ∃ s tr', result = .ok s ∧ Owned s ∧ InitRun loanValues tr' s.values ∧
      tr'.map Prod.snd = tr.map Prod.snd := by
  have hsimulated : ∃ tr' a, InitRun loanValues tr' a ∧
      tr'.map Prod.snd = observe (fun _ l => [l]) tr ∧
      ∃ s, result = .ok s ∧ Owned s ∧ a = s.values := by
    refine InitRun.simulated (fun result a => ∃ s, result = .ok s ∧ Owned s ∧ a = s.values)
      (fun _ l => [l]) ?_ ?_ h
    · intro result hresult
      exact ⟨[], rfl, ⟨Heap.empty, []⟩, hresult, owned_start, rfl⟩
    · intro result l result' a _ ⟨s, hresult, howned, hvalues⟩ hstep
      rw [hresult] at hstep
      obtain ⟨s', hresult', howned', hnext⟩ := LoanHeap.next_ok howned hstep
      rw [← hvalues] at hnext
      exact ⟨_, s'.values, Run.single hnext, rfl, s', hresult', howned', rfl⟩
  obtain ⟨tr', a, hrun, hlabels, s, hresult, howned, rfl⟩ := hsimulated
  rw [observe, ← List.map_eq_flatMap] at hlabels
  exact ⟨s, tr', hresult, howned, hrun, hlabels⟩

/-- **Loans are safe**: whatever addresses the allocator answers with, no
    access is undefined, and the loans own the live allocations between them:
    nothing is shared, returned twice or left behind. -/
theorem loans_memory_safe (h : InitRun loanHeap tr result) :
    ∃ s, result = .ok s ∧ Owned s := by
  obtain ⟨s, _, hresult, howned, _⟩ := run_values h
  exact ⟨s, hresult, howned⟩

/-- Two loans are written in turns, the first is read, the second dropped. -/
def loanRun : List LoanLabel :=
  [.allocate 2 8 false 16, .allocate 1 4 true 32, .allocate 1 3 true 64, .write 0 0 7,
   .write 1 0 9, .write 0 1 8, .assumeInit 0, .read 0 [7, 8], .drop 1]

theorem loans_memory_safe_run : ∃ tr result s, InitRun loanHeap tr result ∧
    tr.map Prod.snd = loanRun ∧ result = .ok s ∧ s.heap.blocks.length = 1 ∧ Owned s := by
  obtain ⟨tr, s, hexec, hlabels, hblocks⟩ : ∃ tr s,
      exec loanHeapNext (.ok ⟨Heap.empty, []⟩) loanRun = some (tr, .ok s) ∧
        tr.map Prod.snd = loanRun ∧ s.heap.blocks.length = 1 :=
    ⟨_, _, rfl, rfl, rfl⟩
  have hrun : InitRun loanHeap tr (.ok s) := ⟨_, rfl, run_of_exec hexec⟩
  obtain ⟨s', hsame, howned⟩ := loans_memory_safe hrun
  exact ⟨tr, .ok s, s, hrun, hlabels, rfl, hblocks, Except.ok.inj hsame ▸ howned⟩

/-! ### What a loan holds -/

/-- The writes through loan `k`. -/
def writesTo (k : Nat) : LoanLabel → List (Nat × UInt8)
  | .write k' i byte => if k' = k then [(i, byte)] else []
  | _ => []

/-- Does this allocation succeed, so that a loan is added? -/
def LoanLabel.allocates : LoanLabel → Bool
  | .allocate len alignment _ _ => layoutValid (max len 1) alignment
  | _ => false

/-- The allocations of the loans, in order: number `k` is that of loan `k`. -/
def allocations (ls : List LoanLabel) : List LoanLabel := ls.filter LoanLabel.allocates

/-- Loan `k` has this payload: the bytes of its own allocation, with what has been
    written through it. -/
def Holds (ls : List LoanLabel) (k : Nat) (payload : AlignedBytes) : Prop :=
  ∃ len alignment zeroed base bytes,
    (allocations ls)[k]? = some (.allocate len alignment zeroed base) ∧
    AlignedBytes.allocate len alignment zeroed = .ok bytes ∧
    payload = bytes.storeAll (ls.flatMap (writesTo k))

/-- What the loans hold after these steps. -/
structure Written (ls : List LoanLabel) (a : Loans) : Prop where
  /-- Every allocation has added one loan. -/
  length : a.length = (allocations ls).length
  payload : ∀ k loan, Loans.loan a k = some loan → Holds ls k loan.payload
  /-- Nothing has been written through the loans to come. -/
  ahead : ∀ k, a.length ≤ k → ls.flatMap (writesTo k) = []

section holding
variable {ls : List LoanLabel} {a a' : Loans} {l : LoanLabel} {k : Nat}

theorem allocations_snoc :
    allocations (ls ++ [l]) = allocations ls ++ if l.allocates then [l] else [] := by
  cases hadds : l.allocates <;> simp [allocations, hadds]

theorem Holds.snoc {payload : AlignedBytes} (h : Holds ls k payload) (l : LoanLabel) :
    Holds (ls ++ [l]) k (payload.storeAll (writesTo k l)) := by
  obtain ⟨len, alignment, zeroed, base, bytes, hits, halloc, rfl⟩ := h
  refine ⟨len, alignment, zeroed, base, bytes, ?_, halloc, ?_⟩
  · obtain ⟨hlt, _⟩ := List.getElem?_eq_some_iff.mp hits
    rw [allocations_snoc, List.getElem?_append_left hlt, hits]
  · rw [List.flatMap_append, List.flatMap_singleton, AlignedBytes.storeAll, AlignedBytes.storeAll,
      AlignedBytes.storeAll, List.foldl_append]

/-- A step that allocates nothing may write to loans, and drop some. -/
theorem Written.keep (h : Written ls a) (hlength : a'.length = a.length)
    (hnone : l.allocates = false)
    (hloans : ∀ j loan', Loans.loan a' j = some loan' → ∃ loan, Loans.loan a j = some loan ∧
      loan'.payload = loan.payload.storeAll (writesTo j l))
    (hahead : ∀ j, a.length ≤ j → writesTo j l = []) : Written (ls ++ [l]) a' where
  length := by
    rw [hlength, h.length, allocations_snoc, hnone]
    simp
  payload := by
    intro j loan' hj
    obtain ⟨loan, hloan, hpayload⟩ := hloans j loan' hj
    rw [hpayload]
    exact (h.payload j loan hloan).snoc l
  ahead := by
    intro j hj
    rw [hlength] at hj
    rw [List.flatMap_append, List.flatMap_singleton, h.ahead j hj, hahead j hj]
    rfl

/-- The new loan is the next one, and nothing has been written through it. -/
theorem Written.allocate (h : Written ls a) {len alignment base : Nat} {zeroed : Bool}
    {bytes : AlignedBytes} (halloc : AlignedBytes.allocate len alignment zeroed = .ok bytes) :
    Written (ls ++ [.allocate len alignment zeroed base]) (a ++ [some ⟨bytes, zeroed⟩]) := by
  have hadded : allocations (ls ++ [.allocate len alignment zeroed base]) =
      allocations ls ++ [.allocate len alignment zeroed base] := by
    rw [allocations_snoc, LoanLabel.allocates, (AlignedBytes.allocate_eq_ok.mp halloc).1]
    rfl
  constructor
  case length => rw [List.length_append, h.length, hadded, List.length_append]; rfl
  case payload =>
    intro k loan hloan
    rw [Loans.loan, join_append] at hloan
    split at hloan
    · rename_i hk
      obtain rfl := Option.some.inj hloan
      refine ⟨len, alignment, zeroed, base, bytes, ?_, halloc, ?_⟩
      · rw [hadded, hk, h.length, List.getElem?_concat_length]
      · rw [List.flatMap_append, List.flatMap_singleton, h.ahead k (Nat.le_of_eq hk.symm)]
        rfl
    · exact (h.payload k loan hloan).snoc _
  case ahead =>
    intro k hk
    rw [List.length_append, List.length_singleton] at hk
    rw [List.flatMap_append, List.flatMap_singleton, h.ahead k (by omega)]
    rfl

theorem written_step (h : Written ls a) (hnext : Loans.next a l = some a') :
    Written (ls ++ [l]) a' := by
  cases l with
  | allocate len alignment zeroed base =>
    simp only [Loans.next] at hnext
    split at hnext
    · obtain rfl := Option.some.inj hnext
      exact h.allocate ‹_›
    · obtain rfl := Option.some.inj hnext
      refine h.keep rfl ?_ (fun j loan hj => ⟨loan, hj, rfl⟩) fun _ _ => rfl
      cases hvalid : layoutValid (max len 1) alignment with
      | false => exact hvalid
      | true =>
        rename_i hfails
        rw [AlignedBytes.allocate, if_pos hvalid] at hfails
        contradiction
  | write k i byte =>
    obtain ⟨loan, hloan, hwrite⟩ := Option.bind_eq_some_iff.mp hnext
    have hlt : k < a.length := lt_of_join hloan
    split at hwrite
    · obtain rfl := Option.some.inj hwrite
      refine h.keep List.length_set rfl ?_ ?_
      · intro j loan' hj
        rw [Loans.loan, join_set hlt] at hj
        split at hj
        · rename_i hkj
          obtain rfl := Option.some.inj hj
          exact ⟨loan, hkj ▸ hloan, by rw [writesTo, if_pos hkj]; rfl⟩
        · rename_i hkj
          exact ⟨loan', hj, by rw [writesTo, if_neg hkj]; rfl⟩
      · intro j hj
        rw [writesTo, if_neg (by omega)]
    · contradiction
  | assumeInit k =>
    obtain ⟨loan, hloan, hassume⟩ := Option.bind_eq_some_iff.mp hnext
    split at hassume
    · obtain rfl := Option.some.inj hassume
      refine h.keep List.length_set rfl ?_ fun _ _ => rfl
      intro j loan' hj
      rw [Loans.loan, join_set (lt_of_join hloan)] at hj
      split at hj
      · rename_i hkj
        obtain rfl := Option.some.inj hj
        exact ⟨loan, hkj ▸ hloan, rfl⟩
      · exact ⟨loan', hj, rfl⟩
    · contradiction
  | read k bytes =>
    obtain ⟨loan, hloan, hread⟩ := Option.bind_eq_some_iff.mp hnext
    split at hread
    · obtain rfl := Option.some.inj hread
      exact h.keep rfl rfl (fun j loan hj => ⟨loan, hj, rfl⟩) fun _ _ => rfl
    · contradiction
  | drop k =>
    obtain ⟨loan, hloan, hdrop⟩ := Option.bind_eq_some_iff.mp hnext
    obtain rfl := Option.some.inj hdrop
    refine h.keep List.length_set rfl ?_ fun _ _ => rfl
    intro j loan' hj
    rw [Loans.loan, join_set (lt_of_join hloan)] at hj
    split at hj
    · contradiction
    · exact ⟨loan', hj, rfl⟩

end holding

theorem run_written {tr : Trace Loans LoanLabel} {a : Loans} (h : InitRun loanValues tr a) :
    Written (tr.map Prod.snd) a := by
  refine run_invariant (P := fun tr a => Written (tr.map Prod.snd) a) ?_ ?_ h
  · intro a ha
    rw [show a = [] from ha]
    constructor
    case length => rfl
    case payload =>
      intro k loan hloan
      contradiction
    case ahead => exact fun _ _ => rfl
  · intro tr a l a' _ hi hstep
    rw [List.map_append]
    exact written_step hi hstep

/-- **Loans are values**: the run is one of the values, and what can be read of
    loan `k` is what the value holds: the bytes of its own allocation with the
    writes made through it, all of them initialized, whatever happens to the
    heap around it. -/
theorem loans_are_values (h : InitRun loanHeap tr result) {k : Nat} {answer : List UInt8}
    (hread : loanHeap.step result (.read k answer) result') :
    ∃ tr' a loan, InitRun loanValues tr' a ∧ tr'.map Prod.snd = tr.map Prod.snd ∧
      Loans.loan a k = some loan ∧ Holds (tr.map Prod.snd) k loan.payload ∧
      loan.payload.Initialized ∧ answer = loan.payload.asSlice := by
  obtain ⟨s, tr', rfl, howned, hrun, hlabels⟩ := run_values h
  have hmove : s.next (.read k answer) = some result' := hread
  obtain ⟨s', _, _, hnext⟩ := LoanHeap.next_ok howned hmove
  obtain ⟨loan, hloan, hanswer⟩ := Option.bind_eq_some_iff.mp hnext
  split at hanswer
  · rename_i hguard
    have hholds := (run_written hrun).payload k loan hloan
    rw [hlabels] at hholds
    refine ⟨tr', s.values, loan, hrun, hlabels, hloan, hholds, ?_, hguard.2.symm⟩
    rw [LoanHeap.values_loan] at hloan
    obtain ⟨raw, hraw, rfl⟩ := Option.map_eq_some_iff.mp hloan
    exact howned.written k raw hraw hguard.1
  · contradiction

theorem loans_are_values_run : ∃ tr result result', InitRun loanHeap tr result ∧
    loanHeap.step result (.read 0 [7, 8]) result' ∧
    ∃ tr' a loan, InitRun loanValues tr' a ∧ tr'.map Prod.snd = tr.map Prod.snd ∧
      Loans.loan a 0 = some loan ∧ Holds (tr.map Prod.snd) 0 loan.payload ∧
      loan.payload.Initialized ∧ [7, 8] = loan.payload.asSlice := by
  obtain ⟨tr, result, result', hexec, hread⟩ : ∃ tr result result',
      exec loanHeapNext (.ok ⟨Heap.empty, []⟩) loanRun = some (tr, result) ∧
        loanHeapNext result (.read 0 [7, 8]) = some result' :=
    ⟨_, _, _, rfl, rfl⟩
  have hrun : InitRun loanHeap tr result := ⟨_, rfl, run_of_exec hexec⟩
  exact ⟨tr, result, result', hrun, hread, loans_are_values hrun hread⟩

end runs

end UpTransportDds
