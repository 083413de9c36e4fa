import Mathlib.Data.Seq.Basic
import UpTransportDds.Runtime.Config

/-! # Waiting for readiness

  `wait_ready` polls the publication-match count of the writer until enough
  readers have been discovered, an error occurs or the timeout has passed. The
  poll and the clock are the caller's surroundings: each pass of the loop is
  given the answer of its poll and the clock reading that follows it.

  Instants and durations are in nanoseconds. The last instant that the
  platform can represent is a parameter.
-/

namespace UpTransportDds

open Stream' (Seq)

/-! ### `wait_until` -/

/-- What one pass of the loop gets to see. -/
structure Pass where
  /-- The answer of `current_matches`. -/
  polled : Except DdsError Int32
  /-- `Instant::now()` after it. -/
  now : Nat

/-- `usize::try_from(count).unwrap_or_default()`. -/
def readers (count : Int32) : Nat := count.toInt.toNat

inductive WaitOutcome where
  /-- The loop goes on. -/
  | waiting
  /-- It has returned, after this many polls. -/
  | returned (polls : Nat) (result : Except UStatus Unit)
  | panicked

def timedOut (count : Int32) (requiredMatches : Nat) : UStatus :=
  ⟨.deadlineExceeded, "DDS discovery timed out with " ++ toString count.toInt ++
    " matched readers; required " ++ toString requiredMatches⟩

/-- The `loop` of `wait_until`, after `polls` polls. -/
def waitLoop (requiredMatches deadline : Nat) : Nat → List Pass → WaitOutcome
  | _, [] => .waiting
  | polls, pass :: passes =>
    match pass.polled with
    | .error error => .returned (polls + 1) (.error (ddsStatus "read readiness" error))
    | .ok count =>
      if requiredMatches ≤ readers count then
        .returned (polls + 1) (.ok ())
      else if deadline ≤ pass.now then
        .returned (polls + 1) (.error (timedOut count requiredMatches))
      else
        waitLoop requiredMatches deadline (polls + 1) passes

/-- `runtime::wait_until`, called at `start`. `Instant + Duration` panics when
    the sum is past the last instant. -/
def waitUntil (maxInstant : Nat) (passes : List Pass) (requiredMatches timeout start : Nat) :
    WaitOutcome :=
  if requiredMatches = 0 then
    .returned 0 (.ok ())
  else if maxInstant < start + timeout then
    .panicked
  else
    waitLoop requiredMatches (start + timeout) 0 passes

/-- `wait_ready` of all three families; the writer is gone once the transport
    is closed. -/
def waitReady (maxInstant : Nat) (writer : Option (List Pass))
    (requiredMatchedReaders timeout start : Nat) : WaitOutcome :=
  match writer with
  | none => .returned 0 (.error ⟨.unavailable, "transport is closed"⟩)
  | some passes => waitUntil maxInstant passes requiredMatchedReaders timeout start

/-! ### Where the loop stops -/

/-- A pass that ends the wait: with an error, with enough readers, or at or
    past the deadline. -/
def Pass.Stops (pass : Pass) (requiredMatches deadline : Nat) : Prop :=
  match pass.polled with
  | .error _ => True
  | .ok count => requiredMatches ≤ readers count ∨ deadline ≤ pass.now

/-- What a pass that ends the wait makes it answer. Enough readers count even
    if the deadline has passed. -/
def Pass.result (pass : Pass) (requiredMatches : Nat) : Except UStatus Unit :=
  match pass.polled with
  | .error error => .error (ddsStatus "read readiness" error)
  | .ok count =>
    if requiredMatches ≤ readers count then .ok () else .error (timedOut count requiredMatches)

section loop
variable {requiredMatches deadline polls i : Nat} {pass : Pass} {passes : List Pass}

theorem waitLoop_cons_stop (h : pass.Stops requiredMatches deadline) :
    waitLoop requiredMatches deadline polls (pass :: passes) =
      .returned (polls + 1) (pass.result requiredMatches) := by
  obtain ⟨polled, now⟩ := pass
  cases polled with
  | error error => rfl
  | ok count =>
    simp only [waitLoop, Pass.result]
    split
    · rfl
    · rename_i hfew
      have hlate : deadline ≤ now := h.resolve_left hfew
      rw [if_pos hlate]

theorem waitLoop_cons_pass (h : ¬ pass.Stops requiredMatches deadline) :
    waitLoop requiredMatches deadline polls (pass :: passes) =
      waitLoop requiredMatches deadline (polls + 1) passes := by
  obtain ⟨polled, now⟩ := pass
  cases polled with
  | error error => exact absurd trivial h
  | ok count =>
    obtain ⟨hfew, hearly⟩ := not_or.mp h
    simp only [waitLoop, if_neg hfew, if_neg hearly]

/-- The loop stops at the first pass that ends the wait. -/
theorem waitLoop_stop (hi : passes[i]? = some pass) (hstop : pass.Stops requiredMatches deadline)
    (hfirst : ∀ j < i, ∀ pass', passes[j]? = some pass' → ¬ pass'.Stops requiredMatches deadline) :
    waitLoop requiredMatches deadline polls passes =
      .returned (polls + i + 1) (pass.result requiredMatches) := by
  induction i generalizing polls passes with
  | zero =>
    obtain ⟨rest, rfl⟩ : ∃ rest, passes = pass :: rest := by
      cases passes with
      | nil => contradiction
      | cons pass' rest => exact ⟨rest, by rw [Option.some.inj hi]⟩
    exact waitLoop_cons_stop hstop
  | succ i ih =>
    cases passes with
    | nil => contradiction
    | cons pass' rest =>
      have hgoes : ¬ pass'.Stops requiredMatches deadline := hfirst 0 (Nat.succ_pos i) pass' rfl
      rw [waitLoop_cons_pass hgoes, ih hi]
      · congr 1
        omega
      · intro j hj
        exact hfirst (j + 1) (Nat.succ_lt_succ hj)

theorem waitLoop_waiting (h : ∀ pass ∈ passes, ¬ pass.Stops requiredMatches deadline) :
    waitLoop requiredMatches deadline polls passes = .waiting := by
  induction passes generalizing polls with
  | nil => rfl
  | cons pass rest ih =>
    rw [waitLoop_cons_pass (h pass List.mem_cons_self)]
    exact ih fun pass' hmem => h pass' (List.mem_cons_of_mem pass hmem)

end loop

/-! ### Exactness -/

/-- What is expected of a wait whose polls and clock readings are `passes`,
    finitely or infinitely many: it never panics; it returns at once if no
    reader is required; it stops at the first pass that ends it, with the
    answer of this pass, and at no other; and it does stop if some clock
    reading is at or past the deadline. -/
structure ExactWait (maxInstant requiredMatches timeout start : Nat) (passes : Seq Pass) :
    Prop where
  noPanic : ∀ n, waitUntil maxInstant (passes.take n) requiredMatches timeout start ≠ .panicked
  atOnce : requiredMatches = 0 →
    ∀ n, waitUntil maxInstant (passes.take n) requiredMatches timeout start =
      .returned 0 (.ok ())
  first : requiredMatches ≠ 0 → ∀ i pass, passes.get? i = some pass →
    pass.Stops requiredMatches (start + timeout) →
    (∀ j < i, ∀ pass', passes.get? j = some pass' →
      ¬ pass'.Stops requiredMatches (start + timeout)) →
    ∀ n, waitUntil maxInstant (passes.take n) requiredMatches timeout start =
      if i < n then .returned (i + 1) (pass.result requiredMatches) else .waiting
  goesOn : requiredMatches ≠ 0 →
    (∀ i pass, passes.get? i = some pass → ¬ pass.Stops requiredMatches (start + timeout)) →
    ∀ n, waitUntil maxInstant (passes.take n) requiredMatches timeout start = .waiting
  ends : (∃ i pass, passes.get? i = some pass ∧ start + timeout ≤ pass.now) →
    ∃ n polls result,
      waitUntil maxInstant (passes.take n) requiredMatches timeout start =
        .returned polls result

section exact
variable {maxInstant requiredMatches timeout start : Nat} {passes : Seq Pass}

theorem waitUntil_eq_loop (hrequired : requiredMatches ≠ 0) (hfits : start + timeout ≤ maxInstant)
    (prior : List Pass) :
    waitUntil maxInstant prior requiredMatches timeout start =
      waitLoop requiredMatches (start + timeout) 0 prior := by
  rw [waitUntil, if_neg hrequired, if_neg (Nat.not_lt.mpr hfits)]

theorem waitLoop_ne_panicked (prior : List Pass) (polls : Nat) {deadline : Nat} :
    waitLoop requiredMatches deadline polls prior ≠ .panicked := by
  induction prior generalizing polls with
  | nil => simp [waitLoop]
  | cons pass rest ih =>
    by_cases hstop : pass.Stops requiredMatches deadline
    · rw [waitLoop_cons_stop hstop]
      simp
    · rw [waitLoop_cons_pass hstop]
      exact ih (polls + 1)

/-- As long as no pass has ended it, the wait goes on. -/
theorem waiting_take {n : Nat} (hrequired : requiredMatches ≠ 0)
    (hfits : start + timeout ≤ maxInstant)
    (h : ∀ j < n, ∀ pass, passes.get? j = some pass →
      ¬ pass.Stops requiredMatches (start + timeout)) :
    waitUntil maxInstant (passes.take n) requiredMatches timeout start = .waiting := by
  rw [waitUntil_eq_loop hrequired hfits]
  apply waitLoop_waiting
  intro pass hmem
  obtain ⟨j, hj⟩ := List.mem_iff_getElem?.mp hmem
  rw [Seq.getElem?_take] at hj
  split at hj
  · rename_i hlt
    exact h j hlt pass hj
  · contradiction

/-- The wait ends with the first pass that ends it. -/
theorem returned_take {n i : Nat} {pass : Pass} (hrequired : requiredMatches ≠ 0)
    (hfits : start + timeout ≤ maxInstant) (hn : i < n) (hi : passes.get? i = some pass)
    (hstop : pass.Stops requiredMatches (start + timeout))
    (hfirst : ∀ j < i, ∀ pass', passes.get? j = some pass' →
      ¬ pass'.Stops requiredMatches (start + timeout)) :
    waitUntil maxInstant (passes.take n) requiredMatches timeout start =
      .returned (i + 1) (pass.result requiredMatches) := by
  have hlast : (passes.take n)[i]? = some pass := by
    rw [Seq.getElem?_take, if_pos hn, hi]
  have hearlier : ∀ j < i, ∀ pass', (passes.take n)[j]? = some pass' →
      ¬ pass'.Stops requiredMatches (start + timeout) := by
    intro j hj pass' hpass'
    rw [Seq.getElem?_take, if_pos (Nat.lt_trans hj hn)] at hpass'
    exact hfirst j hj pass' hpass'
  rw [waitUntil_eq_loop hrequired hfits, waitLoop_stop hlast hstop hearlier, Nat.zero_add]

/-- A wait that some pass ends has a first such pass. -/
theorem exists_first_stop {deadline : Nat}
    (h : ∃ i pass, passes.get? i = some pass ∧ pass.Stops requiredMatches deadline) :
    ∃ i pass, passes.get? i = some pass ∧ pass.Stops requiredMatches deadline ∧
      ∀ j < i, ∀ pass', passes.get? j = some pass' → ¬ pass'.Stops requiredMatches deadline := by
  classical
  obtain ⟨pass, hpass, hstop⟩ := Nat.find_spec h
  refine ⟨Nat.find h, pass, hpass, hstop, ?_⟩
  intro j hj pass' hpass' hstop'
  exact Nat.find_min h hj ⟨pass', hpass', hstop'⟩

theorem exact_of_none (hnone : requiredMatches = 0) :
    ExactWait maxInstant requiredMatches timeout start passes := by
  have hreturned : ∀ n, waitUntil maxInstant (passes.take n) requiredMatches timeout start =
      .returned 0 (.ok ()) := by
    intro n
    rw [waitUntil, if_pos hnone]
  refine ⟨?_, fun _ => hreturned, fun h => absurd hnone h, fun h => absurd hnone h, ?_⟩
  · intro n
    rw [hreturned n]
    simp
  · intro _
    exact ⟨0, _, _, hreturned 0⟩

theorem exact_of_fits (hfits : start + timeout ≤ maxInstant) :
    ExactWait maxInstant requiredMatches timeout start passes := by
  by_cases hrequired : requiredMatches = 0
  · exact exact_of_none hrequired
  · refine ⟨?_, fun h => absurd h hrequired, ?_, ?_, ?_⟩
    · intro n
      rw [waitUntil_eq_loop hrequired hfits]
      exact waitLoop_ne_panicked _ _
    · intro _ i pass hi hstop hfirst n
      split
      · rename_i hn
        exact returned_take hrequired hfits hn hi hstop hfirst
      · rename_i hn
        apply waiting_take hrequired hfits
        intro j hj
        exact hfirst j (by omega)
    · intro _ hnone n
      exact waiting_take hrequired hfits fun j _ => hnone j
    · rintro ⟨i, pass, hpass, hlate⟩
      have hstop : pass.Stops requiredMatches (start + timeout) := by
        unfold Pass.Stops
        split
        · trivial
        · exact .inr hlate
      obtain ⟨i, pass, hi, hstop, hfirst⟩ := exists_first_stop ⟨i, pass, hpass, hstop⟩
      exact ⟨i + 1, _, _, returned_take hrequired hfits (Nat.lt_succ_self i) hi hstop hfirst⟩

/-- **Waiting is exact** precisely if no reader is required or the deadline is
    an instant that can be represented. Otherwise `Instant + Duration` panics
    before the first poll. -/
theorem exact_iff_deadline_fits :
    ExactWait maxInstant requiredMatches timeout start passes ↔
      requiredMatches = 0 ∨ start + timeout ≤ maxInstant := by
  constructor
  · intro hexact
    by_contra hneither
    obtain ⟨hrequired, hlate⟩ := not_or.mp hneither
    apply hexact.noPanic 0
    rw [waitUntil, if_neg hrequired, if_pos (Nat.not_le.mp hlate)]
  · rintro (hnone | hfits)
    · exact exact_of_none hnone
    · exact exact_of_fits hfits

end exact

/-- The last instant of a 64-bit Unix: `i64::MAX` seconds and a fraction. -/
def unixInstantMax : Nat := (2 ^ 63 - 1) * 1000000000 + 999999999

/-- `Duration::MAX`: `u64::MAX` seconds and a fraction. -/
def durationMax : Nat := (2 ^ 64 - 1) * 1000000000 + 999999999

/-- Waiting forever for one reader panics, even if two are there already. -/
theorem wait_forever_panics :
    (∀ n, waitUntil unixInstantMax (Seq.take n (Seq.cons ⟨.ok 2, 0⟩ .nil)) 1 durationMax 0 =
      .panicked) ∧
    ¬ ExactWait unixInstantMax 1 durationMax 0 (Seq.cons ⟨.ok 2, 0⟩ .nil) := by
  have hlate : unixInstantMax < 0 + durationMax := by decide
  have hpanic : ∀ n, waitUntil unixInstantMax (Seq.take n (Seq.cons ⟨.ok 2, 0⟩ .nil)) 1
      durationMax 0 = .panicked := by
    intro n
    rw [waitUntil, if_neg (by decide), if_pos hlate]
  exact ⟨hpanic, fun hexact => hexact.noPanic 0 (hpanic 0)⟩

/-! ### `wait_ready` -/

section ready
variable {maxInstant requiredMatchedReaders timeout start polls : Nat} {passes : List Pass}

/-- The loop answers for the pass it stops at. -/
theorem waitLoop_returned {requiredMatches deadline polls' : Nat} {result : Except UStatus Unit}
    (h : waitLoop requiredMatches deadline polls' passes = .returned polls result) :
    ∃ i pass, passes[i]? = some pass ∧ polls = polls' + i + 1 ∧
      pass.Stops requiredMatches deadline ∧ result = pass.result requiredMatches := by
  induction passes generalizing polls' with
  | nil => simp [waitLoop] at h
  | cons pass rest ih =>
    by_cases hstop : pass.Stops requiredMatches deadline
    · rw [waitLoop_cons_stop hstop] at h
      obtain ⟨rfl, rfl⟩ := WaitOutcome.returned.inj h
      exact ⟨0, pass, rfl, rfl, hstop, rfl⟩
    · rw [waitLoop_cons_pass hstop] at h
      obtain ⟨i, pass', hi, rfl, hstop', rfl⟩ := ih h
      exact ⟨i + 1, pass', hi, by omega, hstop', rfl⟩

/-- Whatever `wait_ready` returns is due to a closed transport, to no reader
    being required, or to its last poll. -/
theorem waitReady_returned {writer : Option (List Pass)} {result : Except UStatus Unit}
    (h : waitReady maxInstant writer requiredMatchedReaders timeout start =
      .returned polls result) :
    (writer = none ∧ result = .error ⟨.unavailable, "transport is closed"⟩) ∨
    (requiredMatchedReaders = 0 ∧ result = .ok ()) ∨
    ∃ passes pass, writer = some passes ∧ passes[polls - 1]? = some pass ∧
      pass.Stops requiredMatchedReaders (start + timeout) ∧
      result = pass.result requiredMatchedReaders := by
  cases writer with
  | none => exact .inl ⟨rfl, (WaitOutcome.returned.inj h).2.symm⟩
  | some passes =>
    right
    simp only [waitReady, waitUntil] at h
    split at h
    · rename_i hnone
      exact .inl ⟨hnone, (WaitOutcome.returned.inj h).2.symm⟩
    · split at h
      · contradiction
      · obtain ⟨i, pass, hi, rfl, hstop, rfl⟩ := waitLoop_returned h
        refine .inr ⟨passes, pass, rfl, ?_, hstop, rfl⟩
        simpa using hi

end ready

end UpTransportDds
