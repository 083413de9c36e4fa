import Mathlib.Tactic.Common

/-! # Fallible codecs

  Partial encoders and decoders whose steps fail with a text, the optional
  field that travels as a flag and a value, and what it means that such a
  format loses nothing and has one spelling for each value.
-/

namespace Codec

/-! ### Chains of fallible steps -/

section steps
variable {α β : Type} {x : Except String α} {a : α} {b : β} {context : String}

/-- The step `x`, whose error is reported in a context. -/
def step (context : String) (x : Except String α) : Except String α :=
  x.mapError fun error => context ++ ": " ++ error

@[simp] theorem step_eq_ok : step context x = .ok a ↔ x = .ok a := by
  cases x <;> simp [step, Except.mapError]

theorem bind_eq_ok {ε : Type} {x : Except ε α} {f : α → Except ε β} :
    x.bind f = .ok b ↔ ∃ a, x = .ok a ∧ f a = .ok b := by
  cases x <;> simp [Except.bind]

end steps

/-! ### Optional fields -/

section optional
variable {α : Type} {field : Option (List α)} {flag : Bool} {value : List α}

/-- An optional field as a flag and a value that is empty without the flag. -/
def flagged : Option (List α) → Bool × List α
  | none => (false, [])
  | some value => (true, value)

/-- The optional field that a flag and a value stand for. -/
def unflagged (flag : Bool) (value : List α) : Option (List α) :=
  if flag then some value else none

/-- There is no value without the flag. -/
def Consistent (flag : Bool) (value : List α) : Prop := flag = true ∨ value = []

@[simp] theorem unflagged_flagged : unflagged (flagged field).1 (flagged field).2 = field := by
  cases field <;> rfl

theorem consistent_flagged : Consistent (flagged field).1 (flagged field).2 := by
  cases field with
  | none => exact .inr rfl
  | some value => exact .inl rfl

/-- A consistent pair is the only one for its field. -/
theorem flagged_unflagged (h : Consistent flag value) :
    flagged (unflagged flag value) = (flag, value) := by
  rcases h with hflag | hvalue
  · rw [hflag]
    rfl
  · rw [hvalue]
    cases flag <;> rfl

end optional

/-! ### Faithful formats -/

section faithful
variable {Value Wire Fields Error : Type} {Sends : Value → Wire → Prop}
  {decode : Wire → Except Error Value} {fields : Wire → Fields} {Good : Value → Prop}

/-- What is sent is received as it was, and what is accepted has, in these
    fields, the one spelling that sending it gives. -/
structure Faithful (Sends : Value → Wire → Prop) (decode : Wire → Except Error Value)
    (fields : Wire → Fields) (Good : Value → Prop) : Prop where
  sends : ∀ v, Good v → ∃ w, Sends v w
  roundTrip : ∀ v w, Good v → Sends v w → decode w = .ok v
  good : ∀ w v, decode w = .ok v → Good v
  canonical : ∀ w v w', decode w = .ok v → Sends v w' → fields w' = fields w

/-- Two accepted wires of one value agree. -/
theorem Faithful.agree (h : Faithful Sends decode fields Good) {w w' : Wire} {v : Value}
    (hw : decode w = .ok v) (hw' : decode w' = .ok v) : fields w = fields w' := by
  obtain ⟨sent, hsent⟩ := h.sends v (h.good w v hw)
  rw [← h.canonical w v sent hw hsent, ← h.canonical w' v sent hw' hsent]

end faithful

end Codec
