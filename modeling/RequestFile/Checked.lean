/-!
This module contains checks that collect what is wrong: a check gives either what it read or the list
of all problems in order.
-/

namespace Except

variable {ε α β : Type}

@[simp]
theorem ok_bind (x : α) (f : α → Except ε β) : (.ok x >>= f) = f x := rfl

theorem map_eq_ok_iff {f : α → β} {x : Except ε α} {b : β}
    : x.map f = .ok b ↔ ∃ a, x = .ok a ∧ f a = b := by
  cases x <;> simp [Except.map]

theorem bind_eq_ok_iff {f : α → Except ε β} {x : Except ε α} {b : β}
    : x >>= f = .ok b ↔ ∃ a, x = .ok a ∧ f a = .ok b := by
  cases x <;> simp [bind, Except.bind]

theorem bind_eq_error_iff {f : α → Except ε β} {x : Except ε α} {e : ε}
    : x >>= f = .error e ↔ x = .error e ∨ ∃ a, x = .ok a ∧ f a = .error e := by
  cases x <;> simp [bind, Except.bind]

theorem map_eq_error_iff {f : α → β} {x : Except ε α} {e : ε}
    : x.map f = .error e ↔ x = .error e := by
  cases x <;> simp [Except.map]

theorem mapError_eq_ok_iff {ε' : Type} {f : ε → ε'} {x : Except ε α} {a : α}
    : x.mapError f = .ok a ↔ x = .ok a := by
  constructor <;> intro h <;> cases x <;> cases h <;> rfl

theorem mapError_eq_error_iff {ε' : Type} {f : ε → ε'} {x : Except ε α} {e' : ε'}
    : x.mapError f = .error e' ↔ ∃ e, x = .error e ∧ f e = e' := by
  constructor
  · intro h
    cases x with
    | error e => exact ⟨e, rfl, Except.error.inj h⟩
    | ok a => cases h
  · rintro ⟨e, rfl, rfl⟩
    rfl

theorem exists_of_test (x : Except ε α) (test : α → Bool) (h : x.toOption.any test = true)
    : ∃ a, x = .ok a ∧ test a = true := by
  cases x with
  | error e => cases h
  | ok a => exact ⟨a, rfl, h⟩

end Except

namespace RequestFile

abbrev Checked (ε α : Type) := Except (List ε) α

namespace Checked

variable {ε α β γ : Type}

def problems : Checked ε α → List ε
  | .ok _ => []
  | .error problems => problems

def both (a : Checked ε α) (b : Checked ε β) : Checked ε (α × β) :=
  match a, b with
  | .ok x, .ok y => .ok (x, y)
  | a, b => .error (a.problems ++ b.problems)

def each (check : α → Checked ε β) : List α → Checked ε (List β)
  | [] => .ok []
  | x :: rest => (both (check x) (each check rest)).map fun (y, rest) => y :: rest

@[simp]
theorem problems_ok (x : α) : problems (.ok x : Checked ε α) = [] := rfl

@[simp]
theorem problems_error (es : List ε) : problems (.error es : Checked ε α) = es := rfl

@[simp]
theorem problems_both (a : Checked ε α) (b : Checked ε β) :
    (both a b).problems = a.problems ++ b.problems := by
  cases a <;> cases b <;> simp [both]

theorem both_eq_ok_iff {a : Checked ε α} {b : Checked ε β} {p : α × β} :
    both a b = .ok p ↔ a = .ok p.1 ∧ b = .ok p.2 := by
  cases a <;> cases b <;> simp [both, Prod.ext_iff]

end Checked

end RequestFile
