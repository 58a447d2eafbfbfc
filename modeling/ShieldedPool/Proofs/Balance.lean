import ShieldedPool.Statement

/-!
# Sums and balances

A sum of amounts is refused as soon as a prefix leaves the range. Prefixes only grow, so what decides is the exact total
(`sum_eq_ok_iff`), and a balance (`check_balance`) is accepted just when both exact totals are equal and in range
(`checkBalance_eq_ok_iff`).
-/

namespace ShieldedPool

/-! ## Results and errors -/

section
variable {ε ε' α β : Type}

theorem bind_eq_ok_iff {x : Except ε α} {f : α → Except ε β} {b : β} :
    (x >>= f) = .ok b ↔ ∃ a, x = .ok a ∧ f a = .ok b := by
  constructor
  · intro h
    cases x with
    | error e => cases h
    | ok a => exact ⟨a, rfl, h⟩
  · rintro ⟨a, rfl, hf⟩; exact hf

theorem mapError_eq_ok_iff {x : Except ε α} {f : ε → ε'} {a : α} : x.mapError f = .ok a ↔ x = .ok a := by
  cases x with
  | error e => exact ⟨by rintro ⟨⟩, by rintro ⟨⟩⟩
  | ok b => exact ⟨by rintro ⟨⟩; rfl, by rintro ⟨⟩; rfl⟩

theorem seq_eq_ok_iff {x : Except ε Unit} {y : Except ε α} {a : α} :
    (x >>= fun _ => y) = .ok a ↔ x = .ok () ∧ y = .ok a := by
  rw [bind_eq_ok_iff]
  exact ⟨fun ⟨_, hx, hy⟩ => ⟨hx, hy⟩, fun ⟨hx, hy⟩ => ⟨(), hx, hy⟩⟩

theorem seq_eq_error_iff {x : Except ε Unit} {y : Except ε α} {cause : ε} :
    (x >>= fun _ => y) = .error cause ↔ x = .error cause ∨ x = .ok () ∧ y = .error cause := by
  cases x with
  | error c => exact ⟨fun h => Or.inl (by cases h; rfl), by rintro (h | ⟨h, _⟩) <;> cases h; rfl⟩
  | ok u => exact ⟨fun h => Or.inr ⟨rfl, h⟩, by rintro (h | ⟨_, h⟩); cases h; exact h⟩

theorem mapError_eq_error_iff {x : Except ε α} {f : ε → ε'} {cause : ε'} :
    x.mapError f = .error cause ↔ ∃ c, x = .error c ∧ f c = cause := by
  cases x with
  | error e => exact ⟨fun h => ⟨e, rfl, Except.error.inj h⟩, by rintro ⟨c, ⟨⟩, rfl⟩; rfl⟩
  | ok b => exact ⟨by rintro ⟨⟩, by rintro ⟨c, ⟨⟩, _⟩⟩

/-- A check is passed when its condition holds and what follows is passed. -/
theorem guard_eq_ok_iff {p : Prop} [Decidable p] {x : Except ε α} {e : ε} {a : α} :
    (if p then x else throw e) = .ok a ↔ p ∧ x = .ok a := by
  by_cases h : p <;> simp [h, throw, throwThe, MonadExceptOf.throw]

/-- A check fails with its own error, or it is passed and what follows fails. -/
theorem guard_eq_error_iff {p : Prop} [Decidable p] {x : Except ε α} {e cause : ε} :
    (if p then x else throw e) = .error cause ↔ p ∧ x = .error cause ∨ ¬ p ∧ e = cause := by
  by_cases h : p <;> simp [h, throw, throwThe, MonadExceptOf.throw]

theorem guard_bind_eq_ok_iff {p : Prop} [Decidable p] {x : Except ε α} {e : ε} {f : β → Except ε α} {a : α} :
    (if p then x else throw e >>= f) = .ok a ↔ p ∧ x = .ok a := guard_eq_ok_iff

end

namespace Amount

variable {a b t : Amount} {l : List Amount}

theorem eq_iff : a = b ↔ a.zatoshis = b.zatoshis := by
  cases a; cases b; simp

theorem ofZatoshis_eq_ok_iff {n : Nat} : ofZatoshis n = .ok t ↔ t.zatoshis = n := by
  unfold ofZatoshis
  by_cases h : n ≤ maxMoney
  · simp only [h, dif_pos, Except.ok.injEq, eq_iff]
    exact eq_comm
  · simp only [h, dif_neg, not_false_eq_true, reduceCtorEq, false_iff]
    rintro rfl
    exact h t.le_maxMoney

/-- Two amounts fit into 64 bits together, so only the range can be left. -/
theorem add_eq_ofZatoshis (a b : Amount) : a.add b = ofZatoshis (a.zatoshis + b.zatoshis) := by
  have hcap : maxMoney + maxMoney < UInt64.size := by decide
  have ha := a.le_maxMoney
  have hb := b.le_maxMoney
  exact if_pos (by omega)

/-- The exact total. -/
def total : List Amount → Nat
  | [] => 0
  | a :: l => a.zatoshis + total l

theorem total_cons (a : Amount) (l : List Amount) : total (a :: l) = a.zatoshis + total l := rfl

theorem foldl_addTo_error (e : AmountError) (l : List Amount) : l.foldl addTo (.error e) = .error e := by
  induction l with
  | nil => rfl
  | cons a l ih => exact ih

theorem foldl_addTo_eq_ok_iff : l.foldl addTo (.ok a) = .ok t ↔ t.zatoshis = a.zatoshis + total l := by
  induction l generalizing a with
  | nil => rw [List.foldl_nil, Except.ok.injEq, eq_iff]; exact eq_comm
  | cons b l ih =>
    rw [List.foldl_cons, total_cons, ← Nat.add_assoc]
    change l.foldl addTo (a.add b) = .ok t ↔ _
    rw [add_eq_ofZatoshis]
    cases hs : ofZatoshis (a.zatoshis + b.zatoshis) with
    | ok s => rw [ih, ofZatoshis_eq_ok_iff.1 hs]
    | error e =>
      -- The sum so far is out of range, and the rest only makes it larger.
      have hout : ¬ a.zatoshis + b.zatoshis ≤ maxMoney := by
        intro hle
        rw [ofZatoshis, dif_pos hle] at hs
        cases hs
      have ht := t.le_maxMoney
      rw [foldl_addTo_error]
      constructor
      · intro h; cases h
      · intro h; omega

/-- **A sum is accepted with its exact total**, and only if that is an amount. -/
theorem sum_eq_ok_iff : sum l = .ok t ↔ t.zatoshis = total l := by
  rw [sum, foldl_addTo_eq_ok_iff, zero, Nat.zero_add]

end Amount

/-- Both sides have the same exact total, which is in range. -/
structure Balanced (vpubOld : Amount) (inputs : List Amount) (vpubNew : Amount) (outputs : List Amount) : Prop where
  eq : vpubOld.zatoshis + Amount.total inputs = vpubNew.zatoshis + Amount.total outputs
  le_maxMoney : vpubOld.zatoshis + Amount.total inputs ≤ maxMoney

theorem checkBalance_eq_ok_iff {vpubOld vpubNew : Amount} {inputs outputs : List Amount} :
    checkBalance vpubOld inputs vpubNew outputs = .ok () ↔ Balanced vpubOld inputs vpubNew outputs := by
  simp only [checkBalance, bind_eq_ok_iff, mapError_eq_ok_iff, Amount.sum_eq_ok_iff, Amount.total_cons, guard_eq_ok_iff]
  constructor
  · rintro ⟨lhs, hl, rhs, hr, rfl, _⟩
    exact ⟨by omega, by have := lhs.le_maxMoney; omega⟩
  · rintro ⟨he, hle⟩
    exact ⟨⟨_, hle⟩, rfl, ⟨_, hle⟩, he, rfl, rfl⟩

end ShieldedPool
