import Mathlib.Data.Nat.Find
import ShieldedPool.Proofs.Balance

/-!
# Sums that leave the range

A sum is checked after every amount, but prefixes only grow, so it is refused just when its exact total is out of range
(`sum_eq_ok_iff`). What it is refused for is the first prefix that is (`sum_eq_error_iff`), and never for leaving 64 bits. A
balance (`check_balance`) inherits this on both sides. Its verdict is about the two exact totals, so it does not depend on
the order of the notes (`sameVerdict_of_perm`); only the number that a refusal reports does.
-/

namespace ShieldedPool

namespace Amount

variable {a b t : Amount} {l k : List Amount} {n : Nat} {cause : AmountError}

/-! ## Exact totals -/

theorem total_append (l k : List Amount) : total (l ++ k) = total l + total k := by
  induction l with
  | nil => exact (Nat.zero_add _).symm
  | cons a l ih => rw [List.cons_append, total_cons, ih, total_cons, Nat.add_assoc]

theorem total_perm (h : l.Perm k) : total l = total k := by
  induction h with
  | nil => rfl
  | cons a _ ih => rw [total_cons, total_cons, ih]
  | swap a b l => rw [total_cons, total_cons, total_cons, total_cons, Nat.add_left_comm]
  | trans _ _ ih ih' => exact ih.trans ih'

/-- Prefixes only grow. -/
theorem total_take_le (l : List Amount) (n : Nat) : total (l.take n) ≤ total l := by
  have h := total_append (l.take n) (l.drop n)
  rw [List.take_append_drop] at h
  omega

/-- The first `n` amounts leave the range, and no fewer do. -/
structure ExceedsAt (l : List Amount) (n : Nat) : Prop where
  le_length : n ≤ l.length
  lt_total : maxMoney < total (l.take n)
  le_before : ∀ m < n, total (l.take m) ≤ maxMoney

/-- **A total is out of range just if there is a first prefix that is.** -/
theorem exists_exceedsAt_iff : (∃ n, ExceedsAt l n) ↔ maxMoney < total l := by
  constructor
  · rintro ⟨n, h⟩
    exact Nat.lt_of_lt_of_le h.lt_total (total_take_le l n)
  · intro h
    have hall : ∃ n, maxMoney < total (l.take n) := ⟨l.length, by rwa [List.take_length]⟩
    have hlength : Nat.find hall ≤ l.length := Nat.find_le (by rwa [List.take_length])
    exact ⟨Nat.find hall, hlength, Nat.find_spec hall, fun m hm => Nat.le_of_not_lt (Nat.find_min hall hm)⟩

/-! ## Four ways of adding -/

/-- Both ways of adding to a running total keep an error, and otherwise add. -/
theorem accumulate_eq_addTo : accumulate = addTo := by
  funext acc a
  cases acc <;> rfl

/-- The total of amounts that are given by reference, each looked up when its turn comes. -/
def sumRefs {ρ : Type} (get : ρ → Amount) (refs : List ρ) : Except AmountError Amount :=
  refs.foldl (fun acc r => addTo acc (get r)) (.ok zero)

theorem sumRefs_eq_sum {ρ : Type} (get : ρ → Amount) (refs : List ρ) : sumRefs get refs = sum (refs.map get) :=
  List.foldl_map.symm

/-! ## What a sum is refused for -/

theorem add_ne_overflow (a b : Amount) (lhs rhs : Nat) : a.add b ≠ .error (.additionOverflow lhs rhs) := by
  rw [add_eq_ofZatoshis, ofZatoshis]
  split <;> simp

theorem sum_append (l k : List Amount) : sum (l ++ k) = k.foldl addTo (sum l) := List.foldl_append

/-- An error, once reached, is kept. -/
theorem sum_append_of_error (h : sum l = .error cause) (k : List Amount) : sum (l ++ k) = .error cause := by
  rw [sum_append, h, foldl_addTo_error]

/-- **The first prefix out of range ends a sum.** Up to it everything has been added, and nothing after it counts. -/
theorem ExceedsAt.sum_eq (h : ExceedsAt l n) : sum l = .error (.constraint (total (l.take n))) := by
  obtain ⟨hlength, hover, hbefore⟩ := h
  cases n with
  | zero => simp [total] at hover
  | succ m =>
    have hlast : l.take (m + 1) = l.take m ++ [l[m]] := List.take_succ_eq_append_getElem hlength
    -- what comes before the last of these amounts is in range, so the addition of this one is what fails
    have hprefix : sum (l.take m) = .ok ⟨total (l.take m), hbefore m (Nat.lt_succ_self m)⟩ := sum_eq_ok_iff.2 rfl
    have htotal : total (l.take (m + 1)) = total (l.take m) + l[m].zatoshis := by
      rw [hlast, total_append]
      rfl
    have hstop : sum (l.take (m + 1)) = .error (.constraint (total (l.take (m + 1)))) := by
      rw [hlast, sum_append, hprefix, ← hlast, htotal]
      rw [htotal] at hover
      change add _ _ = _
      rw [add_eq_ofZatoshis]
      exact dif_neg (Nat.not_le_of_lt hover)
    rw [← List.take_append_drop (m + 1) l, sum_append_of_error hstop, List.take_append_drop]

/-- **What a sum is refused for** is the total of the first prefix out of range. -/
theorem sum_eq_error_iff : sum l = .error cause ↔ ∃ n, ExceedsAt l n ∧ cause = .constraint (total (l.take n)) := by
  constructor
  · intro h
    have hover : maxMoney < total l := by
      by_contra hle
      have hok : sum l = .ok ⟨total l, Nat.le_of_not_lt hle⟩ := sum_eq_ok_iff.2 rfl
      rw [h] at hok
      cases hok
    obtain ⟨n, hn⟩ := exists_exceedsAt_iff.2 hover
    rw [hn.sum_eq] at h
    exact ⟨n, hn, (Except.error.inj h).symm⟩
  · rintro ⟨n, hn, rfl⟩
    exact hn.sum_eq

theorem exists_sum_eq_ok_iff : (∃ t, sum l = .ok t) ↔ total l ≤ maxMoney := by
  simp only [sum_eq_ok_iff]
  constructor
  · rintro ⟨t, ht⟩
    exact ht ▸ t.le_maxMoney
  · intro h
    exact ⟨⟨total l, h⟩, rfl⟩

theorem exists_sum_eq_error_iff : (∃ cause, sum l = .error cause) ↔ maxMoney < total l := by
  rw [← exists_exceedsAt_iff]
  constructor
  · rintro ⟨_, h⟩
    obtain ⟨n, hn, _⟩ := sum_eq_error_iff.1 h
    exact ⟨n, hn⟩
  · rintro ⟨n, hn⟩
    exact ⟨_, hn.sum_eq⟩

end Amount

/-! ## Balances -/

/-- Two answers of a check agree, except that a nonsensical value may be reported by different numbers. -/
def SameVerdict (x y : Except ConstraintError Unit) : Prop :=
  x = y ∨ ∃ c d, x = .error (.nonsensicalValue c) ∧ y = .error (.nonsensicalValue d)

section
variable {vpubOld vpubNew lhs rhs : Amount} {inputs inputs' outputs outputs' : List Amount} {cause : AmountError}

/-- **How a balance fails**: its left side is out of range, or else its right side is, or else they differ. -/
theorem checkBalance_eq_error_iff {c : ConstraintError} :
    checkBalance vpubOld inputs vpubNew outputs = .error c ↔
      (∃ cause, Amount.sum (vpubOld :: inputs) = .error cause ∧ c = .nonsensicalValue cause) ∨
      ∃ lhs, Amount.sum (vpubOld :: inputs) = .ok lhs ∧
        ((∃ cause, Amount.sum (vpubNew :: outputs) = .error cause ∧ c = .nonsensicalValue cause) ∨
          ∃ rhs, Amount.sum (vpubNew :: outputs) = .ok rhs ∧ lhs ≠ rhs ∧ c = .unbalanced lhs rhs) := by
  unfold checkBalance
  cases Amount.sum (vpubOld :: inputs) with
  | error cause => simp [Except.mapError, bind, Except.bind, eq_comm]
  | ok lhs =>
    cases Amount.sum (vpubNew :: outputs) with
    | error cause => simp [Except.mapError, bind, Except.bind, eq_comm]
    | ok rhs =>
      by_cases h : lhs = rhs
      · simp [Except.mapError, bind, Except.bind, h, pure, Except.pure]
      · simp [Except.mapError, bind, Except.bind, h, throw, throwThe, MonadExceptOf.throw, eq_comm]

theorem checkBalance_eq_unbalanced_iff :
    checkBalance vpubOld inputs vpubNew outputs = .error (.unbalanced lhs rhs) ↔
      lhs.zatoshis = vpubOld.zatoshis + Amount.total inputs ∧ rhs.zatoshis = vpubNew.zatoshis + Amount.total outputs ∧
        lhs ≠ rhs := by
  simp only [checkBalance_eq_error_iff, Amount.sum_eq_ok_iff, Amount.total_cons, reduceCtorEq, and_false, exists_false,
    false_or, ConstraintError.unbalanced.injEq]
  constructor
  · rintro ⟨l, hl, r, hr, hne, rfl, rfl⟩
    exact ⟨hl, hr, hne⟩
  · rintro ⟨hl, hr, hne⟩
    exact ⟨lhs, hl, rhs, hr, hne, rfl, rfl⟩

theorem checkBalance_eq_nonsensical_iff :
    checkBalance vpubOld inputs vpubNew outputs = .error (.nonsensicalValue cause) ↔
      Amount.sum (vpubOld :: inputs) = .error cause ∨
        (∃ lhs, Amount.sum (vpubOld :: inputs) = .ok lhs) ∧ Amount.sum (vpubNew :: outputs) = .error cause := by
  simp [checkBalance_eq_error_iff]

theorem exists_checkBalance_eq_nonsensical_iff :
    (∃ cause, checkBalance vpubOld inputs vpubNew outputs = .error (.nonsensicalValue cause)) ↔
      ¬ (vpubOld.zatoshis + Amount.total inputs ≤ maxMoney ∧ vpubNew.zatoshis + Amount.total outputs ≤ maxMoney) := by
  simp only [checkBalance_eq_nonsensical_iff, exists_or, exists_and_left, Amount.exists_sum_eq_error_iff,
    Amount.exists_sum_eq_ok_iff, Amount.total_cons]
  omega

/-- **The order of the notes does not matter** for the verdict on a balance. -/
theorem sameVerdict_of_perm (hinputs : inputs'.Perm inputs) (houtputs : outputs'.Perm outputs) :
    SameVerdict (checkBalance vpubOld inputs' vpubNew outputs') (checkBalance vpubOld inputs vpubNew outputs) := by
  have hin := Amount.total_perm hinputs
  have hout := Amount.total_perm houtputs
  by_cases hrange :
      vpubOld.zatoshis + Amount.total inputs ≤ maxMoney ∧ vpubNew.zatoshis + Amount.total outputs ≤ maxMoney
  · obtain ⟨hl, hr⟩ := hrange
    by_cases heq : vpubOld.zatoshis + Amount.total inputs = vpubNew.zatoshis + Amount.total outputs
    · have hok : checkBalance vpubOld inputs vpubNew outputs = .ok () := checkBalance_eq_ok_iff.2 ⟨heq, hl⟩
      have hok' : checkBalance vpubOld inputs' vpubNew outputs' = .ok () :=
        checkBalance_eq_ok_iff.2 ⟨by rw [hin, hout, heq], by rwa [hin]⟩
      exact Or.inl (hok'.trans hok.symm)
    · have hne : (⟨_, hl⟩ : Amount) ≠ ⟨_, hr⟩ := fun h => heq (congrArg Amount.zatoshis h)
      have hdiffer : checkBalance vpubOld inputs vpubNew outputs = .error (.unbalanced ⟨_, hl⟩ ⟨_, hr⟩) :=
        checkBalance_eq_unbalanced_iff.2 ⟨rfl, rfl, hne⟩
      have hdiffer' : checkBalance vpubOld inputs' vpubNew outputs' = .error (.unbalanced ⟨_, hl⟩ ⟨_, hr⟩) :=
        checkBalance_eq_unbalanced_iff.2 ⟨by rw [hin], by rw [hout], hne⟩
      exact Or.inl (hdiffer'.trans hdiffer.symm)
  · obtain ⟨d, hd⟩ := exists_checkBalance_eq_nonsensical_iff.2 hrange
    rw [← hin, ← hout] at hrange
    obtain ⟨c, hc⟩ := exists_checkBalance_eq_nonsensical_iff.2 hrange
    exact Or.inr ⟨c, d, hc, hd⟩

end

/-- **Sums and balances are exact.** The four ways of adding up a list are one: a sum by value or by reference, and a running
total that is replaced or added to. They give the exact total if it is in range, and otherwise report the first prefix that
is not. No addition leaves 64 bits, and an error is kept. So a balance is accepted just when both exact totals are equal and
in range; in range and different, they are reported as they are; and out of range the value is nonsensical, for the first
prefix of the first side that is. No order of the notes changes the verdict. -/
theorem sums_and_balances_exact (l : List Amount) (vpubOld vpubNew : Amount) (inputs outputs : List Amount) :
    (l.foldl Amount.addTo (.ok .zero) = Amount.sum l ∧ l.foldl Amount.accumulate (.ok .zero) = Amount.sum l ∧
      ∀ (ρ : Type) (get : ρ → Amount) (refs : List ρ), refs.map get = l → Amount.sumRefs get refs = Amount.sum l) ∧
    ((∃ t, Amount.sum l = .ok t) ↔ Amount.total l ≤ maxMoney) ∧
    (∀ t, Amount.sum l = .ok t → t.zatoshis = Amount.total l) ∧
    (∀ cause, Amount.sum l = .error cause ↔
      ∃ n, Amount.ExceedsAt l n ∧ cause = .constraint (Amount.total (l.take n))) ∧
    (∀ a b lhs rhs, Amount.add a b ≠ .error (.additionOverflow lhs rhs)) ∧
    (∀ cause, l.foldl Amount.addTo (.error cause) = .error cause ∧
      l.foldl Amount.accumulate (.error cause) = .error cause) ∧
    (checkBalance vpubOld inputs vpubNew outputs = .ok () ↔ Balanced vpubOld inputs vpubNew outputs) ∧
    (∀ lhs rhs, checkBalance vpubOld inputs vpubNew outputs = .error (.unbalanced lhs rhs) ↔
      lhs.zatoshis = vpubOld.zatoshis + Amount.total inputs ∧ rhs.zatoshis = vpubNew.zatoshis + Amount.total outputs ∧
        lhs ≠ rhs) ∧
    ((∃ cause, checkBalance vpubOld inputs vpubNew outputs = .error (.nonsensicalValue cause)) ↔
      ¬ (vpubOld.zatoshis + Amount.total inputs ≤ maxMoney ∧ vpubNew.zatoshis + Amount.total outputs ≤ maxMoney)) ∧
    (∀ cause, checkBalance vpubOld inputs vpubNew outputs = .error (.nonsensicalValue cause) ↔
      Amount.sum (vpubOld :: inputs) = .error cause ∨
        (∃ lhs, Amount.sum (vpubOld :: inputs) = .ok lhs) ∧ Amount.sum (vpubNew :: outputs) = .error cause) ∧
    ∀ inputs' outputs', inputs'.Perm inputs → outputs'.Perm outputs →
      SameVerdict (checkBalance vpubOld inputs' vpubNew outputs') (checkBalance vpubOld inputs vpubNew outputs) := by
  refine ⟨⟨rfl, by rw [Amount.accumulate_eq_addTo]; rfl, ?_⟩, Amount.exists_sum_eq_ok_iff,
    fun _ => Amount.sum_eq_ok_iff.1, fun _ => Amount.sum_eq_error_iff, Amount.add_ne_overflow, fun cause => ?_,
    checkBalance_eq_ok_iff, fun _ _ => checkBalance_eq_unbalanced_iff, exists_checkBalance_eq_nonsensical_iff,
    fun _ => checkBalance_eq_nonsensical_iff, fun _ _ => sameVerdict_of_perm⟩
  · rintro ρ get refs rfl
    exact Amount.sumRefs_eq_sum get refs
  · rw [Amount.accumulate_eq_addTo]
    exact ⟨Amount.foldl_addTo_error cause l, Amount.foldl_addTo_error cause l⟩

end ShieldedPool
