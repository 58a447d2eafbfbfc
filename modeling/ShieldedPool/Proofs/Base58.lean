import Mathlib.Data.Nat.Digits.Lemmas
import ShieldedPool.Base58

/-!
# Base58Check is one to one

A byte string and its text are the digits of one number, in base 256 and in base 58, with the same number of zeros in front.
`rebase` goes from one base to the other and back (`rebase_rebase`), so no two byte strings have one text, and no two texts
are read as one byte string (`decode?_eq_some_iff`). The checksum is a function of what stands before it, so with it the same
holds of payloads (`decodeCheck?_eq_some_iff`).
-/

namespace ShieldedPool.Base58

variable {a b n : Nat} {l : List Nat}

/-! ## Digits -/

/-- The most significant digit comes first here. -/
theorem digits_eq_reverse (hb : 1 < b) (n : Nat) : digits b n = (Nat.digits b n).reverse := by
  induction n using digits.induct b with
  | case1 n h =>
    obtain rfl : n = 0 := by omega
    rw [digits, dif_pos h, Nat.digits_zero, List.reverse_nil]
  | case2 n h ih =>
    have hn : 0 < n := by omega
    rw [digits, dif_neg h, ih, Nat.digits_def' hb hn, List.reverse_cons]

theorem ofDigits_eq_reverse (b : Nat) (l : List Nat) : ofDigits b l = Nat.ofDigits b l.reverse := by
  rw [ofDigits, List.foldl_eq_foldr_reverse, Nat.ofDigits_eq_foldr]
  simp only [Nat.cast_id, Nat.add_comm]

theorem lt_of_mem_digits (hb : 1 < b) : ∀ d ∈ digits b n, d < b := by
  intro d hd
  rw [digits_eq_reverse hb, List.mem_reverse] at hd
  exact Nat.digits_lt_base hb hd

theorem ofDigits_digits (hb : 1 < b) (n : Nat) : ofDigits b (digits b n) = n := by
  rw [ofDigits_eq_reverse, digits_eq_reverse hb, List.reverse_reverse, Nat.ofDigits_digits]

/-- Zeros in front of the digits do not change the number. -/
theorem ofDigits_append_of_zeros {z : List Nat} (hz : ∀ d ∈ z, d = 0) (l : List Nat) :
    ofDigits b (z ++ l) = ofDigits b l := by
  induction z with
  | nil => rfl
  | cons d z ih =>
    obtain rfl := hz d List.mem_cons_self
    exact ih fun x hx => hz x (List.mem_cons_of_mem _ hx)

/-- The zeros that a list of digits begins with. -/
def zeros (l : List Nat) : List Nat := l.takeWhile (· == 0)

theorem eq_zero_of_mem_zeros {d : Nat} (hd : d ∈ zeros l) : d = 0 := by
  simpa using List.all_eq_true.1 List.all_takeWhile d hd

theorem zeros_append_dropWhile (l : List Nat) : zeros l ++ l.dropWhile (· == 0) = l := List.takeWhile_append_dropWhile

/-- **Digits are read back**, but for zeros in front of them. -/
theorem digits_ofDigits (hb : 1 < b) (hl : ∀ d ∈ l, d < b) : digits b (ofDigits b l) = l.dropWhile (· == 0) := by
  have hvalue : ofDigits b l = ofDigits b (l.dropWhile (· == 0)) := by
    conv_lhs => rw [← zeros_append_dropWhile l]
    exact ofDigits_append_of_zeros (fun _ => eq_zero_of_mem_zeros) _
  rw [hvalue, digits_eq_reverse hb, ofDigits_eq_reverse, Nat.digits_ofDigits b hb, List.reverse_reverse]
  · intro d hd
    exact hl d ((List.dropWhile_suffix _).mem (List.mem_reverse.1 hd))
  · intro hne
    have hhead := List.head_dropWhile_not (· == 0) (mt List.reverse_eq_nil_iff.2 hne)
    rw [List.getLast_reverse]
    simpa using hhead

theorem zeros_digits (hb : 1 < b) (n : Nat) : zeros (digits b n) = [] := by
  have hdrop : (digits b n).dropWhile (· == 0) = digits b n := by
    rw [← digits_ofDigits hb (lt_of_mem_digits hb), ofDigits_digits hb]
  have hsplit := zeros_append_dropWhile (digits b n)
  rw [hdrop] at hsplit
  exact List.append_left_eq_self.1 hsplit

/-! ## From one base to another -/

/-- The digits of the same number in another base, with as many zeros in front. -/
def rebase (a b : Nat) (l : List Nat) : List Nat := zeros l ++ digits b (ofDigits a l)

theorem lt_of_mem_rebase (hb : 1 < b) : ∀ d ∈ rebase a b l, d < b := by
  intro d hd
  rcases List.mem_append.1 hd with hd | hd
  · have := eq_zero_of_mem_zeros hd
    omega
  · exact lt_of_mem_digits hb d hd

/-- **There and back again.** -/
theorem rebase_rebase (ha : 1 < a) (hb : 1 < b) (hl : ∀ d ∈ l, d < a) : rebase b a (rebase a b l) = l := by
  have hzeros : zeros (rebase a b l) = zeros l := by
    rw [rebase, zeros, List.takeWhile_append_of_pos fun d hd => by simpa using eq_zero_of_mem_zeros hd, ← zeros,
      zeros_digits hb, List.append_nil]
  have hvalue : ofDigits b (rebase a b l) = ofDigits a l := by
    rw [rebase, ofDigits_append_of_zeros fun _ => eq_zero_of_mem_zeros, ofDigits_digits hb]
  rw [rebase, hzeros, hvalue, digits_ofDigits ha hl, zeros_append_dropWhile]

/-! ## Text -/

/-- The character of a digit. -/
def symbol (d : Nat) : Char := alphabet.getD d '1'

theorem digit?_eq_some_iff {c : Char} {d : Nat} : digit? c = some d ↔ d < 58 ∧ symbol d = c := by
  constructor
  · intro h
    obtain ⟨hd, hc, _⟩ := List.idxOf?_eq_some_iff.1 h
    exact ⟨hd, by rw [symbol, List.getD_eq_getElem?_getD, List.getElem?_eq_getElem hd, hc, Option.getD_some]⟩
  · rintro ⟨hd, rfl⟩
    have hall : ∀ d < 58, digit? (symbol d) = some d := by decide
    exact hall d hd

theorem mapM_digit?_eq_some_iff {text : List Char} :
    text.mapM digit? = some l ↔ (∀ d ∈ l, d < 58) ∧ l.map symbol = text := by
  induction text generalizing l with
  | nil =>
    rw [List.mapM_nil, Option.pure_def, Option.some_inj, List.map_eq_nil_iff]
    exact ⟨by rintro rfl; simp, fun h => h.2.symm⟩
  | cons c text ih =>
    simp only [List.mapM_cons, Option.bind_eq_bind, Option.bind_eq_some_iff, digit?_eq_some_iff, ih, Option.pure_def,
      Option.some_inj]
    constructor
    · rintro ⟨d, ⟨hd, rfl⟩, ds, ⟨hds, rfl⟩, rfl⟩
      exact ⟨List.forall_mem_cons.2 ⟨hd, hds⟩, rfl⟩
    · rintro ⟨hl, htext⟩
      cases l with
      | nil => cases htext
      | cons d ds =>
        obtain ⟨hd, hds⟩ := List.forall_mem_cons.1 hl
        obtain ⟨hc, hrest⟩ := List.cons_eq_cons.1 htext
        exact ⟨d, ⟨hd, hc⟩, ds, ⟨hds, hrest⟩, rfl⟩

theorem zeros_map_toNat (l : List UInt8) : zeros (l.map UInt8.toNat) = (l.takeWhile (· == 0)).map fun _ => 0 := by
  have hzero : ((· == 0) ∘ UInt8.toNat : UInt8 → Bool) = (· == 0) := by
    ext x
    simp [← UInt8.toNat_inj]
  rw [zeros, List.takeWhile_map, hzero]
  refine List.map_congr_left fun x hx => ?_
  have hx : x = 0 := by simpa using List.all_eq_true.1 List.all_takeWhile x hx
  rw [hx]
  rfl

theorem encode_eq (l : List UInt8) : encode l = (rebase 256 58 (l.map UInt8.toNat)).map symbol := by
  have hvalue : Bytes.toNatBE l = ofDigits 256 (l.map UInt8.toNat) := by rw [ofDigits, List.foldl_map, Bytes.toNatBE]
  rw [encode, rebase, List.map_append, zeros_map_toNat, List.map_map, hvalue]
  rfl

theorem decode?_eq (text : List Char) :
    decode? text = (text.mapM digit?).map fun ds => (rebase 58 256 ds).map UInt8.ofNat := by
  rw [decode?]
  cases text.mapM digit? with
  | none => rfl
  | some ds =>
    have hzeros : (ds.takeWhile (· == 0)).map (fun _ => (0 : UInt8)) = (zeros ds).map UInt8.ofNat :=
      List.map_congr_left fun d hd => by rw [eq_zero_of_mem_zeros hd]; rfl
    rw [Option.map_some, rebase, List.map_append, ← hzeros]
    rfl

theorem map_ofNat_map_toNat (l : List UInt8) : (l.map UInt8.toNat).map UInt8.ofNat = l := by
  simp [Function.comp_def]

theorem map_toNat_map_ofNat (hl : ∀ d ∈ l, d < 256) : (l.map UInt8.ofNat).map UInt8.toNat = l := by
  rw [List.map_map]
  exact List.map_congr_left (g := id) (fun d hd => UInt8.toNat_ofNat_of_lt' (hl d hd)) |>.trans (List.map_id l)

/-- **A text is read as the byte string that it is the text of**, and otherwise refused. -/
theorem decode?_eq_some_iff {text : List Char} {l : List UInt8} : decode? text = some l ↔ encode l = text := by
  rw [decode?_eq, Option.map_eq_some_iff, encode_eq]
  constructor
  · rintro ⟨ds, hds, rfl⟩
    obtain ⟨hlt, rfl⟩ := mapM_digit?_eq_some_iff.1 hds
    rw [map_toNat_map_ofNat (lt_of_mem_rebase (by decide)), rebase_rebase (by decide) (by decide) hlt]
  · rintro rfl
    refine ⟨rebase 256 58 (l.map UInt8.toNat), mapM_digit?_eq_some_iff.2 ⟨lt_of_mem_rebase (by decide), rfl⟩, ?_⟩
    have hlt : ∀ d ∈ l.map UInt8.toNat, d < 256 := List.forall_mem_map.2 fun x _ => x.toNat_lt
    rw [rebase_rebase (by decide) (by decide) hlt, map_ofNat_map_toNat]

/-! ## With a checksum -/

theorem length_checksum (payload : List UInt8) : (checksum payload).length = 4 := by
  rw [checksum, List.length_take, Vector.length_toList]
  rfl

/-- **A text is read as the payload that it is the text of**, and otherwise refused. -/
theorem decodeCheck?_eq_some_iff {text : String} {payload : List UInt8} :
    decodeCheck? text = some payload ↔ encodeCheck payload = text := by
  have hcheck := length_checksum payload
  simp only [decodeCheck?, encodeCheck, Option.bind_eq_bind, Option.bind_eq_some_iff, decode?_eq_some_iff]
  constructor
  · rintro ⟨l, hl, h⟩
    split at h
    · rename_i hsum
      cases h
      rw [← hsum.2, List.take_append_drop, hl, String.ofList_toList]
    · cases h
  · rintro rfl
    refine ⟨payload ++ checksum payload, String.toList_ofList.symm, ?_⟩
    have hlength : (payload ++ checksum payload).length - 4 = payload.length := by
      rw [List.length_append]
      omega
    rw [hlength, List.take_left, List.drop_left, if_pos ⟨by rw [List.length_append]; omega, rfl⟩]

theorem encodeCheck_inj {p q : List UInt8} : encodeCheck p = encodeCheck q ↔ p = q := by
  constructor
  · intro h
    exact Option.some_inj.1 ((decodeCheck?_eq_some_iff.2 rfl).symm.trans (decodeCheck?_eq_some_iff.2 h.symm))
  · rintro rfl; rfl

end ShieldedPool.Base58
