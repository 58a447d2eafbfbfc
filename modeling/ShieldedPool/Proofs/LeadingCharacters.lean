import ShieldedPool.KeyText
import ShieldedPool.Proofs.Base58

/-!
# How the text of a key begins

The version bytes of a format are chosen so that its texts begin with the same characters. Byte strings that begin with given
bytes and have one length are the numbers of an interval. If it lies between two neighbouring multiples of a power of 58
(`Brackets`), all of them have the same digits in front of that power and as many behind it (`digits_eq_append`), whatever
follows the version bytes: neither the key nor the checksum matters (`Brackets.exists_encode_eq`). What is left to check of a
format are two inequalities between numbers, and `mainnet_texts_begin` does so for the three kinds.
-/

namespace ShieldedPool

namespace Base58

variable {b n : Nat}

/-! ## Leading digits -/

theorem digits_eq_digits_div_append (hb : 1 < b) (hn : n ≠ 0) : digits b n = digits b (n / b) ++ [n % b] := by
  rw [digits, dif_neg (by omega)]

/-- The digits in front of a power of the base are those of the quotient, and the power says how many follow. -/
theorem digits_eq_append (hb : 1 < b) {j : Nat} (hn : n / b ^ j ≠ 0) :
    ∃ low, digits b n = digits b (n / b ^ j) ++ low ∧ low.length = j := by
  induction j generalizing n with
  | zero => exact ⟨[], by rw [Nat.pow_zero, Nat.div_one, List.append_nil], rfl⟩
  | succ j ih =>
    have hdiv : n / b ^ (j + 1) = n / b / b ^ j := by rw [Nat.pow_succ', Nat.div_div_eq_div_mul]
    have hpos : n ≠ 0 := by
      rintro rfl
      exact hn (Nat.zero_div _)
    rw [hdiv] at hn ⊢
    obtain ⟨low, hlow, hlength⟩ := ih hn
    refine ⟨low ++ [n % b], ?_, by rw [List.length_append, hlength, List.length_singleton]⟩
    rw [digits_eq_digits_div_append hb hpos, hlow, List.append_assoc]

theorem ofDigits_append (b : Nat) (k l : List Nat) : ofDigits b (k ++ l) = ofDigits b k * b ^ l.length + ofDigits b l := by
  rw [ofDigits_eq_reverse, ofDigits_eq_reverse, ofDigits_eq_reverse, List.reverse_append, Nat.ofDigits_append,
    List.length_reverse, Nat.add_comm, Nat.mul_comm]

theorem ofDigits_lt {l : List Nat} (hb : 1 < b) (hl : ∀ d ∈ l, d < b) : ofDigits b l < b ^ l.length := by
  have h := Nat.ofDigits_lt_base_pow_length hb fun d hd => hl d (List.mem_reverse.1 hd)
  rwa [← ofDigits_eq_reverse, List.length_reverse] at h

/-! ## Leading characters -/

/-- Whatever `width` bytes follow those of `first`, the text begins with the digits `ds`, and `count` more follow: the least
and the greatest number that such bytes can write lie between two neighbouring multiples of a power of 58. -/
structure Brackets (first : List UInt8) (width : Nat) (ds : List Nat) (count : Nat) : Prop where
  lt_base : ∀ d ∈ ds, d < 58
  lead_ne_zero : ∃ d ∈ ds.head?, d ≠ 0
  first_ne_zero : ∃ x ∈ first.head?, x ≠ 0
  least : ofDigits 58 ds * 58 ^ count ≤ ofDigits 256 (first.map UInt8.toNat) * 256 ^ width
  greatest : (ofDigits 256 (first.map UInt8.toNat) + 1) * 256 ^ width ≤ (ofDigits 58 ds + 1) * 58 ^ count

namespace Brackets

variable {first l : List UInt8} {ds : List Nat} {width count : Nat}

theorem dropWhile_eq (h : Brackets first width ds count) : ds.dropWhile (· == 0) = ds := by
  obtain ⟨d, hd, hne⟩ := h.lead_ne_zero
  obtain ⟨rest, rfl⟩ := List.head?_eq_some_iff.1 hd
  exact List.dropWhile_cons_of_neg (by simpa using hne)

theorem zeros_eq_nil (h : Brackets first width ds count) (l : List UInt8) : zeros ((first ++ l).map UInt8.toNat) = [] := by
  obtain ⟨x, hx, hne⟩ := h.first_ne_zero
  obtain ⟨rest, rfl⟩ := List.head?_eq_some_iff.1 hx
  have hvalue : x.toNat ≠ 0 := fun hzero => hne (UInt8.toNat_inj.1 hzero)
  exact List.takeWhile_cons_of_neg (by simpa using hvalue)

/-- The number of such a byte string, without its last `count` digits. -/
theorem div_eq (h : Brackets first l.length ds count) :
    ofDigits 256 ((first ++ l).map UInt8.toNat) / 58 ^ count = ofDigits 58 ds := by
  have hlow : ofDigits 256 (l.map UInt8.toNat) < 256 ^ (l.map UInt8.toNat).length :=
    ofDigits_lt (by decide) (List.forall_mem_map.2 fun x _ => x.toNat_lt)
  have hleast := h.least
  have hgreatest := h.greatest
  rw [List.length_map] at hlow
  rw [Nat.add_mul, Nat.one_mul] at hgreatest
  rw [List.map_append, ofDigits_append, List.length_map]
  exact Nat.div_eq_of_lt_le (by omega) (by omega)

/-- **Byte strings that begin alike have texts that begin alike**, and of one length. -/
theorem exists_encode_eq (h : Brackets first l.length ds count) :
    ∃ low, encode (first ++ l) = ds.map symbol ++ low ∧ low.length = count := by
  have hds : digits 58 (ofDigits 58 ds) = ds := by rw [digits_ofDigits (by decide) h.lt_base, h.dropWhile_eq]
  have hne : ofDigits 256 ((first ++ l).map UInt8.toNat) / 58 ^ count ≠ 0 := by
    rw [h.div_eq]
    intro hzero
    have hnil : ds = [] := by rw [← hds, hzero, digits, dif_pos (Or.inl rfl)]
    obtain ⟨d, hd, _⟩ := h.lead_ne_zero
    rw [hnil] at hd
    cases hd
  obtain ⟨low, hlow, hlength⟩ := digits_eq_append (by decide : 1 < 58) hne
  rw [h.div_eq, hds] at hlow
  refine ⟨low.map symbol, ?_, by rw [List.length_map, hlength]⟩
  rw [encode_eq, rebase, h.zeros_eq_nil, List.nil_append, hlow, List.map_append]

end Brackets

end Base58

/-! ## Kinds of keys -/

namespace KeyFormat

variable {α : Type} {f : KeyFormat α} {n : Network} {ds : List Nat} {start : String} {width count : Nat}

/-- The text of a key with any four bytes in the place of the checksum. -/
def textWith (f : KeyFormat α) (n : Network) (key : α) (check : Bytes 4) : List Char :=
  Base58.encode (f.version n.parameters ++ (f.payload key ++ check.toList))

theorem exists_toList_encode_eq (f : KeyFormat α) (n : Network) (key : α) :
    ∃ check, (f.encode ⟨n, key⟩).toList = f.textWith n key check := by
  have hsize : (Base58.checksum (f.version n.parameters ++ f.payload key)).toArray.size = 4 := by
    rw [List.size_toArray, Base58.length_checksum]
  refine ⟨⟨_, hsize⟩, ?_⟩
  rw [encode, Base58.encodeCheck, String.toList_ofList, textWith, ← List.append_assoc, Vector.toList_mk]

/-- The texts of a format on a network begin with the same characters and have one length, and would so with any four bytes
for their checksum. -/
def Begins (f : KeyFormat α) (n : Network) (start : String) (length : Nat) : Prop :=
  ∀ key, (start.toList <+: (f.encode ⟨n, key⟩).toList ∧ (f.encode ⟨n, key⟩).length = length) ∧
    ∀ check, start.toList <+: f.textWith n key check ∧ (f.textWith n key check).length = length

/-- Version bytes whose numbers are bracketed fix the characters that a text begins with. -/
theorem begins_of_brackets (hwidth : ∀ key, (f.payload key).length = width)
    (h : Base58.Brackets (f.version n.parameters) (width + 4) ds count) (hstart : ds.map Base58.symbol = start.toList) :
    f.Begins n start (ds.length + count) := by
  have htext (key : α) (check : Bytes 4) :
      start.toList <+: f.textWith n key check ∧ (f.textWith n key check).length = ds.length + count := by
    have hlength : (f.payload key ++ check.toList).length = width + 4 := by
      rw [List.length_append, hwidth, Vector.length_toList]
    rw [← hlength] at h
    obtain ⟨low, hlow, hcount⟩ := h.exists_encode_eq
    rw [textWith, hlow, ← hstart]
    exact ⟨List.prefix_append _ _, by rw [List.length_append, List.length_map, hcount]⟩
  intro key
  obtain ⟨check, hcheck⟩ := f.exists_toList_encode_eq n key
  refine ⟨?_, htext key⟩
  rw [← String.length_toList, hcheck]
  exact htext key check

/-- **Every text of the production network shows its kind.** An address begins with `zc`, a viewing key with `ZiVK` and a
spending key with `SK`, and the texts of one kind have one length, whatever the key and its checksum are. -/
theorem mainnet_texts_begin :
    address.Begins .mainnet "zc" 95 ∧ viewingKey.Begins .mainnet "ZiVK" 97 ∧ spendingKey.Begins .mainnet "SK" 52 := by
  refine ⟨?address, ?viewingKey, ?spendingKey⟩
  case address =>
    have hwidth (a : PaymentAddress) : (address.payload a).length = 64 := by simp [address]
    have h : Base58.Brackets (address.version Network.mainnet.parameters) (64 + 4) [57, 35] 93 :=
      ⟨by decide, by decide, by decide, by decide, by decide⟩
    exact begins_of_brackets hwidth h (by decide)
  case viewingKey =>
    have hwidth (k : ViewingKey) : (viewingKey.payload k).length = 64 := by simp [viewingKey]
    have h : Base58.Brackets (viewingKey.version Network.mainnet.parameters) (64 + 4) [32, 41, 28, 18] 93 :=
      ⟨by decide, by decide, by decide, by decide, by decide⟩
    exact begins_of_brackets hwidth h (by decide)
  case spendingKey =>
    have hwidth (k : SpendingKey) : (spendingKey.payload k).length = 32 := by simp [spendingKey]
    have h : Base58.Brackets (spendingKey.version Network.mainnet.parameters) (32 + 4) [25, 18] 50 :=
      ⟨by decide, by decide, by decide, by decide, by decide⟩
    exact begins_of_brackets hwidth h (by decide)

end KeyFormat

end ShieldedPool
