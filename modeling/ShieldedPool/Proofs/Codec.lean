import ShieldedPool.Note.Plaintext
import ShieldedPool.Proofs.Balance

/-!
# Reading back what was written

A format is canonical when its decoder accepts what the encoding writes, whatever follows, and nothing else
(`Decoder.Reads`). Strings of a fixed width are read so, and a format that is a row of canonical fields inherits it. The one
field that is not copied as it stands is a number: `toNat_ofNat` and `ofNat_toNat` say that a number and its low bytes
determine each other.

What is refused is put together in the same way. A field of a fixed width takes any bytes, and is refused only where they end
(`Decoder.Takes`); an amount is also refused for its number (`Amount.decode_eq`). A format of both fails for its first amount
out of range, or else for want of bytes (`Decoder.Fails`, `Amount.fails_bind`), and a note plaintext for its first byte before
all else (`NotePlaintext.decode_eq_error_iff`).
-/

namespace ShieldedPool

/-! ## Integers -/

namespace Bytes

variable {n v : Nat}

/-- The number that the bytes of a list write, the lowest one first. -/
def listToNat (l : List UInt8) : Nat := l.foldr (fun x acc => x.toNat + 256 * acc) 0

theorem toNat_eq_listToNat (b : Bytes n) : b.toNat = listToNat b.toList := rfl

theorem listToNat_cons (x : UInt8) (l : List UInt8) : listToNat (x :: l) = x.toNat + 256 * listToNat l := rfl

/-- The lowest byte comes first, and the others write what is left of the number. -/
theorem toList_ofNat_succ (n v : Nat) : (ofNat (n + 1) v).toList = UInt8.ofNat v :: (ofNat n (v / 256)).toList := by
  have hshift : v / 256 = v >>> 8 := (Nat.shiftRight_eq_div_pow v 8).symm
  rw [hshift]
  refine List.ext_getElem (by simp) fun i hi _ => ?_
  cases i with
  | zero => simp [ofNat]
  | succ i => simp [ofNat, ← Nat.shiftRight_add, Nat.mul_add, Nat.add_comm]

/-- A number is read back from its low bytes, if it fits into them. -/
theorem toNat_ofNat (hv : v < 1 <<< (8 * n)) : (ofNat n v).toNat = v := by
  induction n generalizing v with
  | zero =>
    have hzero : v = 0 := Nat.lt_one_iff.1 hv
    rw [hzero]
    rfl
  | succ n ih =>
    -- one more byte leaves room for 256 times as much
    have hcap : 1 <<< (8 * (n + 1)) = 1 <<< (8 * n) <<< 8 := by rw [← Nat.shiftLeft_add, Nat.mul_add]
    have hrest : (ofNat n (v / 256)).toNat = v / 256 := ih (by omega)
    rw [toNat_eq_listToNat] at hrest ⊢
    rw [toList_ofNat_succ, listToNat_cons, hrest, UInt8.toNat_ofNat']
    exact Nat.mod_add_div v 256

theorem toList_ofNat_listToNat (l : List UInt8) : (ofNat l.length (listToNat l)).toList = l := by
  induction l with
  | nil => rfl
  | cons x l ih =>
    have hx : x.toNat < 256 := x.toNat_lt
    have hrest : (x.toNat + 256 * listToNat l) / 256 = listToNat l := by omega
    have hfirst : UInt8.ofNat (x.toNat + 256 * listToNat l) = x := by
      apply UInt8.toNat_inj.1
      rw [UInt8.toNat_ofNat']
      omega
    rw [List.length_cons, toList_ofNat_succ, listToNat_cons, hrest, ih, hfirst]

theorem listToNat_lt (l : List UInt8) : listToNat l < 1 <<< (8 * l.length) := by
  induction l with
  | nil => decide
  | cons x l ih =>
    have hx : x.toNat < 256 := x.toNat_lt
    have hcap : 1 <<< (8 * (x :: l).length) = 1 <<< (8 * l.length) <<< 8 := by
      rw [List.length_cons, ← Nat.shiftLeft_add, Nat.mul_add]
    rw [listToNat_cons]
    omega

theorem toNat_lt (b : Bytes n) : b.toNat < 1 <<< (8 * n) := by
  have h := listToNat_lt b.toList
  rwa [Vector.length_toList] at h

/-- Bytes are the low bytes of the number that they write. -/
theorem ofNat_toNat (b : Bytes n) : ofNat n b.toNat = b := by
  have h := toList_ofNat_listToNat b.toList
  rw [Vector.length_toList] at h
  exact Vector.toList_inj.1 h

end Bytes

/-! ## Decoders -/

namespace Decoder

section
variable {α β : Type} {d : Decoder α} {f : α → Decoder β} {p : Prop} [Decidable p] {l rest : List UInt8} {b : β}

theorem pure_eq_ok_iff {a : β} : (pure a : Decoder β) l = .ok (b, rest) ↔ a = b ∧ l = rest := by
  change Except.ok (a, l) = _ ↔ _
  rw [Except.ok.injEq, Prod.mk.injEq]

theorem bind_run_eq_ok_iff : (d >>= f) l = .ok (b, rest) ↔ ∃ a mid, d l = .ok (a, mid) ∧ f a mid = .ok (b, rest) := by
  change ((d l) >>= fun p => f p.1 p.2) = _ ↔ _
  rw [bind_eq_ok_iff]
  exact Prod.exists

/-- A check reads nothing, and what follows it is read only if it is passed. -/
theorem guard_run_eq_ok_iff {d : Decoder β} {g : α → Decoder β} {e : DecodeError} :
    (if p then throw e >>= g else d) l = .ok (b, rest) ↔ ¬ p ∧ d l = .ok (b, rest) := by
  by_cases h : p
  · rw [if_pos h]
    exact ⟨fun hd => (by cases hd), fun hd => absurd h hd.1⟩
  · rw [if_neg h]
    exact ⟨fun hd => ⟨h, hd⟩, fun hd => hd.2⟩

end

variable {α : Type} {d : Decoder α} {encode : α → List UInt8}

/-- The decoder reads just what the encoding writes, and leaves what follows it. -/
def Reads (d : Decoder α) (encode : α → List UInt8) : Prop :=
  ∀ l a rest, d l = .ok (a, rest) ↔ l = encode a ++ rest

theorem reads_bytes (n : Nat) : (bytes n).Reads Vector.toList := by
  intro l b rest
  unfold bytes
  by_cases h : n ≤ l.length
  · rw [dif_pos h, Except.ok.injEq, Prod.mk.injEq, ← Vector.toList_inj, Bytes.toList_ofPrefix]
    constructor
    · rintro ⟨hb, hr⟩
      rw [← hb, ← hr, List.take_append_drop]
    · rintro rfl
      have hlen : b.toList.length = n := Vector.length_toList
      exact ⟨List.take_left' hlen, List.drop_left' hlen⟩
  · rw [dif_neg h]
    constructor
    · intro hd; cases hd
    · rintro rfl
      simp at h

theorem bind_run_eq_error_iff {β : Type} {f : α → Decoder β} {l : List UInt8} {cause : DecodeError} :
    (d >>= f) l = .error cause ↔ d l = .error cause ∨ ∃ a mid, d l = .ok (a, mid) ∧ f a mid = .error cause := by
  change ((d l) >>= fun p => f p.1 p.2) = _ ↔ _
  cases h : d l with
  | error c =>
    constructor
    · intro he
      exact Or.inl (by cases he; rfl)
    · rintro (he | ⟨_, _, ⟨⟩, _⟩)
      cases he
      rfl
  | ok p =>
    constructor
    · intro he
      exact Or.inr ⟨p.1, p.2, rfl, he⟩
    · rintro (⟨⟨⟩⟩ | ⟨_, _, ⟨⟩, he⟩)
      exact he

theorem bind_run_of_ok {β : Type} {f : α → Decoder β} {l rest : List UInt8} {a : α} (h : d l = .ok (a, rest)) :
    (d >>= f) l = f a rest := by
  change ((d l) >>= fun p => f p.1 p.2) = _
  rw [h]
  rfl

/-- A field whose type is a name for another's is read as that. -/
theorem Reads.map {β : Type} (hd : d.Reads encode) (wrap : α → β) (unwrap : β → α) (hw : ∀ b, wrap (unwrap b) = b)
    (hu : ∀ a, unwrap (wrap a) = a) : (wrap <$> d).Reads fun b => encode (unwrap b) := by
  intro l b rest
  simp only [map_eq_pure_bind, bind_run_eq_ok_iff, hd _ _ _, pure_eq_ok_iff]
  constructor
  · rintro ⟨a, _, rfl, rfl, rfl⟩
    rw [hu]
  · rintro rfl
    exact ⟨unwrap b, rest, rfl, hw b, rfl⟩

theorem exists_eq_pair (v : Vector α 2) : ∃ a b, v = #v[a, b] := by
  obtain ⟨⟨l⟩, hl⟩ := v
  match l, hl with
  | [a, b], _ => exact ⟨a, b, rfl⟩

theorem Reads.pair (hd : d.Reads encode) : (pair d).Reads fun v => v.toList.flatMap encode := by
  intro l v rest
  obtain ⟨a, b, rfl⟩ := exists_eq_pair v
  have hpair : (#v[a, b].toList).flatMap encode ++ rest = encode a ++ (encode b ++ rest) := by
    rw [← List.append_assoc, ← List.append_nil (encode b)]
    rfl
  simp only [Decoder.pair, bind_run_eq_ok_iff, hd _ _ _, pure_eq_ok_iff, hpair]
  constructor
  · rintro ⟨x, _, rfl, y, _, rfl, hv, rfl⟩
    obtain ⟨rfl, rfl⟩ : x = a ∧ y = b := by simpa using hv
    rfl
  · rintro rfl
    exact ⟨a, _, rfl, b, rest, rfl, rfl, rfl⟩

/-! ### Fixed widths -/

/-- The decoder takes `n` bytes, whatever they are, and fails only where there are fewer. -/
structure Takes (d : Decoder α) (n : Nat) : Prop where
  exists_eq_ok : ∀ l, n ≤ l.length → ∃ a, d l = .ok (a, l.drop n)
  eq_error : ∀ l, l.length < n → d l = .error .unexpectedEnd

theorem takes_bytes (n : Nat) : (bytes n).Takes n :=
  ⟨fun _ h => ⟨_, dif_pos h⟩, fun _ h => dif_neg (Nat.not_le_of_lt h)⟩

theorem takes_pure (a : α) : (pure a : Decoder α).Takes 0 :=
  ⟨fun _ _ => ⟨a, rfl⟩, fun _ h => absurd h (Nat.not_lt_zero _)⟩

theorem Takes.bind {β : Type} {f : α → Decoder β} {m n : Nat} (hd : d.Takes m) (hf : ∀ a, (f a).Takes n) :
    (d >>= f).Takes (m + n) := by
  constructor
  · intro l hl
    obtain ⟨a, ha⟩ := hd.exists_eq_ok l (by omega)
    obtain ⟨b, hb⟩ := (hf a).exists_eq_ok (l.drop m) (by rw [List.length_drop]; omega)
    rw [List.drop_drop] at hb
    exact ⟨b, bind_run_eq_ok_iff.2 ⟨a, l.drop m, ha, hb⟩⟩
  · intro l hl
    rw [bind_run_eq_error_iff]
    by_cases hm : l.length < m
    · exact Or.inl (hd.eq_error l hm)
    · obtain ⟨a, ha⟩ := hd.exists_eq_ok l (by omega)
      exact Or.inr ⟨a, l.drop m, ha, (hf a).eq_error _ (by rw [List.length_drop]; omega)⟩

theorem Takes.map {β : Type} {n : Nat} (hd : d.Takes n) (f : α → β) : (f <$> d).Takes n := by
  rw [map_eq_pure_bind]
  exact hd.bind fun a => takes_pure (f a)

theorem Takes.pair {n : Nat} (hd : d.Takes n) : (pair d).Takes (n + n) :=
  hd.bind fun a => hd.map fun b => #v[a, b]

/-- Reading fails for a number that is refused as an amount, or else for want of `n` bytes. -/
def Fails (d : Decoder α) (refused : List UInt8 → Nat → Prop) (n : Nat) : Prop :=
  ∀ l cause, d l = .error cause ↔ (∃ v, refused l v ∧ cause = .amount (.constraint v)) ∨
    (∀ v, ¬ refused l v) ∧ l.length < n ∧ cause = .unexpectedEnd

theorem Fails.congr {refused refused' : List UInt8 → Nat → Prop} {n : Nat} (hd : d.Fails refused n)
    (h : ∀ l v, refused l v ↔ refused' l v) : d.Fails refused' n := by
  intro l cause
  simp only [hd l cause, h]

theorem Takes.fails {n : Nat} (hd : d.Takes n) : d.Fails (fun _ _ => False) n := by
  intro l cause
  simp only [false_and, exists_false, not_false_eq_true, implies_true, true_and, false_or]
  by_cases h : l.length < n
  · rw [hd.eq_error l h, Except.error.injEq]
    exact ⟨fun hc => ⟨h, hc.symm⟩, fun hc => hc.2.symm⟩
  · obtain ⟨a, ha⟩ := hd.exists_eq_ok l (by omega)
    rw [ha]
    exact iff_of_false (fun hc => by cases hc) fun hc => h hc.1

end Decoder

/-! ## Amounts -/

namespace Amount

variable {a c : Amount}

/-- Eight bytes hold an amount just when they are its encoding. -/
theorem ofBytes_eq_ok_iff {b : Bytes 8} : ofBytes b = .ok a ↔ b = a.toBytes := by
  rw [ofBytes, ofZatoshis_eq_ok_iff, toBytes]
  constructor
  · intro h
    rw [h, Bytes.ofNat_toNat]
  · intro h
    have hcap : maxMoney < 1 <<< (8 * 8) := by decide
    have ha := a.le_maxMoney
    rw [h, Bytes.toNat_ofNat (by omega)]

theorem toBytes_inj : a.toBytes = c.toBytes ↔ a = c := by
  constructor
  · intro h
    have ha : ofBytes c.toBytes = .ok a := ofBytes_eq_ok_iff.2 h.symm
    exact Except.ok.inj (ha.symm.trans (ofBytes_eq_ok_iff.2 rfl))
  · rintro rfl; rfl

theorem reads_decode : decode.Reads fun a => a.toBytes.toList := by
  intro l a rest
  simp only [decode, Decoder.bind_run_eq_ok_iff, Decoder.reads_bytes _ _ _ _]
  constructor
  · rintro ⟨b, mid, rfl, h⟩
    cases hb : ofBytes b with
    | error e => rw [hb] at h; cases h
    | ok c =>
      rw [hb] at h
      obtain ⟨rfl, rfl⟩ := Decoder.pure_eq_ok_iff.1 h
      rw [ofBytes_eq_ok_iff.1 hb]
  · rintro rfl
    refine ⟨a.toBytes, rest, rfl, ?_⟩
    rw [ofBytes_eq_ok_iff.2 rfl]
    rfl

/-- The number in the eight bytes from `start` on, if they are there. -/
def numberAt? (l : List UInt8) (start : Nat) : Option Nat :=
  if start + 8 ≤ l.length then some (Bytes.listToNat ((l.drop start).take 8)) else none

theorem numberAt?_drop (l : List UInt8) (m start : Nat) : numberAt? (l.drop m) start = numberAt? l (m + start) := by
  rw [numberAt?, numberAt?, List.drop_drop, List.length_drop]
  by_cases h : m + start + 8 ≤ l.length
  · rw [if_pos h, if_pos (by omega)]
  · rw [if_neg h, if_neg (by omega)]

theorem numberAt?_eq_none_iff {l : List UInt8} {start : Nat} : numberAt? l start = none ↔ l.length < start + 8 := by
  rw [numberAt?]
  split <;> simp <;> omega

theorem decode_append (b : Bytes 8) (rest : List UInt8) :
    decode (b.toList ++ rest) = if h : b.toNat ≤ maxMoney then .ok (⟨b.toNat, h⟩, rest)
      else .error (.amount (.constraint b.toNat)) := by
  have hread : Decoder.bytes 8 (b.toList ++ rest) = .ok (b, rest) := (Decoder.reads_bytes 8 _ _ _).2 rfl
  rw [decode, Decoder.bind_run_of_ok hread, ofBytes, ofZatoshis]
  by_cases h : b.toNat ≤ maxMoney
  · rw [dif_pos h, dif_pos h]
    rfl
  · rw [dif_neg h, dif_neg h]
    rfl

/-- **What reading an amount does**: a number in range is read, one out of range is refused. -/
theorem decode_eq (l : List UInt8) :
    decode l = match numberAt? l 0 with
      | none => .error .unexpectedEnd
      | some v => if h : v ≤ maxMoney then .ok (⟨v, h⟩, l.drop 8) else .error (.amount (.constraint v)) := by
  by_cases hl : 8 ≤ l.length
  · have hread : decode l = decode ((Bytes.ofPrefix l hl).toList ++ l.drop 8) := by
      rw [Bytes.toList_ofPrefix, List.take_append_drop]
    have hnumber : numberAt? l 0 = some (Bytes.ofPrefix l hl).toNat := by
      rw [Bytes.toNat_eq_listToNat, Bytes.toList_ofPrefix]
      exact if_pos (by omega)
    rw [hread, decode_append, hnumber]
  · have hshort : decode l = .error .unexpectedEnd :=
      Decoder.bind_run_eq_error_iff.2 (Or.inl ((Decoder.takes_bytes 8).eq_error l (by omega)))
    rw [hshort, numberAt?_eq_none_iff.2 (by omega)]

/-- A number stands there that is an amount. -/
def AcceptedAt (l : List UInt8) (start : Nat) : Prop := ∃ u, numberAt? l start = some u ∧ u ≤ maxMoney

/-- A number stands there that is none. -/
def RefusedAt (l : List UInt8) (start v : Nat) : Prop := numberAt? l start = some v ∧ maxMoney < v

theorem refusedAt_drop {l : List UInt8} {m start v : Nat} : RefusedAt (l.drop m) start v ↔ RefusedAt l (m + start) v := by
  rw [RefusedAt, RefusedAt, numberAt?_drop]

/-- **A format that begins with an amount** fails for that amount, or else for what the rest of it fails for. -/
theorem fails_bind {α : Type} {f : Amount → Decoder α} {refused : List UInt8 → Nat → Prop} {n : Nat}
    (hf : ∀ a, (f a).Fails refused n) :
    (decode >>= f).Fails (fun l v => RefusedAt l 0 v ∨ AcceptedAt l 0 ∧ refused (l.drop 8) v) (8 + n) := by
  intro l cause
  have hdecode := decode_eq l
  cases h0 : numberAt? l 0 with
  | none =>
    rw [h0] at hdecode
    have hlen : l.length < 8 := numberAt?_eq_none_iff.1 h0
    have hrun : (decode >>= f) l = .error .unexpectedEnd := Decoder.bind_run_eq_error_iff.2 (Or.inl hdecode)
    have hnone (v : Nat) : ¬ (RefusedAt l 0 v ∨ AcceptedAt l 0 ∧ refused (l.drop 8) v) := by
      simp [RefusedAt, AcceptedAt, h0]
    rw [hrun, Except.error.injEq]
    constructor
    · rintro rfl
      exact Or.inr ⟨hnone, by omega, rfl⟩
    · rintro (⟨v, hv, _⟩ | ⟨_, _, rfl⟩)
      · exact absurd hv (hnone v)
      · rfl
  | some u =>
    rw [h0] at hdecode
    by_cases hu : u ≤ maxMoney
    · have hlen : 8 ≤ l.length := by
        have h := mt numberAt?_eq_none_iff.2 (by rw [h0]; exact Option.some_ne_none u)
        omega
      have hrun : (decode >>= f) l = f ⟨u, hu⟩ (l.drop 8) := Decoder.bind_run_of_ok (hdecode.trans (dif_pos hu))
      have hrefused (v : Nat) : RefusedAt l 0 v ∨ AcceptedAt l 0 ∧ refused (l.drop 8) v ↔ refused (l.drop 8) v := by
        simp only [RefusedAt, AcceptedAt, h0, Option.some.injEq, exists_eq_left', hu, true_and]
        exact or_iff_right fun h => by omega
      have hshort : (l.drop 8).length < n ↔ l.length < 8 + n := by
        rw [List.length_drop]
        omega
      rw [hrun, hf]
      simp only [hrefused, hshort]
    · have hrun : (decode >>= f) l = .error (.amount (.constraint u)) :=
        Decoder.bind_run_eq_error_iff.2 (Or.inl (hdecode.trans (dif_neg hu)))
      have hrefused (v : Nat) : RefusedAt l 0 v ∨ AcceptedAt l 0 ∧ refused (l.drop 8) v ↔ u = v := by
        simp only [RefusedAt, AcceptedAt, h0, Option.some.injEq, exists_eq_left', hu, false_and, or_false]
        exact and_iff_left_of_imp fun h => by omega
      rw [hrun, Except.error.injEq]
      simp only [hrefused, exists_eq_left']
      constructor
      · exact fun h => Or.inl h.symm
      · rintro (h | ⟨h, _⟩)
        · exact h.symm
        · exact absurd rfl (h u)

end Amount

/-! ## Note plaintexts -/

theorem NotePlaintext.reads_decode : NotePlaintext.decode.Reads encode := by
  intro l p rest
  simp only [decode, Decoder.bind_run_eq_ok_iff, Decoder.guard_run_eq_ok_iff, Decoder.reads_bytes _ _ _ _,
    Amount.reads_decode _ _ _, Decoder.pure_eq_ok_iff, ne_eq, Decidable.not_not]
  constructor
  · rintro ⟨first, _, rfl, hlead, value, _, rfl, rho, _, rfl, rcm, _, rfl, memo, _, rfl, rfl, rfl⟩
    -- the lead has been read as a string, and only its one byte has been checked
    obtain rfl : first = #v[lead] := by
      ext i hi
      obtain rfl : i = 0 := by omega
      rw [hlead]
      rfl
    simp only [encode, List.append_assoc, List.cons_append]
    rfl
  · rintro rfl
    refine ⟨#v[lead], _, ?_, rfl, p.value, _, rfl, p.rho.bytes, _, rfl, p.rcm.bytes, _, rfl, p.memo.bytes, rest, rfl,
      rfl, rfl⟩
    simp only [encode, List.append_assoc, List.cons_append]
    rfl

namespace NotePlaintext

/-- The fields after the lead. -/
def fields : Decoder NotePlaintext := do
  let value ← Amount.decode
  let rho ← Decoder.bytes 32
  let rcm ← Decoder.bytes 32
  let memo ← Decoder.bytes 512
  return ⟨value, ⟨rho⟩, ⟨rcm⟩, ⟨memo⟩⟩

theorem decode_cons (b : UInt8) (l : List UInt8) :
    decode (b :: l) = if b = lead then fields l else .error (.malformed .plaintextLead) := by
  have hread : Decoder.bytes 1 (b :: l) = .ok (#v[b], l) := (Decoder.reads_bytes 1 _ _ _).2 rfl
  rw [decode, Decoder.bind_run_of_ok hread]
  by_cases h : b = lead
  · rw [if_pos h]
    exact congrFun (if_neg fun hne => hne h) l
  · rw [if_neg h]
    exact congrFun (if_pos h) l

theorem fails_fields : fields.Fails (fun l v => Amount.RefusedAt l 0 v) (size - 1) := by
  have hfails : fields.Fails _ (8 + (32 + (32 + 512))) := Amount.fails_bind fun _ => Decoder.Takes.fails <|
    (Decoder.takes_bytes 32).bind fun _ => (Decoder.takes_bytes 32).bind fun _ => (Decoder.takes_bytes 512).bind fun _ =>
    Decoder.takes_pure _
  exact hfails.congr fun l v => by simp

/-- There is a first byte, and it is not the lead. -/
def BadLead (l : List UInt8) : Prop := ∃ b ∈ l.head?, b ≠ lead

/-- **What is refused as a plaintext**: another lead, then a number out of range, then too few bytes. -/
theorem decode_eq_error_iff {l : List UInt8} {cause : DecodeError} :
    decode l = .error cause ↔ BadLead l ∧ cause = .malformed .plaintextLead ∨
      ¬ BadLead l ∧ ((∃ v, Amount.RefusedAt l 1 v ∧ cause = .amount (.constraint v)) ∨
        (∀ v, ¬ Amount.RefusedAt l 1 v) ∧ l.length < size ∧ cause = .unexpectedEnd) := by
  cases l with
  | nil =>
    have hempty : decode [] = .error .unexpectedEnd := rfl
    rw [hempty]
    simp [BadLead, Amount.RefusedAt, Amount.numberAt?, size, eq_comm]
  | cons b l =>
    rw [decode_cons]
    by_cases hb : b = lead
    · have hgood : ¬ BadLead (b :: l) := by simp [BadLead, hb]
      have hrefused (v : Nat) : Amount.RefusedAt l 0 v ↔ Amount.RefusedAt (b :: l) 1 v :=
        @Amount.refusedAt_drop (b :: l) 1 0 v
      have hlen : l.length < size - 1 ↔ (b :: l).length < size := by
        rw [List.length_cons, size]
        omega
      rw [if_pos hb, fails_fields l cause]
      simp only [hgood, hrefused, hlen, false_and, false_or, not_false_eq_true, true_and]
    · have hbad : BadLead (b :: l) := ⟨b, rfl, hb⟩
      rw [if_neg hb, Except.error.injEq]
      simp only [hbad, true_and, not_true_eq_false, false_and, or_false]
      exact eq_comm

end NotePlaintext

end ShieldedPool
