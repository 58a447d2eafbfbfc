import ShieldedPool.KeyText
import ShieldedPool.Proofs.Base58
import ShieldedPool.Proofs.Codec

/-!
# The text of a key

A text is read (`decode`) as the key that it is the text of, and under the network of its version bytes. This comes from
three facts on each kind of key: its version bytes are told apart (`Versioned`), the key is read back from its payload, and
the payload has one width (`HasWidth`). What an address and a spending key are read from is their only text; a viewing key is
clamped, and has other texts than its own (`texts_canonical`).
-/

namespace ShieldedPool

/-- The network that a text is read under: the test networks share their version bytes. -/
def Network.readAs : Network → Network
  | .mainnet => .mainnet
  | .testnet | .regtest => .testnet

theorem SpendingKey.ofBytes?_eq_some_iff {b : Bytes 32} {k : SpendingKey} : ofBytes? b = some k ↔ k.bytes = b := by
  unfold ofBytes?
  constructor
  · intro h
    split at h
    · cases h; rfl
    · cases h
  · rintro rfl
    exact dif_pos k.mask252_bytes

/-- A receiving key is what its own bytes are read as. -/
theorem ReceivingKey.ofBytes_bytes (k : ReceivingKey) : ofBytes k.bytes = k := by
  obtain ⟨b, hb⟩ := k
  simp only [ofBytes, hb]

namespace KeyFormat

variable {α β : Type} {f : KeyFormat α} {g : KeyFormat β} {text : String} {l : List UInt8} {n : Network} {k : α} {v w : Nat}

/-! ## Version bytes -/

/-- The version bytes tell the candidates apart, and those of every network are a candidate's. -/
structure Versioned (f : KeyFormat α) : Prop where
  eq_of_isPrefix : ∀ m ∈ candidates, ∀ n ∈ candidates, f.version m.parameters <+: f.version n.parameters → m = n
  version_readAs : ∀ n : Network, f.version n.readAs.parameters = f.version n.parameters

theorem readAs_mem_candidates (n : Network) : n.readAs ∈ candidates := by
  cases n <;> decide

theorem address_versioned : address.Versioned := ⟨by decide, by rintro (_ | _ | _) <;> rfl⟩

theorem viewingKey_versioned : viewingKey.Versioned := ⟨by decide, by rintro (_ | _ | _) <;> rfl⟩

theorem spendingKey_versioned : spendingKey.Versioned := ⟨by decide, by rintro (_ | _ | _) <;> rfl⟩

theorem mem_and_isPrefix_of_find? (h : candidates.find? (fun n => (f.version n.parameters).isPrefixOf l) = some n) :
    n ∈ candidates ∧ f.version n.parameters <+: l := by
  have hprefix := List.find?_some h
  exact ⟨List.mem_of_find?_eq_some h, List.isPrefixOf_iff_prefix.1 hprefix⟩

theorem Versioned.find?_eq_some_iff (hf : f.Versioned) :
    candidates.find? (fun n => (f.version n.parameters).isPrefixOf l) = some n ↔
      n ∈ candidates ∧ f.version n.parameters <+: l := by
  refine ⟨mem_and_isPrefix_of_find?, fun ⟨hn, hl⟩ => ?_⟩
  cases h : candidates.find? fun n => (f.version n.parameters).isPrefixOf l with
  | none => exact absurd (List.isPrefixOf_iff_prefix.2 hl) (List.find?_eq_none.1 h n hn)
  | some m =>
    obtain ⟨hm, hml⟩ := mem_and_isPrefix_of_find? h
    -- of two that begin one string, the shorter begins the other
    rcases List.prefix_or_prefix_of_prefix hml hl with hp | hp
    · rw [hf.eq_of_isPrefix m hm n hn hp]
    · rw [hf.eq_of_isPrefix n hn m hm hp]

/-! ## Reading -/

variable {e : Encoded α}

theorem decodePayload_eq_ok_iff : f.decodePayload n l = .ok e ↔ e.network = n ∧ f.decode l = .ok (e.key, []) := by
  rw [decodePayload, bind_eq_ok_iff]
  constructor
  · rintro ⟨⟨key, rest⟩, hl, h⟩
    cases rest with
    | nil => cases h; exact ⟨rfl, hl⟩
    | cons x rest => cases h
  · rintro ⟨rfl, hl⟩
    exact ⟨_, hl, rfl⟩

/-- **What is read**: the payload of a Base58Check text, after the version bytes of a candidate. -/
theorem Versioned.parse_eq_ok_iff (hf : f.Versioned) :
    f.parse text = .ok e ↔ e.network ∈ candidates ∧
      ∃ l, Base58.encodeCheck (f.version e.network.parameters ++ l) = text ∧ f.decode l = .ok (e.key, []) := by
  simp only [← Base58.decodeCheck?_eq_some_iff]
  unfold parse
  cases hp : Base58.decodeCheck? text with
  | none => exact iff_of_false (fun h => by cases h) (by rintro ⟨_, l, ⟨⟩, _⟩)
  | some p =>
    dsimp only
    constructor
    · intro h
      cases hn : candidates.find? fun n => (f.version n.parameters).isPrefixOf p with
      | none => rw [hn] at h; cases h
      | some n =>
        rw [hn] at h
        obtain ⟨rfl, hdecode⟩ := decodePayload_eq_ok_iff.1 h
        obtain ⟨hmem, l, rfl⟩ := hf.find?_eq_some_iff.1 hn
        rw [List.drop_left] at hdecode
        exact ⟨hmem, l, rfl, hdecode⟩
    · rintro ⟨hmem, l, hl, hdecode⟩
      cases hl
      rw [hf.find?_eq_some_iff.2 ⟨hmem, List.prefix_append _ _⟩]
      exact decodePayload_eq_ok_iff.2 ⟨rfl, by rw [List.drop_left, hdecode]⟩

/-- **A key is read back**, under the network that has its version bytes. -/
theorem Versioned.parse_encode (hf : f.Versioned) (hk : f.decode (f.payload k) = .ok (k, [])) (n : Network) :
    f.parse (f.encode ⟨n, k⟩) = .ok ⟨n.readAs, k⟩ := by
  refine hf.parse_eq_ok_iff.2 ⟨readAs_mem_candidates n, f.payload k, ?_, hk⟩
  rw [encode, hf.version_readAs]

/-! ## Payloads -/

theorem address_reads : address.decode.Reads address.payload := by
  intro l a rest
  simp only [address, Decoder.bind_run_eq_ok_iff, Decoder.reads_bytes _ _ _ _, Decoder.pure_eq_ok_iff]
  constructor
  · rintro ⟨payingKey, _, rfl, transmissionKey, _, rfl, rfl, rfl⟩
    rw [List.append_assoc]
  · rintro rfl
    rw [List.append_assoc]
    exact ⟨a.payingKey.bytes, _, rfl, a.transmissionKey.bytes, rest, rfl, rfl, rfl⟩

theorem spendingKey_reads : spendingKey.decode.Reads spendingKey.payload := by
  intro l k rest
  simp only [spendingKey, Decoder.bind_run_eq_ok_iff, Decoder.reads_bytes _ _ _ _]
  constructor
  · rintro ⟨b, _, rfl, h⟩
    cases hb : SpendingKey.ofBytes? b with
    | none => rw [hb] at h; cases h
    | some key =>
      rw [hb] at h
      obtain ⟨rfl, rfl⟩ := Decoder.pure_eq_ok_iff.1 h
      rw [SpendingKey.ofBytes?_eq_some_iff.1 hb]
  · rintro rfl
    refine ⟨k.bytes, rest, rfl, ?_⟩
    rw [SpendingKey.ofBytes?_eq_some_iff.2 rfl]
    rfl

/-- The two keys are read, and the second is clamped. -/
theorem viewingKey_decode_eq_ok_iff {k : ViewingKey} {rest : List UInt8} :
    viewingKey.decode l = .ok (k, rest) ↔
      ∃ raw : Bytes 32, k.payingKey.bytes.toList ++ (raw.toList ++ rest) = l ∧ k.receivingKey = .ofBytes raw := by
  simp only [viewingKey, Decoder.bind_run_eq_ok_iff, Decoder.reads_bytes _ _ _ _, Decoder.pure_eq_ok_iff]
  constructor
  · rintro ⟨payingKey, _, rfl, raw, _, rfl, rfl, rfl⟩
    exact ⟨raw, rfl, rfl⟩
  · rintro ⟨raw, rfl, hraw⟩
    exact ⟨k.payingKey.bytes, _, rfl, raw, rest, rfl, by rw [← hraw], rfl⟩

/-- **Every key is read back from its text**, on every network, and under that network or the public one of the test
networks. -/
theorem parse_encode_every_kind (n : Network) :
    (∀ a, address.parse (address.encode ⟨n, a⟩) = .ok ⟨n.readAs, a⟩) ∧
    (∀ k, viewingKey.parse (viewingKey.encode ⟨n, k⟩) = .ok ⟨n.readAs, k⟩) ∧
    ∀ k, spendingKey.parse (spendingKey.encode ⟨n, k⟩) = .ok ⟨n.readAs, k⟩ := by
  refine ⟨fun a => address_versioned.parse_encode ?_ n, fun k => viewingKey_versioned.parse_encode ?_ n,
    fun k => spendingKey_versioned.parse_encode ?_ n⟩
  · exact (address_reads _ _ _).2 (List.append_nil _).symm
  · refine viewingKey_decode_eq_ok_iff.2 ⟨k.receivingKey.bytes, ?_, k.receivingKey.ofBytes_bytes.symm⟩
    rw [List.append_nil]
    rfl
  · exact (spendingKey_reads _ _ _).2 (List.append_nil _).symm

/-! ## Kinds and spellings -/

/-- The version bytes and the payload that they announce have a width altogether. -/
def HasWidth (f : KeyFormat α) (w : Nat) : Prop :=
  ∀ (n : Network) l k, f.decode l = .ok (k, []) → (f.version n.parameters ++ l).length = w

theorem address_hasWidth : address.HasWidth 66 := by
  intro n l a h
  obtain rfl := (address_reads _ _ _).1 h
  simp [address]

theorem viewingKey_hasWidth : viewingKey.HasWidth 67 := by
  intro n l k h
  obtain ⟨raw, rfl, _⟩ := viewingKey_decode_eq_ok_iff.1 h
  simp [viewingKey]

theorem spendingKey_hasWidth : spendingKey.HasWidth 34 := by
  intro n l k h
  obtain rfl := (spendingKey_reads _ _ _).1 h
  simp [spendingKey]

/-- Kinds of different widths share no text. -/
theorem Versioned.parse_ne_ok (hf : f.Versioned) (hv : f.HasWidth v) (hg : g.Versioned) (hw : g.HasWidth w) (hne : v ≠ w)
    {d : Encoded β} (he : f.parse text = .ok e) : g.parse text ≠ .ok d := by
  intro hd
  obtain ⟨_, l, hl, hfl⟩ := hf.parse_eq_ok_iff.1 he
  obtain ⟨_, m, hm, hgm⟩ := hg.parse_eq_ok_iff.1 hd
  have hbytes := congrArg List.length (Base58.encodeCheck_inj.1 (hl.trans hm.symm))
  rw [hv _ _ _ hfl, hw _ _ _ hgm] at hbytes
  exact hne hbytes

/-- **A text of a canonical payload is the only one of its key.** -/
theorem Versioned.encode_of_parse (hf : f.Versioned) (hr : f.decode.Reads f.payload) (he : f.parse text = .ok e) :
    f.encode e = text := by
  obtain ⟨_, l, hl, hdecode⟩ := hf.parse_eq_ok_iff.1 he
  obtain rfl := (hr _ _ _).1 hdecode
  rw [encode, ← hl, List.append_nil]

/-- The text of a viewing key whose second half need not be clamped. -/
def viewingText (n : Network) (payingKey : PayingKey) (raw : Bytes 32) : String :=
  Base58.encodeCheck (viewingKey.version n.parameters ++ (payingKey.bytes.toList ++ raw.toList))

theorem viewingKey_parse_eq_ok_iff {e : Encoded ViewingKey} :
    viewingKey.parse text = .ok e ↔ e.network ∈ candidates ∧
      ∃ raw, viewingText e.network e.key.payingKey raw = text ∧ e.key.receivingKey = .ofBytes raw := by
  rw [viewingKey_versioned.parse_eq_ok_iff]
  constructor
  · rintro ⟨hmem, l, htext, hl⟩
    obtain ⟨raw, rfl, hraw⟩ := viewingKey_decode_eq_ok_iff.1 hl
    rw [List.append_nil] at htext
    exact ⟨hmem, raw, htext, hraw⟩
  · rintro ⟨hmem, raw, htext, hraw⟩
    refine ⟨hmem, _, htext, viewingKey_decode_eq_ok_iff.2 ⟨raw, ?_, hraw⟩⟩
    rw [List.append_nil]

theorem viewingText_inj {payingKey : PayingKey} {raw raw' : Bytes 32} :
    viewingText n payingKey raw = viewingText n payingKey raw' ↔ raw = raw' := by
  rw [viewingText, viewingText, Base58.encodeCheck_inj, List.append_cancel_left_eq, List.append_cancel_left_eq,
    Vector.toList_inj]

/-- A viewing key has the text that its bytes were read from just if they were clamped. -/
theorem viewingText_eq_iff {payingKey : PayingKey} {raw : Bytes 32} :
    viewingKey.encode ⟨n, ⟨payingKey, .ofBytes raw⟩⟩ = viewingText n payingKey raw ↔ X25519.clamp raw = raw :=
  viewingText_inj

/-- **Texts are of one kind, and canonical but for clamping.** No text is read as keys of two kinds. An address and a spending
key are read from their own text only. A text that is read as a viewing key has 32 bytes that the receiving key is made of: if
they are clamped it is the text of that key, and if not it is another one, and the same key is read from both. -/
theorem texts_canonical (text : String) :
    (∀ a k, address.parse text = .ok a → viewingKey.parse text ≠ .ok k) ∧
    (∀ a k, address.parse text = .ok a → spendingKey.parse text ≠ .ok k) ∧
    (∀ j k, viewingKey.parse text = .ok j → spendingKey.parse text ≠ .ok k) ∧
    (∀ a, address.parse text = .ok a → address.encode a = text) ∧
    (∀ k, spendingKey.parse text = .ok k → spendingKey.encode k = text) ∧
    ∀ k, viewingKey.parse text = .ok k → ∃ raw, viewingText k.network k.key.payingKey raw = text ∧
      k.key.receivingKey = .ofBytes raw ∧ (viewingKey.encode k = text ↔ X25519.clamp raw = raw) ∧
      viewingKey.parse (viewingKey.encode k) = .ok k := by
  refine ⟨fun a k => address_versioned.parse_ne_ok address_hasWidth viewingKey_versioned viewingKey_hasWidth (by decide),
    fun a k => address_versioned.parse_ne_ok address_hasWidth spendingKey_versioned spendingKey_hasWidth (by decide),
    fun j k => viewingKey_versioned.parse_ne_ok viewingKey_hasWidth spendingKey_versioned spendingKey_hasWidth (by decide),
    fun a => address_versioned.encode_of_parse address_reads,
    fun k => spendingKey_versioned.encode_of_parse spendingKey_reads, fun k hk => ?_⟩
  obtain ⟨network, ⟨payingKey, receivingKey⟩⟩ := k
  obtain ⟨hmem, raw, rfl, rfl⟩ := viewingKey_parse_eq_ok_iff.1 hk
  refine ⟨raw, rfl, rfl, viewingText_eq_iff, ?_⟩
  exact viewingKey_parse_eq_ok_iff.2 ⟨hmem, X25519.clamp raw, rfl, (ReceivingKey.ofBytes_bytes _).symm⟩

/-- A viewing key is read from a text with bytes that are not clamped, and has another text of its own. -/
theorem texts_canonical_unclamped :
    let raw : Bytes 32 := Vector.replicate 32 0xff
    let text := viewingText .testnet ⟨Bytes.zero 32⟩ raw
    let k : Encoded ViewingKey := ⟨.testnet, ⟨⟨Bytes.zero 32⟩, .ofBytes raw⟩⟩
    viewingKey.parse text = .ok k ∧ X25519.clamp raw ≠ raw ∧ viewingKey.encode k ≠ text ∧
      viewingKey.parse (viewingKey.encode k) = .ok k := by
  intro raw text k
  have hparse : viewingKey.parse text = .ok k := viewingKey_parse_eq_ok_iff.2 ⟨by decide, raw, rfl, rfl⟩
  have hraw : X25519.clamp raw ≠ raw := by decide
  obtain ⟨raw', htext, _, hiff, hagain⟩ := (texts_canonical text).2.2.2.2.2 k hparse
  obtain rfl : raw' = raw := viewingText_inj.1 htext
  exact ⟨hparse, hraw, mt hiff.1 hraw, hagain⟩

end KeyFormat

end ShieldedPool
