/-
Hop payloads and their parts.

A payload begins with four bytes that announce the length of its ciphertext: they are the digits of
the length in base 256, the least significant first.  Four digits have as many values as there are
lengths below four gigabytes, so each of these is announced by one choice of bytes, and no other
length is (`announces_iff`).

Behind them stand the ciphertext and, up to the end, the text of the routing instructions.  Whether
bytes have these parts is only a question of how many they are: either they go as far as they
announce, or they end early (`exists_isPayload_or_endsEarly`).  So taking apart has one outcome for
each kind, and all that is left to go wrong is the text of the instructions.  What a payload was
framed from is found in it because that text is read back by `Json.parse_toBytes`.
-/
import Mathlib.Tactic.Common
import Mathlib.Data.Nat.Digits.Lemmas
import OnionSwarm.Onion.Framing
import OnionSwarm.Proofs.Json.ReadBack

namespace OnionSwarm.Framing

variable {bytes ciphertext text front front' : Bytes} {length : Nat}

/-! ### Announced lengths -/

/-- Four bytes announce a length: they are its digits in base 256, the least significant first. -/
structure Announces (front : Bytes) (length : Nat) : Prop where
  four : front.length = 4
  number : Nat.ofDigits 256 (front.map UInt8.toNat) = length

theorem toNatLittle_eq_ofDigits (bytes : Bytes) :
    Bytes.toNatLittle bytes = Nat.ofDigits 256 (bytes.map UInt8.toNat) := by
  induction bytes with
  | nil => rfl
  | cons b rest ih => rw [Bytes.toNatLittle, ih, List.map_cons, Nat.ofDigits_cons]

theorem announces_iff_toNatLittle :
    Announces front length ↔ front.length = 4 ∧ Bytes.toNatLittle front = length := by
  rw [toNatLittle_eq_ofDigits]
  exact ⟨fun ⟨four, number⟩ => ⟨four, number⟩, fun ⟨four, number⟩ => ⟨four, number⟩⟩

theorem byte_lt (bytes : Bytes) : ∀ digit ∈ bytes.map UInt8.toNat, digit < 256 := by
  intro digit mem
  obtain ⟨byte, -, rfl⟩ := List.mem_map.1 mem
  exact byte.toNat_lt

theorem Announces.lt (announces : Announces front length) : length < payloadLimit := by
  calc length = Nat.ofDigits 256 (front.map UInt8.toNat) := announces.number.symm
    _ < 256 ^ (front.map UInt8.toNat).length :=
      Nat.ofDigits_lt_base_pow_length (by omega) (byte_lt front)
    _ = payloadLimit := by rw [List.length_map, announces.four]; rfl

/-- Four bytes hold any length below the limit. -/
theorem announces_littleEndian (short : length < payloadLimit) :
    Announces (Bytes.littleEndian 4 length) length := by
  refine announces_iff_toNatLittle.2 ⟨Bytes.length_littleEndian 4 length, ?_⟩
  rw [Bytes.toNatLittle_littleEndian]
  exact Nat.mod_eq_of_lt short

/-- A length is announced in one way. -/
theorem Announces.unique (announces : Announces front length)
    (announces' : Announces front' length) : front = front' := by
  have lengths : (front.map UInt8.toNat).length = (front'.map UInt8.toNat).length := by
    rw [List.length_map, List.length_map, announces.four, announces'.four]
  have digits : front.map UInt8.toNat = front'.map UInt8.toNat :=
    Nat.ofDigits_inj_of_len_eq (by omega) lengths (byte_lt front) (byte_lt front')
      (announces.number.trans announces'.number.symm)
  exact List.map_injective_iff.2 (fun _ _ => UInt8.toNat_inj.1) digits

/-- **The lengths that can be announced, and the bytes that do it.** -/
theorem announces_iff :
    Announces front length ↔ length < payloadLimit ∧ front = Bytes.littleEndian 4 length := by
  constructor
  · intro announces
    exact ⟨announces.lt, announces.unique (announces_littleEndian announces.lt)⟩
  · rintro ⟨short, rfl⟩
    exact announces_littleEndian short

/-! ### The parts of a payload -/

/-- The bytes are a payload: the announced length of the ciphertext, the ciphertext, and the text of
the routing instructions. -/
def IsPayload (bytes ciphertext text : Bytes) : Prop :=
  ∃ front, Announces front ciphertext.length ∧ bytes = front ++ ciphertext ++ text

/-- The bytes end before the ciphertext that they announce does, or before they announce any. -/
def EndsEarly (bytes : Bytes) : Prop :=
  bytes.length < 4 ∨ ∃ length, Announces (bytes.take 4) length ∧ bytes.length < 4 + length

/-- Bytes that go as far as they announce are a payload. -/
theorem isPayload_of_announces (announces : Announces (bytes.take 4) length)
    (enough : 4 + length ≤ bytes.length) :
    IsPayload bytes ((bytes.drop 4).take length) ((bytes.drop 4).drop length) := by
  have within : length ≤ (bytes.drop 4).length := by
    rw [List.length_drop]
    omega
  refine ⟨bytes.take 4, ?_, ?_⟩
  · rwa [List.length_take_of_le within]
  · rw [List.append_assoc, List.take_append_drop, List.take_append_drop]

theorem exists_isPayload_or_endsEarly (bytes : Bytes) :
    (∃ ciphertext text, IsPayload bytes ciphertext text) ∨ EndsEarly bytes := by
  by_cases few : bytes.length < 4
  · exact .inr (.inl few)
  · -- any four bytes announce a length, so it is left to see whether the bytes go that far
    have four : (bytes.take 4).length = 4 := List.length_take_of_le (by omega)
    have announces := announces_iff_toNatLittle.2 ⟨four, rfl⟩
    by_cases ends : bytes.length < 4 + Bytes.toNatLittle (bytes.take 4)
    · exact .inr (.inr ⟨_, announces, ends⟩)
    · exact .inl ⟨_, _, isPayload_of_announces announces (Nat.not_lt.1 ends)⟩

/-- A payload is taken apart into its ciphertext and what its text says. -/
theorem IsPayload.decodePayload (isPayload : IsPayload bytes ciphertext text) :
    decodePayload bytes = (readJson text).map (ciphertext, ·) := by
  obtain ⟨front, announces, rfl⟩ := isPayload
  obtain ⟨four, number⟩ := announces_iff_toNatLittle.1 announces
  rw [List.append_assoc, Framing.decodePayload, if_neg (by rw [List.length_append]; omega)]
  simp only [List.take_left' four, List.drop_left' four, number]
  rw [if_neg (by rw [List.length_append]; omega), List.drop_left, List.take_left]
  cases readJson text <;> rfl

theorem IsPayload.decodePayload_ok (isPayload : IsPayload bytes ciphertext text) {routing : Json}
    (parsed : Json.parse text = .ok routing) :
    Framing.decodePayload bytes = .ok (ciphertext, routing) := by
  rw [isPayload.decodePayload, readJson, parsed]
  rfl

theorem IsPayload.decodePayload_error (isPayload : IsPayload bytes ciphertext text)
    {fault : Json.ReadError} (parsed : Json.parse text = .error fault) :
    Framing.decodePayload bytes = .error (.badJson (fault.message text)) := by
  rw [isPayload.decodePayload, readJson, parsed]
  rfl

theorem decodePayload_of_endsEarly (early : EndsEarly bytes) :
    decodePayload bytes = .error .truncated := by
  rw [decodePayload]
  by_cases few : bytes.length < 4
  · rw [if_pos few]
  · obtain ⟨length, announces, ends⟩ := early.resolve_left few
    obtain ⟨-, rfl⟩ := announces_iff_toNatLittle.1 announces
    have short : (bytes.drop 4).length < Bytes.toNatLittle (bytes.take 4) := by
      rw [List.length_drop]
      omega
    rw [if_neg few]
    exact if_pos short

/-! ### Taken apart -/

/-- **What can be taken apart**: payloads whose text is JSON, and nothing else. -/
theorem decodePayload_eq_ok_iff {routing : Json} :
    decodePayload bytes = .ok (ciphertext, routing) ↔
      ∃ text, IsPayload bytes ciphertext text ∧ Json.parse text = .ok routing := by
  constructor
  · intro decoded
    obtain ⟨found, text, isPayload⟩ | early := exists_isPayload_or_endsEarly bytes
    · cases parsed : Json.parse text with
      | error fault =>
        rw [isPayload.decodePayload_error parsed] at decoded
        cases decoded
      | ok said =>
        rw [isPayload.decodePayload_ok parsed] at decoded
        obtain ⟨rfl, rfl⟩ := Prod.mk.inj (Except.ok.inj decoded)
        exact ⟨text, isPayload, parsed⟩
    · rw [decodePayload_of_endsEarly early] at decoded
      cases decoded
  · rintro ⟨text, isPayload, parsed⟩
    exact isPayload.decodePayload_ok parsed

/-- **Why bytes cannot be taken apart**: they end early, or the text of the instructions is no
JSON. -/
theorem decodePayload_eq_error_iff {error : FramingError} :
    decodePayload bytes = .error error ↔
      (EndsEarly bytes ∧ error = .truncated) ∨
      ∃ ciphertext text fault, IsPayload bytes ciphertext text ∧
        Json.parse text = .error fault ∧ error = .badJson (fault.message text) := by
  constructor
  · intro failed
    obtain ⟨ciphertext, text, isPayload⟩ | early := exists_isPayload_or_endsEarly bytes
    · cases parsed : Json.parse text with
      | error fault =>
        rw [isPayload.decodePayload_error parsed] at failed
        exact .inr ⟨ciphertext, text, fault, isPayload, parsed, (Except.error.inj failed).symm⟩
      | ok said =>
        rw [isPayload.decodePayload_ok parsed] at failed
        cases failed
    · rw [decodePayload_of_endsEarly early] at failed
      exact .inl ⟨early, (Except.error.inj failed).symm⟩
  · rintro (⟨early, rfl⟩ | ⟨ciphertext, text, fault, isPayload, parsed, rfl⟩)
    · exact decodePayload_of_endsEarly early
    · exact isPayload.decodePayload_error parsed

/-! ### Framed -/

theorem encodePayload_ok {ciphertext : Bytes} (routing : Json)
    (short : ciphertext.length < payloadLimit) :
    encodePayload ciphertext routing
      = .ok (Bytes.littleEndian 4 ciphertext.length ++ ciphertext ++ routing.toBytes) := by
  rw [encodePayload, if_pos short]

theorem encodePayload_eq_error_iff {routing : Json} {error : FramingError} :
    encodePayload ciphertext routing = .error error ↔
      error = .badLength ∧ payloadLimit ≤ ciphertext.length := by
  by_cases short : ciphertext.length < payloadLimit
  · rw [encodePayload_ok routing short]
    simp [short]
  · rw [encodePayload, if_neg short]
    simp [Nat.not_lt.1 short, eq_comm]

/-- **What is framed**: the payload with the ciphertext and the compact form of the instructions. -/
theorem encodePayload_eq_ok_iff {routing : Json} :
    encodePayload ciphertext routing = .ok bytes ↔ IsPayload bytes ciphertext routing.toBytes := by
  constructor
  · intro framed
    by_cases short : ciphertext.length < payloadLimit
    · rw [encodePayload_ok routing short] at framed
      exact ⟨_, announces_littleEndian short, (Except.ok.inj framed).symm⟩
    · rw [encodePayload, if_neg short] at framed
      cases framed
  · rintro ⟨front, announces, rfl⟩
    obtain ⟨short, rfl⟩ := announces_iff.1 announces
    exact encodePayload_ok routing short

/-- **A hop payload is taken apart into the ciphertext and the instructions it was made from.** -/
theorem decodePayload_encodePayload {ciphertext bytes : Bytes} {routing : Json}
    (kept : Json.Kept Json.deepest routing) (framed : encodePayload ciphertext routing = .ok bytes) :
    decodePayload bytes = .ok (ciphertext, routing) :=
  decodePayload_eq_ok_iff.2 ⟨_, encodePayload_eq_ok_iff.1 framed, Json.parse_toBytes kept⟩

/--
**Framing and taking apart a hop payload**, for every ciphertext, all instructions and all bytes.

A ciphertext can be framed unless it has four gigabytes or more, and what is framed is a payload
with that ciphertext and the instructions in their compact form.  If the instructions are read back
from that form, both are found in the payload again.  Any bytes are taken apart exactly if they are
a payload whose text is JSON.  They are refused as truncated exactly if they end early, and the only
other reason is a fault in that text.
-/
theorem decodePayload_exact :
    (∀ ciphertext routing error, encodePayload ciphertext routing = .error error ↔
      error = .badLength ∧ 2 ^ 32 ≤ ciphertext.length) ∧
    (∀ ciphertext routing bytes, encodePayload ciphertext routing = .ok bytes ↔
      IsPayload bytes ciphertext routing.toBytes) ∧
    (∀ ciphertext routing, Json.parse routing.toBytes = .ok routing →
      ciphertext.length < 2 ^ 32 →
        ∃ bytes, encodePayload ciphertext routing = .ok bytes ∧
          decodePayload bytes = .ok (ciphertext, routing)) ∧
    (∀ bytes ciphertext routing, decodePayload bytes = .ok (ciphertext, routing) ↔
      ∃ text, IsPayload bytes ciphertext text ∧ Json.parse text = .ok routing) ∧
    (∀ bytes, decodePayload bytes = .error .truncated ↔ EndsEarly bytes) ∧
    ∀ bytes error, decodePayload bytes = .error error → error ≠ .truncated →
      ∃ ciphertext text fault, IsPayload bytes ciphertext text ∧
        Json.parse text = .error fault ∧ error = .badJson (fault.message text) := by
  refine ⟨fun _ _ _ => encodePayload_eq_error_iff, fun _ _ _ => encodePayload_eq_ok_iff, ?_,
    fun _ _ _ => decodePayload_eq_ok_iff, ?_, ?_⟩
  · intro ciphertext routing back short
    have framed := encodePayload_ok routing short
    have isPayload := encodePayload_eq_ok_iff.1 framed
    exact ⟨_, framed, decodePayload_eq_ok_iff.2 ⟨_, isPayload, back⟩⟩
  · intro bytes
    refine ⟨fun failed => ?_, decodePayload_of_endsEarly⟩
    obtain ⟨early, -⟩ | ⟨_, _, _, -, -, other⟩ := decodePayload_eq_error_iff.1 failed
    · exact early
    · cases other
  · intro bytes error failed other
    exact (decodePayload_eq_error_iff.1 failed).resolve_left fun early => other early.2

/-- Instructions of one member. -/
def trialRouting : Json := .object [("ephemeral_key", .text "00")]

/-- A ciphertext of 256 bytes, whose length has its digit in the second byte. -/
def trialCiphertext : Bytes := Bytes.fill 256 7

theorem decodePayload_exact_trialPayload :
    Json.parse trialRouting.toBytes = .ok trialRouting ∧ trialCiphertext.length < 2 ^ 32 ∧
    (∃ bytes, encodePayload trialCiphertext trialRouting = .ok bytes ∧
      decodePayload bytes = .ok (trialCiphertext, trialRouting)) ∧
    IsPayload ([0, 1, 0, 0] ++ trialCiphertext ++ trialRouting.toBytes) trialCiphertext
      trialRouting.toBytes ∧
    encodePayload trialCiphertext trialRouting
      = .ok ([0, 1, 0, 0] ++ trialCiphertext ++ trialRouting.toBytes) ∧
    EndsEarly [9, 0, 0, 0, 1, 2] ∧ decodePayload [9, 0, 0, 0, 1, 2] = .error .truncated ∧
    (∃ reason, decodePayload [0, 0, 0, 0] = .error (.badJson reason)) ∧
    ∃ ciphertext text fault, IsPayload [0, 0, 0, 0] ciphertext text ∧
      Json.parse text = .error fault := by
  obtain ⟨-, frames, again, -, truncated, faulty⟩ := decodePayload_exact
  have back : Json.parse trialRouting.toBytes = .ok trialRouting :=
    Json.parse_toBytes ⟨List.isChain_singleton _, trivial, trivial⟩
  have measured : trialCiphertext.length = 256 := List.length_replicate
  have short : trialCiphertext.length < 2 ^ 32 := by omega
  have isPayload : IsPayload ([0, 1, 0, 0] ++ trialCiphertext ++ trialRouting.toBytes)
      trialCiphertext trialRouting.toBytes :=
    ⟨[0, 1, 0, 0], announces_iff_toNatLittle.2 ⟨rfl, measured.symm⟩, rfl⟩
  have early : EndsEarly [9, 0, 0, 0, 1, 2] :=
    .inr ⟨9, announces_iff_toNatLittle.2 ⟨rfl, rfl⟩, by decide⟩
  have failed : ∃ reason, decodePayload [0, 0, 0, 0] = .error (.badJson reason) := ⟨_, rfl⟩
  refine ⟨back, short, again _ _ back short, isPayload, (frames _ _ _).2 isPayload, early,
    (truncated _).2 early, failed, ?_⟩
  obtain ⟨reason, failed⟩ := failed
  obtain ⟨ciphertext, text, fault, isPayload, parsed, -⟩ := faulty _ _ failed (by simp)
  exact ⟨ciphertext, text, fault, isPayload, parsed⟩

end OnionSwarm.Framing
