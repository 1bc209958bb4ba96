/-
Messages that are framed and taken apart again.

A framed message is one with parts: its information and its body, each behind the decimal digits of
its own length (`messageOf`).  Those parts are proper exactly as long as no length needs more than
ten digits, and a reader finds the parts of a message if they are proper.  It finds no other parts
either, because the digits in front of the first colon are the digits that were written there; so a
section whose length has eleven digits cannot be read as anything (`proper_of_written`).

The other way round, what was read from any bytes has a body that was measured in ten digits.  So it
can always be framed again, if only the information is not too long in its compact form.
-/
import Mathlib.Tactic.Common
import Mathlib.Data.Nat.Digits.Lemmas
import OnionSwarm.Proofs.Onion.Messages
import OnionSwarm.Proofs.Text.Decimal

namespace OnionSwarm.Framing

open Text

/-- Ten digits say lengths below this. -/
def lengthLimit : Nat := 10 ^ lengthDigits

/-! ### The digits of a length -/

/-- The digits that are written for a number stand for it. -/
theorem value_encode (n : Nat) : value (Decimal.encode n) = n := by
  rw [value, List.map_reverse, Decimal.digits_encode, Decimal.ofDigits_digitList]

/-- There are ten of them at most if the number is below the limit. -/
theorem length_encode_le_iff (n : Nat) :
    (Decimal.encode n).length ≤ lengthDigits ↔ n < lengthLimit := by
  constructor
  · intro few
    have below : ∀ d ∈ (Decimal.digitList n).reverse, d < 10 := by
      intro d mem
      exact Decimal.digitList_lt n d (List.mem_reverse.1 mem)
    have length : (Decimal.digitList n).reverse.length = (Decimal.encode n).length := by
      simp [Decimal.encode_eq]
    calc n = Nat.ofDigits 10 (Decimal.digitList n).reverse := (Decimal.ofDigits_digitList n).symm
      _ < 10 ^ (Decimal.digitList n).reverse.length :=
        Nat.ofDigits_lt_base_pow_length (by omega) below
      _ ≤ 10 ^ lengthDigits := Nat.pow_le_pow_right (by omega) (by omega)
  · intro small
    rw [Decimal.encode, List.length_map]
    exact Nat.toDigits_length 10 n lengthDigits (by decide) small

theorem numeral_encode_iff (n : Nat) : Numeral (Decimal.encode n) ↔ n < lengthLimit := by
  rw [← length_encode_le_iff]
  refine ⟨fun numeral => numeral.few, fun few => ⟨?_, few, ?_⟩⟩
  · exact List.length_pos_of_ne_nil (Decimal.encode_ne_nil n)
  · intro d mem
    exact Decimal.range_of_mem_encode mem

/-! ### The parts of a framed message -/

/-- A section behind the digits of its length. -/
def Section.of (content : Bytes) : Section := ⟨Decimal.encode content.length, content⟩

/-- The parts that a message is framed from. -/
def messageOf (info : Json) (body : Option Bytes) : Message :=
  ⟨.of info.toBytes, body.map .of⟩

/-- Each section of the message is short enough for its length to be read. -/
structure Short (info : Json) (body : Option Bytes) : Prop where
  info : info.toBytes.length < lengthLimit
  body : ∀ content, body = some content → content.length < lengthLimit

theorem written_messageOf (info : Json) (body : Option Bytes) :
    (messageOf info body).written = encodeMessage info body := by
  cases body <;>
    simp [messageOf, Message.written, Message.ending, encodeMessage, Section.written, Section.of,
      encodeSection]

theorem Section.proper_of_iff (content : Bytes) :
    (Section.of content).Proper ↔ content.length < lengthLimit := by
  rw [← numeral_encode_iff]
  exact ⟨fun proper => proper.numeral, fun numeral => ⟨numeral, value_encode _⟩⟩

theorem proper_messageOf_iff (info : Json) (body : Option Bytes) :
    (messageOf info body).Proper ↔ Short info body := by
  constructor
  · rintro ⟨first, second⟩
    refine ⟨(Section.proper_of_iff _).1 first, ?_⟩
    rintro content rfl
    exact (Section.proper_of_iff _).1 (second _ rfl)
  · rintro ⟨first, second⟩
    refine ⟨(Section.proper_of_iff _).2 first, ?_⟩
    intro s isBody
    obtain ⟨content, rfl, rfl⟩ := Option.map_eq_some_iff.1 isBody
    exact (Section.proper_of_iff _).2 (second content rfl)

/-- An empty body counts as none. -/
theorem content?_messageOf (info : Json) (body : Option Bytes) :
    Message.content? (messageOf info body).body = body.filter fun content => !content.isEmpty := by
  cases body <;> rfl

/-! ### No other parts are found -/

/-- A section that stands where one was written is that one, whose digits were few enough. -/
theorem Section.Proper.eq_of_append {s : Section} {content rest rest' : Bytes} (proper : s.Proper)
    (same : s.written ++ rest = (Section.of content).written ++ rest') :
    s = .of content ∧ rest = rest' := by
  have noColon : ∀ d ∈ Decimal.encode content.length, (d != colon) = true := by
    intro d mem
    have range := Decimal.range_of_mem_encode mem
    refine bne_iff_ne.2 fun isColon => ?_
    rw [isColon] at range
    exact absurd range.2 (by decide)
  -- both digits end at the first colon
  have digits : s.digits = Decimal.encode content.length := by
    have fronts := congrArg (List.takeWhile (· != colon)) same
    simp only [written, Section.of, List.append_assoc, List.cons_append] at fronts
    rw [proper.numeral.takeWhile_append, List.takeWhile_append_of_pos noColon] at fronts
    simpa using fronts
  have numeral : Numeral (Decimal.encode content.length) := digits ▸ proper.numeral
  exact proper.append_inj ⟨numeral, value_encode _⟩ same

/-- Bytes that were framed are a message only if the parts they were framed from are proper. -/
theorem proper_of_written {m : Message} {info : Json} {body : Option Bytes} (proper : m.Proper)
    (same : m.written = encodeMessage info body) : (messageOf info body).Proper := by
  rw [← written_messageOf] at same
  obtain ⟨first, endings⟩ := proper.info.eq_of_append (List.cons.inj same).2
  have info : (messageOf info body).info = m.info := first.symm
  refine ⟨info ▸ proper.info, ?_⟩
  intro s isBody
  obtain ⟨content, rfl, rfl⟩ := Option.map_eq_some_iff.1 isBody
  cases behind : m.body with
  | none =>
    rw [behind] at endings
    exact (Message.written_ne_end _ endings.symm).elim
  | some found =>
    rw [behind] at endings
    have isProper := proper.body found behind
    exact (isProper.eq_of_append endings).1 ▸ isProper

/-! ### Framed, and taken apart again -/

theorem decodeMessage_encodeMessage {info : Json} {body : Option Bytes}
    (back : Json.parse info.toBytes = .ok info) (short : Short info body) :
    decodeMessage (encodeMessage info body)
      = .ok (info, body.filter fun content => !content.isEmpty) := by
  have proper := (proper_messageOf_iff info body).2 short
  rw [← written_messageOf, ← content?_messageOf info body]
  exact decodeMessage_written proper back

/-- The body that a reader gives is not empty, and its length was read. -/
theorem body_of_decodeMessage {bytes : Bytes} {info : Json} {body : Option Bytes}
    (decoded : decodeMessage bytes = .ok (info, body)) :
    ∀ content, body = some content → content.isEmpty = false ∧ content.length < lengthLimit := by
  obtain ⟨m, proper, rfl, parsed⟩ := written_of_decodeMessage decoded
  rw [decodeMessage_written proper parsed] at decoded
  obtain ⟨-, rfl⟩ := Prod.mk.inj (Except.ok.inj decoded)
  intro content isBody
  obtain ⟨within, nonempty⟩ := Option.filter_eq_some_iff.1 isBody
  obtain ⟨s, isSection, rfl⟩ := Option.map_eq_some_iff.1 within
  have isProper := proper.body s isSection
  refine ⟨by simpa using nonempty, ?_⟩
  rw [← isProper.length]
  exact isProper.numeral.value_lt

/--
**Framing and taking apart fit together, up to the limit of the format.**  A message with
information that is read back from its compact form is taken apart into what it was framed from, an
empty body counting as none, exactly if each of its sections is shorter than ten digits can say; a
longer one is no message at all.  And whatever bytes a message was read from, framing its parts
again gives bytes that the same parts are read from.
-/
theorem decodeMessage_encodeMessage_iff_short {info : Json}
    (back : Json.parse info.toBytes = .ok info) :
    (∀ body, decodeMessage (encodeMessage info body)
        = .ok (info, body.filter fun content => !content.isEmpty) ↔
      info.toBytes.length < 10 ^ 10 ∧ ∀ content, body = some content → content.length < 10 ^ 10) ∧
    (∀ body, ¬ Short info body → ∃ e, decodeMessage (encodeMessage info body) = .error e) ∧
    ∀ bytes body, decodeMessage bytes = .ok (info, body) → info.toBytes.length < 10 ^ 10 →
      decodeMessage (encodeMessage info body) = .ok (info, body) := by
  have short_of_ok : ∀ body found, decodeMessage (encodeMessage info body) = .ok found →
      Short info body := by
    intro body found decoded
    obtain ⟨m, proper, same, -⟩ := written_of_decodeMessage decoded
    exact (proper_messageOf_iff info body).1 (proper_of_written proper same)
  refine ⟨fun body => ⟨?_, ?_⟩, ?_, ?_⟩
  · intro decoded
    obtain ⟨first, second⟩ := short_of_ok body _ decoded
    exact ⟨first, second⟩
  · rintro ⟨first, second⟩
    exact decodeMessage_encodeMessage back ⟨first, second⟩
  · intro body long
    cases decoded : decodeMessage (encodeMessage info body) with
    | error e => exact ⟨e, rfl⟩
    | ok found => exact (long (short_of_ok body found decoded)).elim
  · intro bytes body decoded first
    have fits := body_of_decodeMessage decoded
    have kept : (body.filter fun content => !content.isEmpty) = body := by
      cases body with
      | none => rfl
      | some content => simp [(fits content rfl).1]
    have again := decodeMessage_encodeMessage back ⟨first, fun content is => (fits content is).2⟩
    rw [again, kept]

/-- Leading zeros and blanks are not framed again, and neither is an empty body. -/
theorem decodeMessage_encodeMessage_iff_short_trialMessage :
    Json.parse (Json.object []).toBytes = .ok (.object []) ∧
    decodeMessage (encodeMessage (.object []) (some [])) = .ok (.object [], none) ∧
    decodeMessage (Bytes.ofString "l03:{ }01:ee") = .ok (.object [], some [101]) ∧
    encodeMessage (.object []) (some [101]) = Bytes.ofString "l2:{}1:ee" ∧
    decodeMessage (Bytes.ofString "l2:{}1:ee") = .ok (.object [], some [101]) := by
  have back : Json.parse (Json.object []).toBytes = .ok (.object []) := rfl
  have loose : decodeMessage (Bytes.ofString "l03:{ }01:ee") = .ok (.object [], some [101]) := by
    have bytes : Bytes.ofString "l03:{ }01:ee"
        = [108, 48, 51, 58, 123, 32, 125, 48, 49, 58, 101, 101] := by decide +kernel
    rw [bytes]
    rfl
  have framed : encodeMessage (.object []) (some [101]) = Bytes.ofString "l2:{}1:ee" := by
    decide +kernel
  obtain ⟨fits, -, again⟩ := decodeMessage_encodeMessage_iff_short back
  refine ⟨back, ?_, loose, framed, ?_⟩
  · refine (fits (some [])).2 ⟨by decide +kernel, ?_⟩
    rintro content ⟨rfl⟩
    decide
  · rw [← framed]
    exact again _ _ loose (by decide +kernel)

end OnionSwarm.Framing
