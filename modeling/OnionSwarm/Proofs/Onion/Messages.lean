/-
The messages that can be taken apart.

A message is written from sections, each of which is its length in decimal, a colon, and its
content.  No digit is a colon, so the length of a section ends at the first colon, and the length
says where the section ends; so a message has no more than one set of parts.  The reader goes the
same way, and it finds the parts of exactly those messages that have them.

The reader measures and cuts with machine words.  It looks at a length before it cuts, and a length
of ten digits is far from the end of a word, so nothing is ever cut that is not there and no sum is
lost (`Word.decodeMessage_eq_some`).
-/
import Mathlib.Tactic.Common
import Mathlib.Data.List.TakeWhile
import Mathlib.Data.Nat.Digits.Lemmas
import OnionSwarm.Clock.Reading
import OnionSwarm.Onion.Framing

namespace OnionSwarm.Framing

/-! ### How messages are written -/

/-- The digits of a length. -/
structure Numeral (digits : Bytes) : Prop where
  some : 1 ≤ digits.length
  few : digits.length ≤ 10
  decimal : ∀ d ∈ digits, 48 ≤ d.toNat ∧ d.toNat ≤ 57

/-- The number that digits stand for in decimal. -/
def value (digits : Bytes) : Nat := Nat.ofDigits 10 (digits.reverse.map fun d => d.toNat - 48)

/-- A section as it stands in a message. -/
structure Section where
  /-- The digits of its length. -/
  digits : Bytes
  content : Bytes

namespace Section

def written (s : Section) : Bytes := s.digits ++ colon :: s.content

/-- The digits say how long the content is. -/
structure Proper (s : Section) : Prop where
  numeral : Numeral s.digits
  length : value s.digits = s.content.length

end Section

/-- The sections of a message. -/
structure Message where
  info : Section
  body : Option Section

namespace Message

/-- What stands behind the information. -/
def ending (body : Option Section) : Bytes := (body.map Section.written).getD [] ++ [endMarker]

def written (m : Message) : Bytes := listMarker :: (m.info.written ++ ending m.body)

structure Proper (m : Message) : Prop where
  info : m.info.Proper
  body : ∀ s, m.body = some s → s.Proper

/-- The content of the body; an empty body counts as none. -/
def content? (body : Option Section) : Option Bytes :=
  (body.map Section.content).filter fun content => !content.isEmpty

end Message

/-! ### Lengths -/

theorem isDigit_iff (d : UInt8) : isDigit d = true ↔ 48 ≤ d.toNat ∧ d.toNat ≤ 57 := by
  simp [isDigit, UInt8.le_iff_toNat_le]

theorem numeral_iff (digits : Bytes) :
    Numeral digits ↔
      (digits.isEmpty || !digits.all isDigit || lengthDigits < digits.length) = false := by
  have all : digits.all isDigit = true ↔ ∀ d ∈ digits, 48 ≤ d.toNat ∧ d.toNat ≤ 57 := by
    simp only [List.all_eq_true, isDigit_iff]
  have nonempty : 1 ≤ digits.length ↔ digits ≠ [] := List.length_pos_iff
  constructor
  · rintro ⟨some, few, decimal⟩
    have within : ¬ lengthDigits < digits.length := Nat.not_lt.2 few
    simp [all.2 decimal, nonempty.1 some, within]
  · intro fits
    simp only [Bool.or_eq_false_iff, Bool.not_eq_false', List.isEmpty_eq_false_iff] at fits
    obtain ⟨⟨some, decimal⟩, few⟩ := fits
    exact ⟨nonempty.2 some, Nat.not_lt.1 (of_decide_eq_false few), all.1 decimal⟩

theorem number_eq_value (digits : Bytes) : number digits = value digits := by
  rw [number, value, Nat.ofDigits_eq_foldr, List.foldr_map, List.foldr_reverse]
  simp only [Nat.cast_id, Nat.add_comm]

theorem Numeral.value_lt {digits : Bytes} (numeral : Numeral digits) : value digits < 10 ^ 10 := by
  have below : ∀ d ∈ digits.reverse.map fun d => d.toNat - 48, d < 10 := by
    intro d mem
    obtain ⟨byte, isIn, rfl⟩ := List.mem_map.1 mem
    have range := numeral.decimal byte (List.mem_reverse.1 isIn)
    omega
  calc value digits < 10 ^ (digits.reverse.map fun d => d.toNat - 48).length :=
        Nat.ofDigits_lt_base_pow_length (by omega) below
    _ ≤ 10 ^ 10 := Nat.pow_le_pow_right (by omega) (by simpa using numeral.few)

theorem Numeral.no_colon {digits : Bytes} (numeral : Numeral digits) :
    ∀ d ∈ digits, (d != colon) = true := by
  intro d mem
  have range := numeral.decimal d mem
  refine bne_iff_ne.2 ?_
  rintro rfl
  exact absurd range.2 (by decide)

theorem Numeral.takeWhile_append {digits : Bytes} (numeral : Numeral digits) (rest : Bytes) :
    (digits ++ colon :: rest).takeWhile (· != colon) = digits := by
  rw [List.takeWhile_append_of_pos numeral.no_colon]
  simp

theorem Numeral.dropWhile_append {digits : Bytes} (numeral : Numeral digits) (rest : Bytes) :
    (digits ++ colon :: rest).dropWhile (· != colon) = colon :: rest := by
  rw [List.dropWhile_append_of_pos numeral.no_colon]
  simp

/-- A length ends at the first colon. -/
theorem Numeral.append_inj {digits digits' rest rest' : Bytes} (numeral : Numeral digits)
    (numeral' : Numeral digits') (same : digits ++ colon :: rest = digits' ++ colon :: rest') :
    digits = digits' ∧ rest = rest' := by
  have fronts := congrArg (List.takeWhile (· != colon)) same
  rw [numeral.takeWhile_append, numeral'.takeWhile_append] at fronts
  have backs := congrArg (List.dropWhile (· != colon)) same
  rw [numeral.dropWhile_append, numeral'.dropWhile_append] at backs
  exact ⟨fronts, (List.cons.inj backs).2⟩

theorem readLength_eq_ok_iff {bytes rest : Bytes} {length : Nat} :
    readLength bytes = .ok (length, rest)
      ↔ ∃ digits, Numeral digits ∧ value digits = length ∧ bytes = digits ++ colon :: rest := by
  constructor
  · intro read
    unfold readLength at read
    dsimp only at read
    split at read
    · cases read
    · rename_i first after atColon
      split at read
      · cases read
      · rename_i fits
        obtain ⟨rfl, rfl⟩ := Prod.mk.inj (Except.ok.inj read)
        have isColon : first = colon := by
          have stops := List.head?_dropWhile_not (· != colon) bytes
          rw [atColon] at stops
          simpa using stops
        refine ⟨bytes.takeWhile (· != colon), (numeral_iff _).2 (Bool.eq_false_iff.2 fits),
          (number_eq_value _).symm, ?_⟩
        rw [← isColon] at atColon ⊢
        rw [← atColon, List.takeWhile_append_dropWhile]
  · rintro ⟨digits, numeral, rfl, rfl⟩
    unfold readLength
    simp only [numeral.takeWhile_append, numeral.dropWhile_append]
    rw [if_neg (Bool.eq_false_iff.1 ((numeral_iff digits).1 numeral)), number_eq_value]

/-! ### Sections -/

namespace Section

variable {s s' : Section} {bytes rest rest' : Bytes}

theorem Proper.append_inj (proper : s.Proper) (proper' : s'.Proper)
    (same : s.written ++ rest = s'.written ++ rest') : s = s' ∧ rest = rest' := by
  obtain ⟨digits, content⟩ := s
  obtain ⟨digits', content'⟩ := s'
  simp only [written, List.append_assoc, List.cons_append] at same
  obtain ⟨rfl, behind⟩ := proper.numeral.append_inj proper'.numeral same
  have lengths : content.length = content'.length := proper.length.symm.trans proper'.length
  obtain ⟨rfl, rests⟩ := List.append_inj behind lengths
  exact ⟨rfl, rests⟩

theorem Proper.readLength (proper : s.Proper) (rest : Bytes) :
    readLength (s.written ++ rest) = .ok (s.content.length, s.content ++ rest) := by
  refine readLength_eq_ok_iff.2 ⟨s.digits, proper.numeral, proper.length, ?_⟩
  rw [written, List.append_assoc, List.cons_append]

/-- A length and as many bytes behind it are a section. -/
theorem exists_of_readLength {length : Nat} (read : Framing.readLength bytes = .ok (length, rest))
    (within : length ≤ rest.length) :
    ∃ s : Section, s.Proper ∧ s.content = rest.take length ∧ s.content.length = length ∧
      bytes = s.written ++ rest.drop length := by
  obtain ⟨digits, numeral, rfl, rfl⟩ := readLength_eq_ok_iff.1 read
  have measured : (rest.take (value digits)).length = value digits := List.length_take_of_le within
  refine ⟨⟨digits, rest.take (value digits)⟩, ⟨numeral, measured.symm⟩, rfl, measured, ?_⟩
  rw [written, List.append_assoc, List.cons_append, List.take_append_drop]

end Section

/-! ### Messages -/

namespace Message

/-- No section is the end of a message. -/
theorem written_ne_end (s : Section) : s.written ++ [endMarker] ≠ [endMarker] := by
  intro same
  have lengths := congrArg List.length same
  simp only [Section.written, List.length_append, List.length_cons, List.length_nil] at lengths
  omega

theorem ending_inj {body body' : Option Section} (proper : ∀ s, body = some s → s.Proper)
    (proper' : ∀ s, body' = some s → s.Proper) (same : ending body = ending body') :
    body = body' := by
  cases body with
  | none =>
    cases body' with
    | none => rfl
    | some s' => exact (written_ne_end s' same.symm).elim
  | some s =>
    cases body' with
    | none => exact (written_ne_end s same).elim
    | some s' => rw [((proper s rfl).append_inj (proper' s' rfl) same).1]

/-- A message has one set of parts. -/
theorem Proper.written_inj {m m' : Message} (proper : m.Proper) (proper' : m'.Proper)
    (same : m.written = m'.written) : m = m' := by
  obtain ⟨info, body⟩ := m
  obtain ⟨info', body'⟩ := m'
  obtain ⟨rfl, endings⟩ := proper.info.append_inj proper'.info (List.cons.inj same).2
  obtain rfl := ending_inj proper.body proper'.body endings
  rfl

end Message

theorem readBody_ending {body : Option Section} (proper : ∀ s, body = some s → s.Proper) :
    readBody (Message.ending body) = .ok (Message.content? body) := by
  cases body with
  | none => rfl
  | some s =>
    have isBody := Message.written_ne_end s
    show readBody (s.written ++ [endMarker]) = _
    unfold readBody
    split
    · rename_i empty
      simp at empty
    · rw [if_neg isBody, (proper s rfl).readLength]
      simp only [List.length_append, List.length_singleton, Nat.lt_irrefl, if_false, List.drop_left,
        List.take_left, ne_eq, not_true_eq_false]
      cases h : s.content <;> simp [Message.content?, h, Option.filter]

theorem ending_of_readBody {bytes : Bytes} {content : Option Bytes}
    (read : readBody bytes = .ok content) :
    ∃ body, (∀ s, body = some s → s.Proper) ∧ bytes = Message.ending body := by
  unfold readBody at read
  split at read
  · cases read
  · split at read
    · rename_i isEnd
      exact ⟨none, by simp, isEnd⟩
    · split at read
      · cases read
      · rename_i length rest measured
        split at read
        · cases read
        · rename_i within
          split at read
          · cases read
          · rename_i ends
            obtain ⟨s, proper, -, -, form⟩ := Section.exists_of_readLength measured (by omega)
            refine ⟨some s, ?_, ?_⟩
            · intro s' same
              rw [← Option.some.inj same]
              exact proper
            · rw [form, Decidable.not_not.1 ends]
              rfl

theorem readJson_eq_ok_iff {bytes : Bytes} {v : Json} :
    readJson bytes = .ok v ↔ Json.parse bytes = .ok v := by
  unfold readJson
  cases Json.parse bytes <;> simp

theorem decodeMessage_written {m : Message} {info : Json} (proper : m.Proper)
    (parsed : Json.parse m.info.content = .ok info) :
    decodeMessage m.written = .ok (info, Message.content? m.body) := by
  rw [Message.written, decodeMessage, if_neg (not_not.2 rfl), proper.info.readLength]
  simp only [List.length_append, List.take_left, List.drop_left, readJson_eq_ok_iff.2 parsed,
    readBody_ending proper.body]
  rw [if_neg (by omega)]

theorem written_of_decodeMessage {bytes : Bytes} {info : Json} {content : Option Bytes}
    (decoded : decodeMessage bytes = .ok (info, content)) :
    ∃ m : Message, m.Proper ∧ m.written = bytes ∧ Json.parse m.info.content = .ok info := by
  unfold decodeMessage at decoded
  split at decoded
  · cases decoded
  · rename_i marker rest
    split at decoded
    · cases decoded
    · rename_i isMarker
      obtain rfl := Decidable.not_not.1 isMarker
      split at decoded
      · cases decoded
      · rename_i length after measured
        split at decoded
        · cases decoded
        · rename_i within
          split at decoded
          · cases decoded
          · rename_i found parsed
            split at decoded
            · rename_i body read
              obtain ⟨rfl, -⟩ := Prod.mk.inj (Except.ok.inj decoded)
              -- what was read is taken back to the bytes that it was read from
              obtain ⟨s, properInfo, content, -, form⟩ :=
                Section.exists_of_readLength measured (by omega)
              obtain ⟨body, properBody, behind⟩ := ending_of_readBody read
              refine ⟨⟨s, body⟩, ⟨properInfo, properBody⟩, ?_, ?_⟩
              · rw [Message.written, form, behind]
              · rw [content]
                exact readJson_eq_ok_iff.1 parsed
            · cases decoded

/-! ### Measured and cut with machine words -/

namespace Word

/-- A sum of lengths, if a word holds it. -/
def sum? (a b : Nat) : Option Nat := if a + b < Clock.wordEnd then some (a + b) else none

/-- The bytes up to a place, if there are so many. -/
def upTo? (place : Nat) (bytes : Bytes) : Option Bytes :=
  if place ≤ bytes.length then some (bytes.take place) else none

/-- The bytes from a place on, if there are so many. -/
def from? (place : Nat) (bytes : Bytes) : Option Bytes :=
  if place ≤ bytes.length then some (bytes.drop place) else none

/-- `Framing.readLength`; nothing if a cut or a sum is out of range. -/
def readLength (bytes : Bytes) : Option (Except FramingError (Nat × Bytes)) :=
  match bytes.findIdx? (· == colon) with
  | none => some (.error .badLength)
  | some place => do
    let digits ← upTo? place bytes
    if digits.isEmpty || !digits.all isDigit || lengthDigits < digits.length then
      return .error .badLength
    else if Clock.wordEnd ≤ number digits then return .error .badLength
    else
      let rest ← from? (← sum? place 1) bytes
      return .ok (number digits, rest)

/-- `Framing.readBody`; nothing if a cut or a sum is out of range. -/
def readBody (bytes : Bytes) : Option (Except FramingError (Option Bytes)) :=
  match bytes with
  | [] => some (.error .missingMarker)
  | _ =>
    if bytes = [endMarker] then some (.ok none)
    else do
      match ← readLength bytes with
      | .error e => return .error e
      | .ok (length, rest) =>
        if rest.length < (← sum? length 1) then return .error .truncated
        else
          let body ← upTo? length rest
          let after ← from? length rest
          if after ≠ [endMarker] then return .error .trailingBytes
          else return .ok (if body.isEmpty then none else some body)

/-- `Framing.decodeMessage`; nothing if a cut or a sum is out of range. -/
def decodeMessage (bytes : Bytes) : Option (Except FramingError (Json × Option Bytes)) :=
  match bytes with
  | [] => some (.error .missingMarker)
  | marker :: _ =>
    if marker ≠ listMarker then some (.error .missingMarker)
    else do
      match ← readLength (← from? 1 bytes) with
      | .error e => return .error e
      | .ok (length, rest) =>
        if rest.length < length then return .error .truncated
        else
          let front ← upTo? length rest
          let rest ← from? length rest
          match readJson front with
          | .error e => return .error e
          | .ok info =>
            match ← readBody rest with
            | .error e => return .error e
            | .ok body => return .ok (info, body)

variable {bytes : Bytes}

theorem upTo?_of_le {place : Nat} (within : place ≤ bytes.length) :
    upTo? place bytes = some (bytes.take place) := if_pos within

theorem from?_of_le {place : Nat} (within : place ≤ bytes.length) :
    from? place bytes = some (bytes.drop place) := if_pos within

/-- A length of ten digits is far from the end of a word. -/
theorem value_lt {digits : Bytes} (numeral : Numeral digits) :
    value digits + 1 < Clock.wordEnd := by
  have bound := numeral.value_lt
  rw [Clock.wordEnd]
  omega

/-- What stands before the first colon, and what from there on. -/
theorem cut_at_colon {place : Nat} (found : bytes.findIdx? (· == colon) = some place) :
    place < bytes.length ∧ bytes.takeWhile (· != colon) = bytes.take place ∧
      bytes.dropWhile (· != colon) = bytes.drop place := by
  obtain ⟨within, isPlace⟩ := List.findIdx?_eq_some_iff_findIdx_eq.1 found
  have isPlace' : bytes.findIdx (fun b => !(b != colon)) = place := by
    simpa only [bne, Bool.not_not] using isPlace
  refine ⟨within, ?_, ?_⟩
  · rw [List.takeWhile_eq_take_findIdx_not, isPlace']
  · rw [List.dropWhile_eq_drop_findIdx_not, isPlace']

theorem readLength_eq_some (short : bytes.length < Clock.wordEnd) :
    readLength bytes = some (Framing.readLength bytes) := by
  unfold readLength Framing.readLength
  cases found : bytes.findIdx? (· == colon) with
  | none =>
    have absent : bytes.dropWhile (· != colon) = [] := by
      refine List.dropWhile_eq_nil_iff.2 fun b mem => ?_
      rw [bne, List.findIdx?_eq_none_iff.1 found b mem]
      rfl
    simp only [absent]
  | some place =>
    obtain ⟨within, front, back⟩ := cut_at_colon found
    have next : sum? place 1 = some (place + 1) := if_pos (by omega)
    simp only [front, back, List.drop_eq_getElem_cons within, upTo?_of_le (Nat.le_of_lt within),
      next, from?_of_le (show place + 1 ≤ bytes.length by omega), Option.bind_eq_bind,
      Option.bind_some]
    split
    · rfl
    · rename_i fits
      have bound := value_lt ((numeral_iff _).2 (Bool.eq_false_iff.2 fits))
      rw [← number_eq_value] at bound
      rw [if_neg (by omega)]
      rfl

theorem length_rest_le {rest : Bytes} {length : Nat}
    (read : Framing.readLength bytes = .ok (length, rest)) : rest.length ≤ bytes.length := by
  obtain ⟨digits, -, -, rfl⟩ := readLength_eq_ok_iff.1 read
  simp only [List.length_append, List.length_cons]
  omega

theorem readBody_eq_some (short : bytes.length < Clock.wordEnd) :
    readBody bytes = some (Framing.readBody bytes) := by
  cases bytes with
  | nil => rfl
  | cons first more =>
    simp only [readBody, Framing.readBody]
    by_cases isEnd : first :: more = [endMarker]
    · rw [if_pos isEnd, if_pos isEnd]
    · rw [if_neg isEnd, if_neg isEnd, readLength_eq_some short]
      cases read : Framing.readLength (first :: more) with
      | error e => rfl
      | ok found =>
        obtain ⟨length, rest⟩ := found
        obtain ⟨digits, numeral, rfl, -⟩ := readLength_eq_ok_iff.1 read
        have next : sum? (value digits) 1 = some (value digits + 1) := if_pos (value_lt numeral)
        simp only [Option.bind_eq_bind, Option.bind_some, next]
        by_cases cut : rest.length < value digits + 1
        · rw [if_pos cut, if_pos cut]
          rfl
        · have within : value digits ≤ rest.length := by omega
          have empty : (rest.take (value digits)).isEmpty = true ↔ value digits = 0 := by
            rw [List.isEmpty_iff_length_eq_zero, List.length_take_of_le within]
          rw [if_neg cut, if_neg cut, upTo?_of_le within, from?_of_le within]
          simp only [Option.bind_some, empty]
          split <;> rfl

/-- **Nothing is out of range**: measured and cut with words, a message is read as it is. -/
theorem decodeMessage_eq_some (short : bytes.length < Clock.wordEnd) :
    decodeMessage bytes = some (Framing.decodeMessage bytes) := by
  -- a place in the message is a word, so every cut is made where the numbers make it
  cases bytes with
  | nil => rfl
  | cons marker rest =>
    simp only [decodeMessage, Framing.decodeMessage]
    by_cases other : marker ≠ listMarker
    · rw [if_pos other, if_pos other]
    · have one : from? 1 (marker :: rest) = some rest := from?_of_le (by simp)
      have shorter : rest.length < Clock.wordEnd := Nat.lt_of_succ_lt short
      rw [if_neg other, if_neg other, one, Option.bind_eq_bind, Option.bind_some,
        readLength_eq_some shorter]
      cases read : Framing.readLength rest with
      | error e => rfl
      | ok found =>
        obtain ⟨length, after⟩ := found
        simp only [Option.bind_eq_bind, Option.bind_some]
        by_cases cut : after.length < length
        · rw [if_pos cut, if_pos cut]
          rfl
        · have within : length ≤ after.length := Nat.not_lt.1 cut
          rw [if_neg cut, if_neg cut, upTo?_of_le within, from?_of_le within]
          simp only [Option.bind_some]
          cases readJson (after.take length) with
          | error e => rfl
          | ok info =>
            have rests : (after.drop length).length < Clock.wordEnd := by
              have behind := length_rest_le read
              rw [List.length_drop]
              omega
            dsimp only
            rw [readBody_eq_some rests]
            cases Framing.readBody (after.drop length) <;> rfl

end Word

/-! ### The messages that are read -/

/-- **A message is read exactly if it is written from parts.**  What is read are those parts, of
which there is one choice; every other byte string has an error; and whatever the bytes are, as long
as their number is a word, nothing is cut that is not there and no sum leaves a word. -/
theorem decodeMessage_exact (bytes : Bytes) :
    (∀ info content, decodeMessage bytes = .ok (info, content) ↔
      ∃ m : Message, m.Proper ∧ m.written = bytes ∧ Json.parse m.info.content = .ok info ∧
        Message.content? m.body = content) ∧
    (∀ m m' : Message, m.Proper → m'.Proper → m.written = bytes → m'.written = bytes → m = m') ∧
    ((¬ ∃ m : Message, ∃ info, m.Proper ∧ m.written = bytes ∧
        Json.parse m.info.content = .ok info) → ∃ e, decodeMessage bytes = .error e) ∧
    (bytes.length < Clock.wordEnd → Word.decodeMessage bytes = some (decodeMessage bytes)) := by
  refine ⟨fun info content => ⟨?_, ?_⟩, ?_, ?_, Word.decodeMessage_eq_some⟩
  · intro decoded
    obtain ⟨m, proper, rfl, parsed⟩ := written_of_decodeMessage decoded
    rw [decodeMessage_written proper parsed] at decoded
    obtain ⟨-, same⟩ := Prod.mk.inj (Except.ok.inj decoded)
    exact ⟨m, proper, rfl, parsed, same⟩
  · rintro ⟨m, proper, rfl, parsed, rfl⟩
    exact decodeMessage_written proper parsed
  · intro m m' proper proper' written written'
    exact proper.written_inj proper' (written.trans written'.symm)
  · intro none
    cases decoded : decodeMessage bytes with
    | error e => exact ⟨e, rfl⟩
    | ok found =>
      obtain ⟨m, proper, written, parsed⟩ := written_of_decodeMessage decoded
      exact (none ⟨m, found.1, proper, written, parsed⟩).elim

/-- A message with no information and a body of one byte, whose length has a zero in front. -/
def trialMessage : Message := ⟨⟨[50], [123, 125]⟩, some ⟨[48, 49], [101]⟩⟩

theorem proper_trialMessage : trialMessage.Proper := by
  have two : value [50] = 2 := (number_eq_value [50]).symm.trans rfl
  have one : value [48, 49] = 1 := (number_eq_value [48, 49]).symm.trans rfl
  have info : (⟨[50], [123, 125]⟩ : Section).Proper := ⟨(numeral_iff _).2 (by decide), two⟩
  have body : (⟨[48, 49], [101]⟩ : Section).Proper := ⟨(numeral_iff _).2 (by decide), one⟩
  refine ⟨info, fun s same => ?_⟩
  rw [← Option.some.inj same]
  exact body

theorem decodeMessage_exact_trialMessage :
    trialMessage.Proper ∧ trialMessage.written = Bytes.ofString "l2:{}01:ee" ∧
    decodeMessage (Bytes.ofString "l2:{}01:ee") = .ok (.object [], some [101]) ∧
    (∀ m : Message, m.Proper → m.written = Bytes.ofString "l2:{}01:ee" → m = trialMessage) ∧
    Word.decodeMessage (Bytes.ofString "l2:{}01:ee")
      = some (decodeMessage (Bytes.ofString "l2:{}01:ee")) ∧
    ∃ e, decodeMessage [] = .error e := by
  have written : trialMessage.written = Bytes.ofString "l2:{}01:ee" := by decide +kernel
  obtain ⟨reads, unique, -, words⟩ := decodeMessage_exact (Bytes.ofString "l2:{}01:ee")
  obtain ⟨-, -, others, -⟩ := decodeMessage_exact []
  have parsed : Json.parse [123, 125] = .ok (.object []) := by rfl
  refine ⟨proper_trialMessage, written, ?_, ?_, words (by decide +kernel), others ?_⟩
  · exact (reads _ _).2 ⟨trialMessage, proper_trialMessage, written, parsed, by decide⟩
  · exact fun m proper same => unique m trialMessage proper proper_trialMessage same written
  · rintro ⟨m, info, -, same, -⟩
    cases same

end OnionSwarm.Framing
