/-
Strings in JSON text are read back.

A string is written character by character and read byte by byte.  What joins the two is the list
of parts that one character leaves behind: the reader finds them at the escaped form of the
character, and put together they are the character's bytes (`parts_of_escape`).  An escaped form
has one of three shapes, and there is one lemma of the reader for each.
-/
import Mathlib.Tactic.Common
import OnionSwarm.Json.Render
import OnionSwarm.Json.Written
import OnionSwarm.Proofs.Text.Utf8

namespace OnionSwarm.Json

open Written (Piece join? textOf?)

/-! ### Bytes of a character -/

/-- A byte below 128 is the whole character. -/
theorem byte_encodeChar {c : Char} {b : UInt8} (h : b ∈ String.utf8EncodeChar c) :
    b.toNat = c.toNat ∧ c.toNat < 0x80 ∨ 0x80 ≤ b.toNat := by
  have range := Text.Utf8.code_range c
  unfold String.utf8EncodeChar at h
  simp only [show c.val.toNat = c.toNat from rfl] at h
  split at h
  · left
    rw [List.mem_singleton.mp h, Text.Utf8.toNat_byte (by omega)]
    omega
  · right
    split at h
    · simp only [List.mem_cons, List.not_mem_nil, or_false] at h
      rcases h with rfl | rfl <;> rw [Text.Utf8.toNat_byte (by omega)] <;> omega
    · split at h
      · simp only [List.mem_cons, List.not_mem_nil, or_false] at h
        rcases h with rfl | rfl | rfl <;> rw [Text.Utf8.toNat_byte (by omega)] <;> omega
      · simp only [List.mem_cons, List.not_mem_nil, or_false] at h
        rcases h with rfl | rfl | rfl | rfl <;> rw [Text.Utf8.toNat_byte (by omega)] <;> omega

/-! ### One part of a string -/

theorem pieces_byte {b : UInt8} {rest after : Bytes} {ps : List Piece} (notQuote : b ≠ 34)
    (notSlash : b ≠ 92) (notControl : ¬ b < 32) (h : Written.pieces rest = .ok (ps, after)) :
    Written.pieces (b :: rest) = .ok (.byte b :: ps, after) := by
  rw [Written.pieces.eq_def]
  split
  · simp_all
  · simp_all
  · simp_all
  · simp_all
  · rename_i b' rest' _ _ _ heq
    obtain ⟨rfl, rfl⟩ := List.cons.inj heq
    rw [if_neg notControl, h]

theorem pieces_escaped {b e : UInt8} {rest after : Bytes} {ps : List Piece} (notUnit : b ≠ 117)
    (h : Written.escaped? b = some e) (more : Written.pieces rest = .ok (ps, after)) :
    Written.pieces (92 :: b :: rest) = .ok (.byte e :: ps, after) := by
  rw [Written.pieces.eq_def]
  split
  · simp_all
  · simp_all
  · simp_all
  · rename_i b' rest' _ heq
    simp only [List.cons.injEq, true_and] at heq
    obtain ⟨rfl, rfl⟩ := heq
    rw [h, more]
  · rename_i _ _ _ _ third heq
    obtain ⟨rfl, rfl⟩ := List.cons.inj heq
    exact (third _ _ rfl rfl).elim

/-- A hexadecimal digit is one byte of text, and is read as what it was written for. -/
theorem hexDigit?_digitChar : ∀ n < 16,
    String.utf8EncodeChar (Nat.digitChar n) = [UInt8.ofNat (Nat.digitChar n).toNat] ∧
      Written.hexDigit? (UInt8.ofNat (Nat.digitChar n).toNat) = some n := by
  decide

theorem pieces_control {n : Nat} {rest after : Bytes} {ps : List Piece} (small : n < 32)
    (more : Written.pieces rest = .ok (ps, after)) :
    Written.pieces (92 :: 117 :: 48 :: 48 :: UInt8.ofNat (Nat.digitChar (n / 16)).toNat ::
      UInt8.ofNat (Nat.digitChar (n % 16)).toNat :: rest) = .ok (.unit n :: ps, after) := by
  rw [Written.pieces.eq_def]
  simp only [(hexDigit?_digitChar (n / 16) (by omega)).2,
    (hexDigit?_digitChar (n % 16) (by omega)).2, more, show Written.hexDigit? 48 = some 0 from rfl]
  rw [show ((0 * 16 + 0) * 16 + n / 16) * 16 + n % 16 = n by omega]

/-! ### The shapes of an escaped character -/

/-- The characters that are written as a backslash and a letter, each with its letter. -/
def letters : List (Char × Char) :=
  [('"', '"'), ('\\', '\\'), ('\n', 'n'), ('\r', 'r'), ('\t', 't'), ('\x08', 'b'), ('\x0c', 'f')]

theorem letter_byte : ∀ p ∈ letters,
    String.utf8EncodeChar p.2 = [UInt8.ofNat p.2.toNat] ∧
      String.utf8EncodeChar p.1 = [UInt8.ofNat p.1.toNat] ∧ UInt8.ofNat p.2.toNat ≠ 117 ∧
      Written.escaped? (UInt8.ofNat p.2.toNat) = some (UInt8.ofNat p.1.toNat) := by
  decide

theorem escape_eq (c : Char) :
    (∃ letter, (c, letter) ∈ letters ∧ escape c = ['\\', letter]) ∨
    (c.toNat < 32 ∧ escape c =
      ['\\', 'u', '0', '0', Nat.digitChar (c.toNat / 16), Nat.digitChar (c.toNat % 16)]) ∨
    (32 ≤ c.toNat ∧ c ≠ '"' ∧ c ≠ '\\' ∧ escape c = [c]) := by
  unfold escape
  -- the characters with a letter first, then the control characters, then all others
  split
  · subst_vars; exact .inl ⟨_, by decide, rfl⟩
  split
  · subst_vars; exact .inl ⟨_, by decide, rfl⟩
  split
  · subst_vars; exact .inl ⟨_, by decide, rfl⟩
  split
  · subst_vars; exact .inl ⟨_, by decide, rfl⟩
  split
  · subst_vars; exact .inl ⟨_, by decide, rfl⟩
  split
  · rename_i h
    have : c = '\x08' := by rw [← Char.ofNat_toNat c, h]
    subst this
    exact .inl ⟨_, by decide, rfl⟩
  split
  · rename_i h
    have : c = '\x0c' := by rw [← Char.ofNat_toNat c, h]
    subst this
    exact .inl ⟨_, by decide, rfl⟩
  split
  · rename_i h
    exact .inr (.inl ⟨h, rfl⟩)
  · rename_i quote slash _ _ _ _ _ h
    exact .inr (.inr ⟨by omega, quote, slash, rfl⟩)

/-! ### Parts put together -/

theorem join?_bytes (bs : Bytes) (ps : List Piece) :
    join? (bs.map .byte ++ ps) = (join? ps).map (bs ++ ·) := by
  induction bs with
  | nil => simp
  | cons b bs ih =>
    rw [List.map_cons, List.cons_append, join?, ih, Option.map_map]
    rfl

theorem join?_control {n : Nat} (small : n < 32) (ps : List Piece) :
    join? (.unit n :: ps) = (join? ps).map (Written.codePoint n ++ ·) := by
  rw [Written.join?.eq_def]
  split
  · simp_all
  · simp_all
  · rename_i heq
    obtain ⟨h, rfl⟩ := List.cons.inj heq
    obtain rfl := Piece.unit.inj h
    rw [if_neg (by omega), if_neg (by omega)]
  · rename_i heq
    obtain ⟨h, rfl⟩ := List.cons.inj heq
    obtain rfl := Piece.unit.inj h
    rw [if_neg (by omega)]

/-- **A character of a text is read back from its escaped form**, whatever comes after it. -/
theorem parts_of_escape (c : Char) :
    ∃ parts : List Piece,
      (∀ {rest after ps}, Written.pieces rest = .ok (ps, after) →
        Written.pieces ((escape c).flatMap String.utf8EncodeChar ++ rest)
          = .ok (parts ++ ps, after)) ∧
      ∀ ps, join? (parts ++ ps) = (join? ps).map (String.utf8EncodeChar c ++ ·) := by
  -- a letter behind a backslash, a number in hexadecimal digits, or the character itself
  rcases escape_eq c with ⟨letter, mem, form⟩ | ⟨small, form⟩ | ⟨large, quote, slash, form⟩
  · refine ⟨(String.utf8EncodeChar c).map .byte, fun {rest after ps} more => ?_,
      fun ps => join?_bytes _ ps⟩
    rw [form]
    obtain ⟨written, meant, notUnit, read⟩ := letter_byte _ mem
    simp only at written meant notUnit read
    rw [List.flatMap_cons, List.flatMap_cons, List.flatMap_nil, List.append_nil, written, meant]
    exact pieces_escaped notUnit read more
  · refine ⟨[.unit c.toNat], fun {rest after ps} more => ?_, fun ps => ?_⟩
    · rw [form]
      have high := (hexDigit?_digitChar (c.toNat / 16) (by omega)).1
      have low := (hexDigit?_digitChar (c.toNat % 16) (by omega)).1
      simp only [List.flatMap_cons, List.flatMap_nil, high, low, List.append_nil]
      exact pieces_control small more
    · rw [List.singleton_append, join?_control small, Written.codePoint, Char.ofNat_toNat]
  · refine ⟨(String.utf8EncodeChar c).map .byte, fun {rest after ps} more => ?_,
      fun ps => join?_bytes _ ps⟩
    rw [form, List.flatMap_cons, List.flatMap_nil, List.append_nil]
    have plain : ∀ b ∈ String.utf8EncodeChar c, b ≠ 34 ∧ b ≠ 92 ∧ ¬ b < 32 := by
      have notQuote : c.toNat ≠ 34 := fun h => quote (by rw [← Char.ofNat_toNat c, h])
      have notSlash : c.toNat ≠ 92 := fun h => slash (by rw [← Char.ofNat_toNat c, h])
      intro b mem
      have range := byte_encodeChar mem
      simp only [ne_eq, ← UInt8.toNat_inj, UInt8.lt_iff_toNat_lt, UInt8.reduceToNat]
      omega
    generalize String.utf8EncodeChar c = bytes at plain
    induction bytes with
    | nil => exact more
    | cons b bytes ih =>
      obtain ⟨notQuote, notSlash, notControl⟩ := plain b (by simp)
      exact pieces_byte notQuote notSlash notControl (ih fun b' mem => plain b' (by simp [mem]))

/-- **A text is read back from its quoted form**, up to its closing quote. -/
theorem pieces_quote (s : String) (rest : Bytes) :
    ∃ parts, Written.pieces ((s.toList.flatMap escape).flatMap String.utf8EncodeChar ++ 34 :: rest)
        = .ok (parts, rest) ∧ textOf? parts = some s := by
  -- the characters still to be read, from the last one back
  have each : ∀ cs : List Char, ∃ parts,
      Written.pieces ((cs.flatMap escape).flatMap String.utf8EncodeChar ++ 34 :: rest)
        = .ok (parts, rest) ∧ join? parts = some (cs.flatMap String.utf8EncodeChar) := by
    intro cs
    induction cs with
    | nil =>
      refine ⟨[], ?_, rfl⟩
      rw [List.flatMap_nil, List.flatMap_nil, List.nil_append, Written.pieces]
    | cons c cs ih =>
      obtain ⟨parts, read, joined⟩ := ih
      obtain ⟨first, reads, joins⟩ := parts_of_escape c
      refine ⟨first ++ parts, ?_, ?_⟩
      · rw [List.flatMap_cons, List.flatMap_append, List.append_assoc]
        exact reads read
      · rw [joins, joined, Option.map_some, List.flatMap_cons]
  obtain ⟨parts, read, joined⟩ := each s.toList
  refine ⟨parts, read, ?_⟩
  rw [textOf?, joined]
  exact Text.Utf8.decode?_ofString s

end OnionSwarm.Json
