/-
JSON that is written is read back, in the compact form and in the wide one.

Not every value can be: a double is written with as few digits as tell it apart, an object whose
keys do not ascend is put in order, and the reader gives up where arrays and objects lie too deep.
What is left is `Kept`, and that is all the JSON that the program itself sends inside an onion.

Reading has two stages, and so has the argument.  The reader of the structure finds the tree
`written v` at the text of `v`, whatever stands behind it (`reads`); this is an induction over the
value in which the fuel is measured by the length of the text.  The blanks between the parts of the
text are a parameter of it, because the reader skips them, and the forms differ in nothing else.
Only the numbers can hinder it, so it holds of every value that is `Legible`, and a record that is
read from the tree itself needs no more (`read_toBytes`, `read_renderWide`).  The tree is then made
into the value it came from (`value?_written`).
-/
import Mathlib.Tactic.Common
import OnionSwarm.Proofs.Json.Numbers
import OnionSwarm.Proofs.Json.Strings

namespace OnionSwarm.Json

open Written (skipBlank value startsNumeral)

/-! ### The text of a value -/

/-- Byte strings with a comma between any two. -/
def commas : List Bytes → Bytes
  | [] => []
  | [bytes] => bytes
  | bytes :: next :: more => bytes ++ 44 :: commas (next :: more)

/-- The blanks in a text. -/
structure Spacing where
  /-- What stands in front of an item or a member, and of the mark that closes them, inside some
  arrays and objects. -/
  gap : Nat → Bytes
  /-- What stands behind the colon of a member. -/
  afterColon : Bytes
  blank_gap : ∀ depth, ∀ b ∈ gap depth, IsBlank b
  blank_afterColon : ∀ b ∈ afterColon, IsBlank b

mutual
/-- The text of a value inside `depth` arrays and objects. -/
def spell (s : Spacing) (depth : Nat) : Json → Bytes
  | .array [] => [91, 93]
  | .array (v :: vs) =>
    91 :: (commas (spellItems s (depth + 1) (v :: vs)) ++ (s.gap depth ++ [93]))
  | .object [] => [123, 125]
  | .object (m :: ms) =>
    123 :: (commas (spellMembers s (depth + 1) (m :: ms)) ++ (s.gap depth ++ [125]))
  | .null => Bytes.ofString "null"
  | .bool b => Bytes.ofString (if b then "true" else "false")
  | .number n => Bytes.ofString (renderNumber n)
  | .text t => Bytes.ofString (quote t)

/-- The texts of items. -/
def spellItems (s : Spacing) (depth : Nat) : List Json → List Bytes
  | [] => []
  | v :: vs => (s.gap depth ++ spell s depth v) :: spellItems s depth vs

/-- The texts of members. -/
def spellMembers (s : Spacing) (depth : Nat) : List (String × Json) → List Bytes
  | [] => []
  | (k, v) :: ms =>
    (s.gap depth ++ (Bytes.ofString (quote k) ++ 58 :: (s.afterColon ++ spell s depth v))) ::
      spellMembers s depth ms
end

theorem ofString_append (s t : String) :
    Bytes.ofString (s ++ t) = Bytes.ofString s ++ Bytes.ofString t := by
  rw [Bytes.ofString, String.toList_append, List.flatMap_append]
  rfl

theorem ofString_intercalate (texts : List String) :
    Bytes.ofString (",".intercalate texts) = commas (texts.map Bytes.ofString) := by
  induction texts with
  | nil => rfl
  | cons text more ih =>
    cases more with
    | nil => rw [String.intercalate_singleton]; rfl
    | cons next more =>
      rw [String.intercalate_cons_cons, ofString_append, ofString_append, ih, List.append_assoc]
      rfl

/-- No blanks. -/
def Spacing.compact : Spacing := ⟨fun _ => [], [], fun _ => nofun, nofun⟩

mutual
theorem spell_compact (depth : Nat) : ∀ v : Json, spell .compact depth v = v.toBytes
  | .null | .bool _ | .number _ | .text _ => rfl
  | .array [] | .object [] => rfl
  | .array (v :: vs) => by
    rw [spell, spellItems_compact (depth + 1) (v :: vs), toBytes, render, ofString_append,
      ofString_append, ofString_intercalate, List.append_assoc]
    rfl
  | .object (m :: ms) => by
    rw [spell, spellMembers_compact (depth + 1) (m :: ms), toBytes, render, ofString_append,
      ofString_append, ofString_intercalate, List.append_assoc]
    rfl

theorem spellItems_compact (depth : Nat) : ∀ vs : List Json,
    spellItems .compact depth vs = (renderItems vs).map Bytes.ofString
  | [] => rfl
  | v :: vs => by
    rw [spellItems, spell_compact depth v, spellItems_compact depth vs, renderItems]
    rfl

theorem spellMembers_compact (depth : Nat) : ∀ ms : List (String × Json),
    spellMembers .compact depth ms = (renderMembers ms).map Bytes.ofString
  | [] => rfl
  | (k, v) :: ms => by
    rw [spellMembers, spell_compact depth v, spellMembers_compact depth ms, renderMembers,
      List.map_cons, ofString_append, ofString_append, List.append_assoc]
    simp only [Spacing.compact, List.nil_append]
    rfl
end

theorem ofString_newline (depth : Nat) :
    Bytes.ofString (newline depth) = 10 :: List.replicate (2 * depth) 32 := by
  rw [Bytes.ofString, newline, String.toList_ofList, List.flatMap_cons]
  have spaces (count : Nat) :
      (List.replicate count ' ').flatMap String.utf8EncodeChar = List.replicate count 32 := by
    induction count with
    | zero => rfl
    | succ count ih => rw [List.replicate_succ, List.flatMap_cons, ih]; rfl
  rw [spaces]
  rfl

/-- Every part on a line of its own, and one blank behind a colon. -/
def Spacing.wide : Spacing where
  gap depth := Bytes.ofString (newline depth)
  afterColon := [32]
  blank_gap depth b mem := by
    rw [ofString_newline, List.mem_cons, List.mem_replicate] at mem
    rcases mem with rfl | ⟨-, rfl⟩ <;> simp [IsBlank]
  blank_afterColon b mem := .inl (List.mem_singleton.1 mem)

mutual
theorem spell_wide (depth : Nat) : ∀ v : Json,
    spell .wide depth v = Bytes.ofString (renderWideAt depth v)
  | .null | .bool _ | .number _ | .text _ => rfl
  | .array [] => by rw [spell, renderWideAt]; rfl
  | .object [] => by rw [spell, renderWideAt]; rfl
  | .array (v :: vs) => by
    rw [spell, spellItems_wide (depth + 1) (v :: vs), renderWideAt, ofString_append,
      ofString_append, ofString_append, ofString_intercalate, List.append_assoc]
    · rfl
    · nofun
  | .object (m :: ms) => by
    rw [spell, spellMembers_wide (depth + 1) (m :: ms), renderWideAt, ofString_append,
      ofString_append, ofString_append, ofString_intercalate, List.append_assoc]
    · rfl
    · nofun

theorem spellItems_wide (depth : Nat) : ∀ vs : List Json,
    spellItems .wide depth vs = (wideItems depth vs).map Bytes.ofString
  | [] => rfl
  | v :: vs => by
    rw [spellItems, spell_wide depth v, spellItems_wide depth vs, wideItems, List.map_cons,
      ofString_append]
    rfl

theorem spellMembers_wide (depth : Nat) : ∀ ms : List (String × Json),
    spellMembers .wide depth ms = (wideMembers depth ms).map Bytes.ofString
  | [] => rfl
  | (k, v) :: ms => by
    rw [spellMembers, spell_wide depth v, spellMembers_wide depth ms, wideMembers,
      List.map_cons, ofString_append, ofString_append, ofString_append, List.append_assoc,
      List.append_assoc]
    rfl
end

theorem ofString_quote (s : String) :
    Bytes.ofString (quote s) =
      34 :: ((s.toList.flatMap escape).flatMap String.utf8EncodeChar ++ [34]) := by
  rw [Bytes.ofString, quote, String.toList_ofList, List.flatMap_cons, List.flatMap_append]
  rfl

/-! ### Values that are kept -/

mutual
/-- A value whose text has the tree of the value: its numbers fit. -/
def Legible : Json → Prop
  | .number n => n.Fits
  | .array vs => LegibleItems vs
  | .object ms => LegibleMembers ms
  | _ => True

/-- Items that are legible. -/
def LegibleItems : List Json → Prop
  | [] => True
  | v :: rest => Legible v ∧ LegibleItems rest

/-- Members that are legible. -/
def LegibleMembers : List (String × Json) → Prop
  | [] => True
  | (_, v) :: rest => Legible v ∧ LegibleMembers rest
end

mutual
/-- A value that the compact form keeps: its numbers fit, the keys of its objects ascend, and no
more than `levels` arrays and objects lie inside one another. -/
def Kept (levels : Nat) : Json → Prop
  | .number n => n.Fits
  | .array vs =>
    match levels with
    | 0 => False
    | levels + 1 => KeptItems levels vs
  | .object ms =>
    match levels with
    | 0 => False
    | levels + 1 => (ms.map Prod.fst).IsChain (· < ·) ∧ KeptMembers levels ms
  | _ => True

/-- Items that are kept. -/
def KeptItems (levels : Nat) : List Json → Prop
  | [] => True
  | v :: rest => Kept levels v ∧ KeptItems levels rest

/-- Members that are kept. -/
def KeptMembers (levels : Nat) : List (String × Json) → Prop
  | [] => True
  | (_, v) :: rest => Kept levels v ∧ KeptMembers levels rest
end

mutual
theorem legible_of_kept : ∀ {v : Json} {levels : Nat}, Kept levels v → Legible v
  | .null, _, _ => trivial
  | .bool _, _, _ => trivial
  | .number _, _, fits => fits
  | .text _, _, _ => trivial
  | .array _, 0, kept => kept.elim
  | .array _, _ + 1, kept => legibleItems_of_kept kept
  | .object _, 0, kept => kept.elim
  | .object _, _ + 1, kept => legibleMembers_of_kept kept.2

theorem legibleItems_of_kept : ∀ {vs : List Json} {levels : Nat}, KeptItems levels vs →
    LegibleItems vs
  | [], _, _ => trivial
  | _ :: _, _, kept => ⟨legible_of_kept kept.1, legibleItems_of_kept kept.2⟩

theorem legibleMembers_of_kept : ∀ {ms : List (String × Json)} {levels : Nat},
    KeptMembers levels ms → LegibleMembers ms
  | [], _, _ => trivial
  | (_, _) :: _, _, kept => ⟨legible_of_kept kept.1, legibleMembers_of_kept kept.2⟩
end

mutual
/-- The tree that is read at the text of a value. -/
def written : Json → Written
  | .null => .null
  | .bool b => .bool b
  | .number n => .number (some n)
  | .text s => .text (some s)
  | .array vs => .array (writtenItems vs) none
  | .object ms => .object (writtenMembers ms) none

/-- The trees of items. -/
def writtenItems : List Json → List Written
  | [] => []
  | v :: rest => written v :: writtenItems rest

/-- The trees of members. -/
def writtenMembers : List (String × Json) → List (Option String × Written)
  | [] => []
  | (k, v) :: rest => (some k, written v) :: writtenMembers rest
end

/-! ### Blanks and first bytes -/

theorem skipBlank_append {blanks : Bytes} (blank : ∀ b ∈ blanks, IsBlank b) (rest : Bytes) :
    skipBlank (blanks ++ rest) = skipBlank rest := by
  induction blanks with
  | nil => rfl
  | cons b blanks ih =>
    have first : b = 32 ∨ b = 9 ∨ b = 10 ∨ b = 13 := blank b (by simp)
    rw [List.cons_append, skipBlank, if_pos first, ih fun b' mem => blank b' (by simp [mem])]

theorem ends_append {blanks : Bytes} (blank : ∀ b ∈ blanks, IsBlank b) {rest : Bytes}
    (ends : Ends rest) : Ends (blanks ++ rest) := by
  cases blanks with
  | nil => exact ends
  | cons b blanks => exact .inr (blank b (by simp))

/-- The first byte of a value: it is not blank, and does not close an array. -/
def Begins (b : UInt8) : Prop := ¬ IsBlank b ∧ b ≠ 93

theorem skipBlank_of_begins {b : UInt8} (h : Begins b) (rest : Bytes) :
    skipBlank (b :: rest) = b :: rest := by
  obtain ⟨notBlank, -⟩ := h
  rw [IsBlank] at notBlank
  rw [skipBlank, if_neg notBlank]

theorem skipBlank_mark {b : UInt8} (mark : b = 44 ∨ b = 93 ∨ b = 125 ∨ b = 58) (rest : Bytes) :
    skipBlank (b :: rest) = b :: rest := by
  rcases mark with rfl | rfl | rfl | rfl <;> rfl

/-- The first byte of a numeral is none of the bytes that the other values start with. -/
theorem begins_of_startsNumeral {b : UInt8} (h : startsNumeral b = true) :
    Begins b ∧ b ≠ 110 ∧ b ≠ 116 ∧ b ≠ 102 ∧ b ≠ 34 ∧ b ≠ 91 ∧ b ≠ 123 := by
  simp only [startsNumeral, Bool.or_eq_true, Bool.and_eq_true, decide_eq_true_eq,
    ← UInt8.toNat_inj, UInt8.le_iff_toNat_le, UInt8.reduceToNat] at h
  simp only [Begins, IsBlank, ne_eq, ← UInt8.toNat_inj, UInt8.reduceToNat]
  omega

theorem spell_shape (s : Spacing) (depth : Nat) {v : Json} (legible : Legible v) :
    ∃ b bs, spell s depth v = b :: bs ∧ Begins b := by
  cases v with
  | null => exact ⟨110, [117, 108, 108], rfl, by simp [Begins, IsBlank]⟩
  | bool b =>
    cases b with
    | false => exact ⟨102, [97, 108, 115, 101], rfl, by simp [Begins, IsBlank]⟩
    | true => exact ⟨116, [114, 117, 101], rfl, by simp [Begins, IsBlank]⟩
  | number n =>
    obtain ⟨b, bs, form, starts, -⟩ := read_renderNumber (n := n) legible ends_nil
    exact ⟨b, bs, form, (begins_of_startsNumeral starts).1⟩
  | text t => exact ⟨_, _, ofString_quote t, by simp [Begins, IsBlank]⟩
  | array vs =>
    cases vs with
    | nil => exact ⟨91, [93], rfl, by simp [Begins, IsBlank]⟩
    | cons v vs => exact ⟨91, _, rfl, by simp [Begins, IsBlank]⟩
  | object ms =>
    cases ms with
    | nil => exact ⟨123, [125], rfl, by simp [Begins, IsBlank]⟩
    | cons m ms => exact ⟨123, _, rfl, by simp [Begins, IsBlank]⟩

theorem commas_append (front bytes : Bytes) (more : List Bytes) :
    commas ((front ++ bytes) :: more) = front ++ commas (bytes :: more) := by
  cases more with
  | nil => rfl
  | cons next more => rw [commas, commas, List.append_assoc]

theorem commas_cons_shape (b : UInt8) (bs : Bytes) (more : List Bytes) :
    ∃ tail, commas ((b :: bs) :: more) = b :: tail := by
  cases more with
  | nil => exact ⟨bs, rfl⟩
  | cons next more => exact ⟨_, rfl⟩

/-! ### The tree at the text of a value -/

theorem value_append {blanks : Bytes} (blank : ∀ b ∈ blanks, IsBlank b) (fuel : Nat)
    (bytes : Bytes) : value (fuel + 1) (blanks ++ bytes) = value (fuel + 1) bytes := by
  rw [value, value, skipBlank_append blank]

theorem value_number {n : Number} {rest : Bytes} (fuel : Nat) (fits : n.Fits) (ends : Ends rest) :
    value (fuel + 1) (Bytes.ofString (renderNumber n) ++ rest) = (.number (some n), .ok rest) := by
  obtain ⟨b, bs, form, starts, read⟩ := read_renderNumber fits ends
  obtain ⟨begins, others⟩ := begins_of_startsNumeral starts
  rw [form, List.cons_append, value, skipBlank_of_begins begins]
  rw [List.cons_append] at read
  split
  all_goals simp_all

theorem value_text (fuel : Nat) (s : String) (rest : Bytes) :
    value (fuel + 1) (Bytes.ofString (quote s) ++ rest) = (.text (some s), .ok rest) := by
  obtain ⟨parts, read, meant⟩ := pieces_quote s rest
  rw [ofString_quote, List.cons_append, List.append_assoc, List.singleton_append, value,
    skipBlank_of_begins (by simp [Begins, IsBlank])]
  simp only [read, meant]

section Structure

variable {s : Spacing} {depth fuel : Nat}

/-- An array is read like its items, once it is known not to be empty. -/
theorem value_array {v : Json} {vs : List Json} {rest : Bytes} (legible : Legible v)
    (read : Written.items fuel
        (commas (spellItems s (depth + 1) (v :: vs)) ++ (s.gap depth ++ 93 :: rest))
      = (writtenItems (v :: vs), .ok rest)) :
    value (fuel + 1) (spell s depth (.array (v :: vs)) ++ rest)
      = (written (.array (v :: vs)), .ok rest) := by
  obtain ⟨b, bs, form, begins⟩ := spell_shape s (depth + 1) legible
  obtain ⟨tail, shape⟩ := commas_cons_shape b bs (spellItems s (depth + 1) vs)
  rw [spell, List.cons_append, List.append_assoc, List.append_assoc, List.singleton_append, value,
    skipBlank_of_begins (by simp [Begins, IsBlank])]
  rw [spellItems, commas_append, form, shape, List.append_assoc, List.cons_append] at read ⊢
  simp only [skipBlank_append (s.blank_gap _), skipBlank_of_begins begins]
  split
  · rename_i closed
    exact (begins.2 (List.cons.inj closed).1).elim
  · rw [read]
    rfl

/-- An object is read like its members, once it is known not to be empty. -/
theorem value_object {m : String × Json} {ms : List (String × Json)} {rest : Bytes}
    (read : Written.members fuel
        (commas (spellMembers s (depth + 1) (m :: ms)) ++ (s.gap depth ++ 125 :: rest))
      = (writtenMembers (m :: ms), .ok rest)) :
    value (fuel + 1) (spell s depth (.object (m :: ms)) ++ rest)
      = (written (.object (m :: ms)), .ok rest) := by
  obtain ⟨k, v⟩ := m
  rw [spell, List.cons_append, List.append_assoc, List.append_assoc, List.singleton_append, value,
    skipBlank_of_begins (by simp [Begins, IsBlank])]
  rw [spellMembers, commas_append, ofString_quote, List.cons_append] at read ⊢
  obtain ⟨tail, shape⟩ := commas_cons_shape 34 _ (spellMembers s (depth + 1) ms)
  rw [shape, List.append_assoc, List.cons_append] at read ⊢
  simp only [skipBlank_append (s.blank_gap _),
    skipBlank_of_begins (b := 34) (by simp [Begins, IsBlank])]
  rw [read]
  rfl

/-- The member that comes first, with what stands behind it left to be read. -/
theorem members_first {k : String} {v : Json} {rest : Bytes} {w : Written}
    (read : value fuel (s.afterColon ++ (spell s depth v ++ rest)) = (w, .ok rest)) :
    Written.members (fuel + 1) (s.gap depth ++
        (Bytes.ofString (quote k) ++ 58 :: (s.afterColon ++ spell s depth v)) ++ rest) =
      match skipBlank rest with
      | 125 :: after => ([(some k, w)], .ok after)
      | 44 :: more =>
        let (ms, after) := Written.members fuel more
        ((some k, w) :: ms, after)
      | other => ([(some k, w)], .error (Written.unmarked .expectedSeparator other)) := by
  obtain ⟨parts, found, meant⟩ := pieces_quote k (58 :: (s.afterColon ++ (spell s depth v ++ rest)))
  rw [List.append_assoc, List.append_assoc, ofString_quote, List.cons_append, List.append_assoc,
    List.singleton_append, List.cons_append, List.append_assoc, Written.members,
    skipBlank_append (s.blank_gap _), skipBlank_of_begins (by simp [Begins, IsBlank])]
  simp only [found, meant]
  rw [skipBlank_mark (by simp)]
  simp only []
  generalize value fuel (s.afterColon ++ (spell s depth v ++ rest)) = answer at read ⊢
  subst read
  rfl

end Structure

/-- With this much fuel the reader finds the trees of all texts that the fuel is enough for.  It
pays twice for each byte: once for the step that takes it, once for going from a list to its first
part. -/
structure Reads (s : Spacing) (fuel : Nat) : Prop where
  /-- One value, with blanks in front and something behind it that ends it. -/
  value : ∀ {depth : Nat} {v : Json} {blanks rest : Bytes}, Legible v →
    (∀ b ∈ blanks, IsBlank b) → 2 * (spell s depth v).length ≤ fuel → Ends rest →
    value fuel (blanks ++ (spell s depth v ++ rest)) = (written v, .ok rest)
  /-- The items of an array that is not empty. -/
  items : ∀ (depth : Nat) {v : Json} {vs : List Json}, Legible v → LegibleItems vs →
    2 * (commas (spellItems s (depth + 1) (v :: vs))).length + 1 ≤ fuel →
    ∀ rest : Bytes, Written.items fuel
        (commas (spellItems s (depth + 1) (v :: vs)) ++ (s.gap depth ++ 93 :: rest))
      = (writtenItems (v :: vs), .ok rest)
  /-- The members of an object that is not empty. -/
  members : ∀ (depth : Nat) (k : String) {v : Json} {ms : List (String × Json)},
    Legible v → LegibleMembers ms →
    2 * (commas (spellMembers s (depth + 1) ((k, v) :: ms))).length + 1 ≤ fuel →
    ∀ rest : Bytes, Written.members fuel
        (commas (spellMembers s (depth + 1) ((k, v) :: ms)) ++ (s.gap depth ++ 125 :: rest))
      = (writtenMembers ((k, v) :: ms), .ok rest)

section Induction

variable {s : Spacing} {depth fuel : Nat} (reads : Reads s fuel)
include reads

theorem value_succ {v : Json} {blanks rest : Bytes} (legible : Legible v)
    (blank : ∀ b ∈ blanks, IsBlank b) (enough : 2 * (spell s depth v).length ≤ fuel + 1)
    (ends : Ends rest) :
    value (fuel + 1) (blanks ++ (spell s depth v ++ rest)) = (written v, .ok rest) := by
  rw [value_append blank]
  cases v with
  | null => rfl
  | bool b => cases b <;> rfl
  | number n => exact value_number fuel legible ends
  | text t => exact value_text fuel t rest
  | array vs =>
    cases vs with
    | nil => rfl
    | cons v vs =>
      obtain ⟨first, others⟩ := legible
      rw [spell, List.length_cons, List.length_append] at enough
      exact value_array first (reads.items depth first others (by omega) rest)
  | object ms =>
    cases ms with
    | nil => rfl
    | cons m ms =>
      obtain ⟨k, v⟩ := m
      obtain ⟨first, others⟩ := legible
      rw [spell, List.length_cons, List.length_append] at enough
      exact value_object (reads.members depth k first others (by omega) rest)

theorem items_succ {v : Json} {vs : List Json} (legible : Legible v) (others : LegibleItems vs)
    (enough : 2 * (commas (spellItems s (depth + 1) (v :: vs))).length + 1 ≤ fuel + 1)
    (rest : Bytes) :
    Written.items (fuel + 1)
        (commas (spellItems s (depth + 1) (v :: vs)) ++ (s.gap depth ++ 93 :: rest))
      = (writtenItems (v :: vs), .ok rest) := by
  rw [spellItems] at enough ⊢
  cases vs with
  | nil =>
    simp only [spellItems, commas, List.length_append] at enough ⊢
    rw [List.append_assoc, Written.items, reads.value legible (s.blank_gap _) (by omega)
      (ends_append (s.blank_gap _) (ends_mark (by simp) _))]
    simp only [skipBlank_append (s.blank_gap _)]
    rfl
  | cons next vs =>
    have after := reads.items depth others.1 others.2
    rw [spellItems] at enough after ⊢
    simp only [commas, List.length_append, List.length_cons] at enough
    rw [commas, List.append_assoc, List.append_assoc, List.cons_append, Written.items,
      reads.value legible (s.blank_gap _) (by omega) (ends_mark (by simp) _)]
    simp only [skipBlank_mark, true_or, after (by omega) rest]
    rfl

theorem members_succ (k : String) {v : Json} {ms : List (String × Json)} (legible : Legible v)
    (others : LegibleMembers ms)
    (enough : 2 * (commas (spellMembers s (depth + 1) ((k, v) :: ms))).length + 1 ≤ fuel + 1)
    (rest : Bytes) :
    Written.members (fuel + 1)
        (commas (spellMembers s (depth + 1) ((k, v) :: ms)) ++ (s.gap depth ++ 125 :: rest))
      = (writtenMembers ((k, v) :: ms), .ok rest) := by
  rw [spellMembers] at enough ⊢
  cases ms with
  | nil =>
    simp only [spellMembers, commas, List.length_append, List.length_cons] at enough ⊢
    rw [members_first (reads.value legible s.blank_afterColon (by omega)
      (ends_append (s.blank_gap _) (ends_mark (by simp) _)))]
    simp only [skipBlank_append (s.blank_gap _)]
    rfl
  | cons next ms =>
    obtain ⟨l, w⟩ := next
    have after := reads.members depth l others.1 others.2
    rw [spellMembers] at enough after ⊢
    simp only [commas, List.length_append, List.length_cons] at enough
    rw [commas, List.append_assoc, List.cons_append,
      members_first (reads.value legible s.blank_afterColon (by omega) (ends_mark (by simp) _))]
    simp only [skipBlank_mark, true_or, after (by omega) rest]
    rfl

end Induction

/-- **The reader finds the tree of a value at its text.**  The induction is on the fuel, as in the
reader itself. -/
theorem reads (s : Spacing) (fuel : Nat) : Reads s fuel := by
  induction fuel with
  | zero =>
    refine ⟨?_, ?_, ?_⟩
    · intro depth v _ rest legible _ enough _
      obtain ⟨b, bs, form, -⟩ := spell_shape s depth legible
      rw [form, List.length_cons] at enough
      omega
    · intro _ _ _ _ _ enough
      omega
    · intro _ _ _ _ _ _ enough
      omega
  | succ fuel ih => exact ⟨value_succ ih, fun _ => items_succ ih, fun _ => members_succ ih⟩

/-- A legible value alone is read without a fault, however it is spaced. -/
theorem read_spell (s : Spacing) (depth : Nat) {v : Json} (legible : Legible v) :
    Written.read (spell s depth v) = (written v, none) := by
  have found : value (2 * (spell s depth v).length + 2) ([] ++ (spell s depth v ++ [])) = _ :=
    (reads s _).value legible nofun (by omega) ends_nil
  rw [List.append_nil, List.nil_append] at found
  rw [Written.read, found]
  rfl

theorem read_toBytes {v : Json} (legible : Legible v) :
    Written.read v.toBytes = (written v, none) := by
  rw [← spell_compact 0 v]
  exact read_spell .compact 0 legible

theorem read_renderWide {v : Json} (legible : Legible v) :
    Written.read (Bytes.ofString v.renderWide) = (written v, none) := by
  rw [renderWide, ← spell_wide 0 v]
  exact read_spell .wide 0 legible

/-! ### The value of the tree -/

theorem foldr_insertNewMember {ms : List (String × Json)}
    (ascending : (ms.map Prod.fst).IsChain (· < ·)) :
    ms.foldr (fun m sorted => insertNewMember m.1 m.2 sorted) [] = ms := by
  induction ms with
  | nil => rfl
  | cons m ms ih =>
    cases ms with
    | nil => rfl
    | cons next ms =>
      rw [List.map_cons, List.map_cons, List.isChain_cons_cons] at ascending
      rw [List.foldr_cons, ih ascending.2, insertNewMember, if_pos ascending.1]

mutual
theorem value?_written : ∀ (v : Json) {levels : Nat}, Kept levels v →
    Written.value? levels (written v) = .ok v
  | .null, _, _ => rfl
  | .bool _, _, _ => rfl
  | .number _, _, _ => rfl
  | .text _, _, _ => rfl
  | .array _, 0, kept => kept.elim
  | .array vs, levels + 1, kept => by
    rw [written, Written.value?, items?_written vs kept]
    rfl
  | .object _, 0, kept => kept.elim
  | .object ms, levels + 1, kept => by
    rw [written, Written.value?, members?_written ms kept.2]
    simp only [unlessStopped, Functor.map, Except.map, ofMembers,
      foldr_insertNewMember kept.1]

theorem items?_written : ∀ (vs : List Json) {levels : Nat}, KeptItems levels vs →
    Written.items? levels (writtenItems vs) = .ok vs
  | [], _, _ => rfl
  | v :: vs, _, kept => by
    rw [writtenItems, Written.items?, value?_written v kept.1]
    simp only [items?_written vs kept.2]

theorem members?_written : ∀ (ms : List (String × Json)) {levels : Nat}, KeptMembers levels ms →
    Written.members? levels (writtenMembers ms) = .ok ms
  | [], _, _ => rfl
  | (k, v) :: ms, _, kept => by
    rw [writtenMembers, Written.members?, value?_written v kept.1]
    simp only [members?_written ms kept.2]
end

/-- **A value that is kept is read back from its compact form.** -/
theorem parse_toBytes {v : Json} (kept : Kept deepest v) : parse v.toBytes = .ok v := by
  rw [parse, Written.readAs, read_toBytes (legible_of_kept kept)]
  simp only [value?_written v kept, unlessStopped]

end OnionSwarm.Json
