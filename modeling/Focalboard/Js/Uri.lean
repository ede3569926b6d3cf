import Focalboard.Js.Text

/-!
# The data URI: `encodeURI`, percent-decoding and UTF-8

The exporter hands the CSV text to the browser as a `data:` URI built with `encodeURI`; the
browser saves the octets the URI's payload percent-decodes to, and the importer reads a file
back with `File.text()`, which decodes UTF-8. `encodeURI` leaves letters, digits, the marks
`-_.!~*'()`, the reserved characters `;/?:@&=+$,` and `#` as they are, and writes every other
character as `%XY` escapes of its UTF-8 octets, with upper-case digits. Octets are natural
numbers. The two round trips proved here, `percentDecode_encodeURI` and `utf8Decode_utf8`,
are what makes the saved file carry the exported text.
-/

namespace Focalboard.Js

/-- The UTF-8 octets of a character (RFC 3629), as `encodeURI` and the download write them. -/
def utf8Bytes (c : Char) : List Nat :=
  let n := c.toNat
  if n < 0x80 then [n]
  else if n < 0x800 then [0xC0 + n / 64, 0x80 + n % 64]
  else if n < 0x10000 then [0xE0 + n / 4096, 0x80 + n / 64 % 64, 0x80 + n % 64]
  else [0xF0 + n / 262144, 0x80 + n / 4096 % 64, 0x80 + n / 64 % 64, 0x80 + n % 64]

/-- The octets of a text. -/
def utf8 (s : List Char) : List Nat := s.flatMap utf8Bytes

@[simp] theorem utf8_nil : utf8 [] = [] := rfl

@[simp] theorem utf8_cons (c : Char) (s : List Char) : utf8 (c :: s) = utf8Bytes c ++ utf8 s := by
  simp [utf8]

@[simp] theorem utf8_append (s t : List Char) : utf8 (s ++ t) = utf8 s ++ utf8 t := by
  simp [utf8]

theorem toNat_valid (c : Char) : c.toNat < 0xD800 ∨ (0xDFFF < c.toNat ∧ c.toNat < 0x110000) := by
  simpa [UInt32.isValidChar, Nat.isValidChar, Char.toNat] using c.valid

theorem utf8Bytes_lt (c : Char) : ∀ b ∈ utf8Bytes c, b < 256 := by
  have := toNat_valid c
  dsimp only [utf8Bytes]
  split_ifs <;> simp <;> omega

/-- The decoder's state inside a character: the code point so far, the continuation octets still
owed, and the bounds the next one must lie within (WHATWG Encoding, UTF-8 decoder). -/
structure Utf8Pending where
  codePoint : Nat
  needed : Nat
  lower : Nat
  upper : Nat

/-- The decoder on an octet between characters. -/
def utf8Lead (b : Nat) : List Char × Option Utf8Pending :=
  if b ≤ 0x7F then ([Char.ofNat b], none)
  else if 0xC2 ≤ b ∧ b ≤ 0xDF then ([], some ⟨b % 32, 1, 0x80, 0xBF⟩)
  else if 0xE0 ≤ b ∧ b ≤ 0xEF then
    ([], some ⟨b % 16, 2, if b = 0xE0 then 0xA0 else 0x80, if b = 0xED then 0x9F else 0xBF⟩)
  else if 0xF0 ≤ b ∧ b ≤ 0xF4 then
    ([], some ⟨b % 8, 3, if b = 0xF0 then 0x90 else 0x80, if b = 0xF4 then 0x8F else 0xBF⟩)
  else ([replacementChar], none)

/-- One octet. An octet out of the bounds ends the pending character with U+FFFD and is read
again between characters. -/
def utf8Step : Option Utf8Pending → Nat → List Char × Option Utf8Pending
  | none, b => utf8Lead b
  | some p, b =>
    if b < p.lower ∨ p.upper < b then (replacementChar :: (utf8Lead b).1, (utf8Lead b).2)
    else if p.needed = 1 then ([Char.ofNat (p.codePoint * 64 + b % 64)], none)
    else ([], some ⟨p.codePoint * 64 + b % 64, p.needed - 1, 0x80, 0xBF⟩)

/-- The decoder over octets; a character cut off by the end is U+FFFD. -/
def utf8DecodeFrom : Option Utf8Pending → List Nat → List Char
  | none, [] => []
  | some _, [] => [replacementChar]
  | st, b :: rest => (utf8Step st b).1 ++ utf8DecodeFrom (utf8Step st b).2 rest

/-- `File.text()`: UTF-8 decode, which first drops a leading byte order mark. -/
def utf8Decode (bytes : List Nat) : List Char :=
  utf8DecodeFrom none (if bytes.take 3 = [0xEF, 0xBB, 0xBF] then bytes.drop 3 else bytes)

theorem utf8DecodeFrom_cons (st : Option Utf8Pending) (b : Nat) (rest : List Nat) :
    utf8DecodeFrom st (b :: rest) = (utf8Step st b).1 ++ utf8DecodeFrom (utf8Step st b).2 rest := by
  cases st <;> rfl

@[simp] theorem utf8Step_none (b : Nat) : utf8Step none b = utf8Lead b := rfl

theorem utf8Lead_one {b : Nat} (h : b ≤ 0x7F) : utf8Lead b = ([Char.ofNat b], none) := by
  rw [utf8Lead, if_pos h]

theorem utf8Lead_two {b : Nat} (h1 : 0xC2 ≤ b) (h2 : b ≤ 0xDF) :
    utf8Lead b = ([], some ⟨b % 32, 1, 0x80, 0xBF⟩) := by
  rw [utf8Lead, if_neg (by omega), if_pos ⟨h1, h2⟩]

theorem utf8Lead_three {b : Nat} (h1 : 0xE0 ≤ b) (h2 : b ≤ 0xEF) :
    utf8Lead b = ([], some ⟨b % 16, 2, if b = 0xE0 then 0xA0 else 0x80,
      if b = 0xED then 0x9F else 0xBF⟩) := by
  rw [utf8Lead, if_neg (by omega), if_neg (by omega), if_pos ⟨h1, h2⟩]

theorem utf8Lead_four {b : Nat} (h1 : 0xF0 ≤ b) (h2 : b ≤ 0xF4) :
    utf8Lead b = ([], some ⟨b % 8, 3, if b = 0xF0 then 0x90 else 0x80,
      if b = 0xF4 then 0x8F else 0xBF⟩) := by
  rw [utf8Lead, if_neg (by omega), if_neg (by omega), if_neg (by omega), if_pos ⟨h1, h2⟩]

theorem utf8Step_last {p : Utf8Pending} {b : Nat} (hl : p.lower ≤ b) (hu : b ≤ p.upper)
    (h1 : p.needed = 1) : utf8Step (some p) b = ([Char.ofNat (p.codePoint * 64 + b % 64)], none) := by
  rw [utf8Step, if_neg (by omega), if_pos h1]

theorem utf8Step_more {p : Utf8Pending} {b : Nat} (hl : p.lower ≤ b) (hu : b ≤ p.upper)
    (h1 : p.needed ≠ 1) :
    utf8Step (some p) b = ([], some ⟨p.codePoint * 64 + b % 64, p.needed - 1, 0x80, 0xBF⟩) := by
  rw [utf8Step, if_neg (by omega), if_neg h1]

/-- Two octets of a well-formed two-octet character. -/
theorem utf8DecodeFrom_two {b0 b1 : Nat} (h0 : 0xC2 ≤ b0 ∧ b0 ≤ 0xDF) (h1 : 0x80 ≤ b1 ∧ b1 ≤ 0xBF)
    (rest : List Nat) : utf8DecodeFrom none (b0 :: b1 :: rest) =
      Char.ofNat (b0 % 32 * 64 + b1 % 64) :: utf8DecodeFrom none rest := by
  rw [utf8DecodeFrom_cons, utf8Step_none, utf8Lead_two h0.1 h0.2, utf8DecodeFrom_cons,
    utf8Step_last ?_ ?_ rfl]
  · rfl
  all_goals dsimp only; omega

/-- Three octets of a well-formed three-octet character. -/
theorem utf8DecodeFrom_three {b0 b1 b2 : Nat} (h0 : 0xE0 ≤ b0 ∧ b0 ≤ 0xEF)
    (h1 : (if b0 = 0xE0 then 0xA0 else 0x80) ≤ b1 ∧ b1 ≤ (if b0 = 0xED then 0x9F else 0xBF))
    (h2 : 0x80 ≤ b2 ∧ b2 ≤ 0xBF) (rest : List Nat) :
    utf8DecodeFrom none (b0 :: b1 :: b2 :: rest) =
      Char.ofNat ((b0 % 16 * 64 + b1 % 64) * 64 + b2 % 64) :: utf8DecodeFrom none rest := by
  rw [utf8DecodeFrom_cons, utf8Step_none, utf8Lead_three h0.1 h0.2, utf8DecodeFrom_cons,
    utf8Step_more h1.1 h1.2 (by simp), utf8DecodeFrom_cons, utf8Step_last ?_ ?_ rfl]
  · rfl
  all_goals dsimp only; omega

/-- Four octets of a well-formed four-octet character. -/
theorem utf8DecodeFrom_four {b0 b1 b2 b3 : Nat} (h0 : 0xF0 ≤ b0 ∧ b0 ≤ 0xF4)
    (h1 : (if b0 = 0xF0 then 0x90 else 0x80) ≤ b1 ∧ b1 ≤ (if b0 = 0xF4 then 0x8F else 0xBF))
    (h2 : 0x80 ≤ b2 ∧ b2 ≤ 0xBF) (h3 : 0x80 ≤ b3 ∧ b3 ≤ 0xBF) (rest : List Nat) :
    utf8DecodeFrom none (b0 :: b1 :: b2 :: b3 :: rest) =
      Char.ofNat (((b0 % 8 * 64 + b1 % 64) * 64 + b2 % 64) * 64 + b3 % 64) ::
        utf8DecodeFrom none rest := by
  rw [utf8DecodeFrom_cons, utf8Step_none, utf8Lead_four h0.1 h0.2, utf8DecodeFrom_cons,
    utf8Step_more h1.1 h1.2 (by simp), utf8DecodeFrom_cons, utf8Step_more ?_ ?_ (by simp),
    utf8DecodeFrom_cons, utf8Step_last ?_ ?_ rfl]
  · rfl
  all_goals dsimp only; omega

/-- Decoding the octets of one character gives that character back. -/
theorem utf8DecodeFrom_utf8Bytes (c : Char) (rest : List Nat) :
    utf8DecodeFrom none (utf8Bytes c ++ rest) = c :: utf8DecodeFrom none rest := by
  have hv := toNat_valid c
  conv_rhs => rw [← Char.ofNat_toNat c]
  dsimp only [utf8Bytes]
  split_ifs with h1 h2 h3
  · rw [List.singleton_append, utf8DecodeFrom_cons, utf8Step_none, utf8Lead_one (by omega)]
    rfl
  · rw [List.cons_append, List.cons_append, List.nil_append,
      utf8DecodeFrom_two (by omega) (by omega)]
    congr 2
    omega
  · rw [List.cons_append, List.cons_append, List.cons_append, List.nil_append,
      utf8DecodeFrom_three (by omega) (by constructor <;> split <;> omega) (by omega)]
    congr 2
    omega
  · rw [List.cons_append, List.cons_append, List.cons_append, List.cons_append, List.nil_append,
      utf8DecodeFrom_four (by omega) (by constructor <;> split <;> omega) (by omega) (by omega)]
    congr 2
    omega

theorem utf8DecodeFrom_utf8 (s : List Char) : utf8DecodeFrom none (utf8 s) = s := by
  induction s with
  | nil => rfl
  | cons c s ih => rw [utf8_cons, utf8DecodeFrom_utf8Bytes, ih]

theorem utf8_injective {s t : List Char} (h : utf8 s = utf8 t) : s = t := by
  rw [← utf8DecodeFrom_utf8 s, h, utf8DecodeFrom_utf8]

/-- `File.text()` of the octets of a text gives the text back, unless the text starts with the
byte order mark, which the decoder drops. -/
theorem utf8Decode_utf8 {s : List Char} (h : s.head? ≠ some (Char.ofNat 0xFEFF)) :
    utf8Decode (utf8 s) = s := by
  have hbom : (utf8 s).take 3 ≠ [0xEF, 0xBB, 0xBF] := by
    cases s with
    | nil => simp
    | cons c t =>
      have hc : c.toNat ≠ 0xFEFF := fun e => h (by rw [← e, Char.ofNat_toNat]; rfl)
      rw [utf8_cons]
      dsimp only [utf8Bytes]
      intro he
      split_ifs at he <;> simp at he <;> omega
  rw [utf8Decode, if_neg hbom, utf8DecodeFrom_utf8]

/-- The marks `-_.!~*'()`, the reserved characters `;/?:@&=+$,` and `#`. -/
def uriMarks : List Char :=
  ['-', '_', '.', '!', '~', '*', Char.ofNat 39, '(', ')', ';', '/', '?', ':', '@', '&', '=', '+',
    '$', ',', '#']

/-- The characters `encodeURI` leaves as they are: letters, digits and `uriMarks`. -/
def uriKept (c : Char) : Bool := c.isAlphanum || c ∈ uriMarks

/-- The upper-case hexadecimal digit of `n < 16`. -/
def hexDigit (n : Nat) : Char := if n < 10 then Char.ofNat (48 + n) else Char.ofNat (55 + n)

/-- The escape `%XY` of one octet. -/
def percentByte (b : Nat) : List Char := ['%', hexDigit (b / 16), hexDigit (b % 16)]

/-- What `encodeURI` writes for one character. -/
def encodeChar (c : Char) : List Char := if uriKept c then [c] else (utf8Bytes c).flatMap percentByte

/-- `encodeURI(s)`; it throws only on a lone surrogate, which a `Char` cannot be. -/
def encodeURI (s : List Char) : List Char := s.flatMap encodeChar

/-- The value of a hexadecimal digit of either case. -/
def hexValue (c : Char) : Option Nat :=
  if '0' ≤ c ∧ c ≤ '9' then some (c.toNat - 48)
  else if 'A' ≤ c ∧ c ≤ 'F' then some (c.toNat - 55)
  else if 'a' ≤ c ∧ c ≤ 'f' then some (c.toNat - 87)
  else none

/-- The octets a data URI's payload stands for: `%XY` is the octet `0xXY`, and any other
character its own UTF-8 octets. -/
def percentDecode : List Char → List Nat
  | [] => []
  | '%' :: tail =>
    let decodedTail := percentDecode tail
    match tail with
    | h :: l :: more =>
      match hexValue h, hexValue l with
      | some a, some b => (16 * a + b) :: percentDecode more
      | _, _ => 37 :: decodedTail
    | _ => 37 :: decodedTail
  | c :: rest => utf8Bytes c ++ percentDecode rest

/-- The characters an escape is written with. -/
def inEscape (c : Char) : Bool := c = '%' || ('0' ≤ c && c ≤ '9') || ('A' ≤ c && c ≤ 'F')

@[simp] theorem encodeURI_nil : encodeURI [] = [] := rfl

@[simp] theorem encodeURI_cons (c : Char) (s : List Char) :
    encodeURI (c :: s) = encodeChar c ++ encodeURI s := by
  simp [encodeURI]

@[simp] theorem encodeURI_append (s t : List Char) :
    encodeURI (s ++ t) = encodeURI s ++ encodeURI t := by
  simp [encodeURI]

theorem hexValue_hexDigit : ∀ n < 16, hexValue (hexDigit n) = some n := by decide

theorem inEscape_hexDigit : ∀ n < 16, inEscape (hexDigit n) := by decide

theorem isAlphanum_lt {c : Char} (h : c.isAlphanum) : c.toNat < 0x80 := by
  simp only [Char.isAlphanum, Char.isAlpha, Char.isUpper, Char.isLower, Char.isDigit, ge_iff_le,
    Bool.or_eq_true, Bool.and_eq_true, decide_eq_true_eq] at h
  rcases h with (⟨-, h⟩ | ⟨-, h⟩) | ⟨-, h⟩ <;>
    exact Nat.lt_of_le_of_lt (UInt32.toNat_le_of_le (by decide) h) (by decide)

theorem uriMarks_ascii : ∀ d ∈ uriMarks, d.toNat < 0x80 ∧ d ≠ '%' := by decide

theorem uriKept_ascii {c : Char} (h : uriKept c) : c.toNat < 0x80 ∧ c ≠ '%' := by
  rcases Bool.or_eq_true _ _ |>.mp h with ha | hm
  · exact ⟨isAlphanum_lt ha, by rintro rfl; simp at ha⟩
  · exact uriMarks_ascii c (by simpa using hm)

theorem percentDecode_percentByte {b : Nat} (hb : b < 256) (rest : List Char) :
    percentDecode (percentByte b ++ rest) = b :: percentDecode rest := by
  simp only [percentByte, List.cons_append, List.nil_append, percentDecode,
    hexValue_hexDigit _ (show b / 16 < 16 by omega), hexValue_hexDigit _ (Nat.mod_lt b (by omega)),
    Nat.div_add_mod]
  rfl

theorem percentDecode_escapes (bs : List Nat) (hb : ∀ b ∈ bs, b < 256) (rest : List Char) :
    percentDecode (bs.flatMap percentByte ++ rest) = bs ++ percentDecode rest := by
  induction bs with
  | nil => rfl
  | cons b bs ih =>
    rw [List.flatMap_cons, List.append_assoc, percentDecode_percentByte (hb b (by simp)),
      ih fun b' m => hb b' (List.mem_cons_of_mem b m), List.cons_append]

theorem percentDecode_encodeChar (c : Char) (rest : List Char) :
    percentDecode (encodeChar c ++ rest) = utf8Bytes c ++ percentDecode rest := by
  unfold encodeChar
  split
  · next hk =>
    obtain ⟨hlt, hne⟩ := uriKept_ascii hk
    rw [List.singleton_append, percentDecode.eq_4 _ _ hne]
  · exact percentDecode_escapes _ (utf8Bytes_lt c) rest

/-- Percent-decoding what `encodeURI` wrote gives the UTF-8 octets of the text. -/
theorem percentDecode_encodeURI_append (s rest : List Char) :
    percentDecode (encodeURI s ++ rest) = utf8 s ++ percentDecode rest := by
  induction s with
  | nil => rfl
  | cons c s ih => rw [encodeURI_cons, List.append_assoc, percentDecode_encodeChar, ih, utf8_cons,
      List.append_assoc]

theorem percentDecode_encodeURI (s : List Char) : percentDecode (encodeURI s) = utf8 s := by
  simpa [percentDecode] using percentDecode_encodeURI_append s []

/-- Every character of an escape is `%` or an upper-case hexadecimal digit. -/
theorem inEscape_of_mem_escapes {c : Char} {d : Char} (hc : uriKept c = false)
    (hd : d ∈ encodeChar c) : inEscape d := by
  simp only [encodeChar, hc, Bool.false_eq_true, if_false, List.mem_flatMap, percentByte,
    List.mem_cons, List.mem_singleton, List.not_mem_nil, or_false] at hd
  obtain ⟨b, hb, rfl | rfl | rfl⟩ := hd
  · rfl
  · exact inEscape_hexDigit _ (by have := utf8Bytes_lt c b hb; omega)
  · exact inEscape_hexDigit _ (Nat.mod_lt b (by omega))

theorem encodeChar_head {c : Char} (hc : uriKept c = false) : ∃ t, encodeChar c = '%' :: t := by
  unfold encodeChar utf8Bytes
  simp only [hc, Bool.false_eq_true, if_false]
  split_ifs <;> exact ⟨_, rfl⟩

/-- A kept character that no escape uses occurs in the encoding exactly where it occurs in
the text. -/
theorem mem_encodeURI {d : Char} (hk : uriKept d) (he : inEscape d = false) {s : List Char} :
    d ∈ encodeURI s ↔ d ∈ s := by
  induction s with
  | nil => simp
  | cons c s ih =>
    rw [encodeURI_cons, List.mem_append, ih, List.mem_cons]
    by_cases hc : uriKept c
    · simp [encodeChar, hc, eq_comm]
    · have : d ∉ encodeChar c := fun m => by simpa [he] using inEscape_of_mem_escapes (by simpa using hc) m
      constructor
      · rintro (m | m)
        · exact absurd m this
        · exact .inr m
      · rintro (rfl | m)
        · exact absurd hk hc
        · exact .inr m

/-- `out` writes `src` one character at a time, each as itself or as an escape made of `%` and
digits. `encodeURI` is such a writing, and so is the exporter's payload once its placeholder is
replaced; a word made of characters no escape uses occurs in such an output only where it
occurs in the text. -/
inductive Encodes : List Char → List Char → Prop
  | nil : Encodes [] []
  | keep {out src : List Char} (c : Char) : Encodes out src → Encodes (c :: out) (c :: src)
  | escape {out src : List Char} (c : Char) (e : List Char) : e.head? = some '%' →
      (∀ d ∈ e, inEscape d) → Encodes out src → Encodes (e ++ out) (c :: src)

theorem Encodes.append {o₁ s₁ o₂ s₂ : List Char} (h₁ : Encodes o₁ s₁) (h₂ : Encodes o₂ s₂) :
    Encodes (o₁ ++ o₂) (s₁ ++ s₂) := by
  induction h₁ with
  | nil => exact h₂
  | keep c _ ih => exact .keep c ih
  | escape c e he hd _ ih => rw [List.append_assoc]; exact .escape c e he hd ih

theorem encodes_encodeURI (s : List Char) : Encodes (encodeURI s) s := by
  induction s with
  | nil => exact .nil
  | cons c s ih =>
    rw [encodeURI_cons]
    by_cases hc : uriKept c
    · simpa [encodeChar, hc] using Encodes.keep c ih
    · have hc' : uriKept c = false := by simpa using hc
      obtain ⟨t, ht⟩ := encodeChar_head hc'
      exact .escape c _ (by rw [ht]; rfl) (fun d hd => inEscape_of_mem_escapes hc' hd) ih

/-- A prefix of the output without `%` is a prefix of the text. -/
theorem Encodes.isPrefix_of_isPrefix {out src : List Char} (h : Encodes out src) :
    ∀ {w : List Char}, '%' ∉ w → w <+: out → w <+: src := by
  induction h with
  | nil => intro w _ hw; exact hw
  | keep c _ ih =>
    intro w hp hw
    cases w with
    | nil => exact List.nil_prefix
    | cons d w =>
      rw [List.cons_prefix_cons] at hw ⊢
      exact ⟨hw.1, ih (fun m => hp (List.mem_cons_of_mem d m)) hw.2⟩
  | escape c e he _ _ _ =>
    intro w hp hw
    cases w with
    | nil => exact List.nil_prefix
    | cons d w =>
      cases e with
      | nil => simp at he
      | cons d' e =>
        simp only [List.head?_cons, Option.some.injEq] at he
        subst he
        rw [List.cons_append, List.cons_prefix_cons] at hw
        exact absurd (hw.1 ▸ List.mem_cons_self d w) hp

theorem isInfix_of_isInfix_escape {w : List Char} (hw : ∀ c ∈ w.head?, inEscape c = false) :
    ∀ {e y : List Char}, (∀ d ∈ e, inEscape d) → w <:+: e ++ y → w <:+: y
  | [], _, _, h => h
  | d :: e, y, he, h => by
    rw [List.cons_append, List.infix_cons_iff] at h
    rcases h with h | h
    · cases w with
      | nil => exact List.nil_infix
      | cons c w =>
        rw [List.cons_prefix_cons] at h
        have := hw c rfl
        rw [h.1, he d (List.mem_cons_self d e)] at this
        exact absurd this (by decide)
    · exact isInfix_of_isInfix_escape hw (fun d' m => he d' (List.mem_cons_of_mem d m)) h

/-- A word of characters no escape uses occurs in the output only where it occurs in the text. -/
theorem Encodes.isInfix_of_isInfix {out src : List Char} (h : Encodes out src) {w : List Char}
    (hw : ∀ c ∈ w, inEscape c = false) : w <:+: out → w <:+: src := by
  have hp : '%' ∉ w := fun m => absurd (hw '%' m) (by decide)
  have hh : ∀ c ∈ w.head?, inEscape c = false := fun c m => hw c (List.mem_of_mem_head? m)
  induction h with
  | nil => exact id
  | keep c h ih =>
    intro hi
    rcases List.infix_cons_iff.mp hi with hi | hi
    · exact ((Encodes.keep c h).isPrefix_of_isPrefix hp hi).isInfix
    · exact (ih hi).trans (List.suffix_cons c _).isInfix
  | escape c e _ he _ ih =>
    intro hi
    exact (ih (isInfix_of_isInfix_escape hh he hi)).trans (List.suffix_cons c _).isInfix

end Focalboard.Js
