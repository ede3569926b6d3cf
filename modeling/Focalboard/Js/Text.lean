import Mathlib.Data.List.Basic
import Mathlib.Data.List.Infix
import Mathlib.Data.List.DropRight

/-!
# The string built-ins of the CSV code

A JavaScript string is modelled as the list of its characters. The exporter and the importer
call five built-ins on them, each with one fixed kind of argument, and each is one definition
here: `split(',')` is Batteries' `List.splitOn`, which like JavaScript keeps every empty piece;
`split(/\r?\n/)` is `splitLines`; `trim()` is `trim`; `replace` with a global one-character
regular expression is `replaceChar`; `replace` with a string pattern, which replaces the first
occurrence only, is `replaceFirst`. `join(',')` is `List.intercalate [',']`. `length` and
`substring` count UTF-16 code units (`utf16Length`, `utf16Take`).
-/

namespace Focalboard.Js

def consHead (c : Char) : List (List Char) → List (List Char)
  | [] => [[c]]
  | p :: ps => (c :: p) :: ps

/-- `s.split(/\r?\n/)`: a line ends at `\n` or at `\r\n`; a lone `\r` stays in its line. -/
def splitLines : List Char → List (List Char)
  | [] => [[]]
  | '\r' :: '\n' :: rest => [] :: splitLines rest
  | '\n' :: rest => [] :: splitLines rest
  | c :: rest => consHead c (splitLines rest)

/-- A line without `\n`, then `\r\n`, is split off whole, whatever `\r` it holds. -/
theorem splitLines_crlf (a b : List Char) (h : '\n' ∉ a) :
    splitLines (a ++ '\r' :: '\n' :: b) = a :: splitLines b := by
  induction a with
  | nil => rfl
  | cons c a ih =>
    have hc : c ≠ '\n' := fun e => h (e ▸ List.mem_cons_self c a)
    have ha : '\n' ∉ a := fun m => h (List.mem_cons_of_mem c m)
    rw [List.cons_append, splitLines.eq_4 _ _ ?_ hc, ih ha]
    · rfl
    intro rest _ e
    cases a with
    | nil => simp at e
    | cons d a => exact ha (by simp_all)

/-- Text made of lines each ended by `\r\n` splits into those lines and a last empty one. -/
theorem splitLines_flatMap_crlf (ls : List (List Char)) (h : ∀ l ∈ ls, '\n' ∉ l) :
    splitLines (ls.flatMap (· ++ ['\r', '\n'])) = ls ++ [[]] := by
  induction ls with
  | nil => rfl
  | cons l ls ih =>
    simp only [List.flatMap_cons, List.append_assoc, List.cons_append, List.nil_append]
    rw [splitLines_crlf _ _ (h l (List.mem_cons_self l ls)),
      ih fun l' m => h l' (List.mem_cons_of_mem l m)]

/-- The characters `trim()` removes: ECMAScript's WhiteSpace (tab, vertical tab, form feed, the
byte order mark and every space separator of category Zs) and its LineTerminators. -/
def isJsWhitespace (c : Char) : Bool :=
  let n := c.toNat
  n = 0x09 || n = 0x0A || n = 0x0B || n = 0x0C || n = 0x0D || n = 0x20 || n = 0xA0 ||
    n = 0x1680 || (0x2000 ≤ n && n ≤ 0x200A) || n = 0x2028 || n = 0x2029 || n = 0x202F ||
    n = 0x205F || n = 0x3000 || n = 0xFEFF

/-- `s.trim()`. -/
def trim (s : List Char) : List Char :=
  (s.dropWhile isJsWhitespace).rdropWhile isJsWhitespace

theorem trim_eq_nil_iff (s : List Char) : trim s = [] ↔ ∀ c ∈ s, isJsWhitespace c := by
  rw [← List.dropWhile_eq_nil_iff, trim, List.rdropWhile_eq_nil_iff]
  constructor
  · intro h
    cases hd : s.dropWhile isJsWhitespace with
    | nil => rfl
    | cons c t =>
      have hc := List.head_dropWhile_not isJsWhitespace s (by simp [hd])
      simp only [hd, List.head_cons] at hc
      exact absurd (h c (by simp [hd])) (by simp [hc])
  · intro h c hc
    simp [h] at hc

theorem trim_cons_ne_nil {c : Char} (hc : isJsWhitespace c = false) (s : List Char) :
    trim (c :: s) ≠ [] := by
  rw [Ne, trim_eq_nil_iff]
  intro h
  simp [h c (List.mem_cons_self c s)] at hc

@[simp] theorem trim_trim (s : List Char) : trim (trim s) = trim s := by
  unfold trim
  have hpre := List.rdropWhile_prefix isJsWhitespace (s.dropWhile isJsWhitespace)
  have hdrop : ((s.dropWhile isJsWhitespace).rdropWhile isJsWhitespace).dropWhile isJsWhitespace =
      (s.dropWhile isJsWhitespace).rdropWhile isJsWhitespace := by
    refine List.dropWhile_eq_self_iff.2 fun hl => ?_
    have := List.dropWhile_get_zero_not isJsWhitespace s (Nat.lt_of_lt_of_le hl hpre.length_le)
    simp only [List.get_eq_getElem] at this ⊢
    rwa [hpre.getElem hl]
  rw [hdrop, List.rdropWhile_idempotent]

/-- `s.replace(/c/g, r)` for a one-character pattern and a replacement without `$`. -/
def replaceChar (c : Char) (r s : List Char) : List Char :=
  s.flatMap fun d => if d = c then r else [d]

@[simp] theorem replaceChar_nil (c : Char) (r : List Char) : replaceChar c r [] = [] := rfl

@[simp] theorem replaceChar_append (c : Char) (r s t : List Char) :
    replaceChar c r (s ++ t) = replaceChar c r s ++ replaceChar c r t := by
  simp [replaceChar]

@[simp] theorem replaceChar_cons (c d : Char) (r s : List Char) :
    replaceChar c r (d :: s) = (if d = c then r else [d]) ++ replaceChar c r s := by
  simp [replaceChar]

@[simp] theorem replaceChar_self (c : Char) (s : List Char) : replaceChar c [c] s = s := by
  induction s with
  | nil => rfl
  | cons d s ih => by_cases h : d = c <;> simp [h, ih]

theorem not_mem_replaceChar {c d : Char} {r : List Char} (hr : d ∉ r) (s : List Char)
    (hs : d ∉ s) : d ∉ replaceChar c r s := by
  simp only [replaceChar, List.mem_flatMap, not_exists, not_and]
  intro e he
  split
  · exact hr
  · intro h'
    rw [List.mem_singleton] at h'
    exact hs (h' ▸ he)

theorem not_mem_replaceChar_self {c : Char} {r : List Char} (hr : c ∉ r) (s : List Char) :
    c ∉ replaceChar c r s := by
  simp only [replaceChar, List.mem_flatMap, not_exists, not_and]
  intro e _
  split
  · exact hr
  · next h => simpa [eq_comm] using h

theorem replaceChar_of_not_mem {c : Char} {s : List Char} (r : List Char) (h : c ∉ s) :
    replaceChar c r s = s := by
  induction s with
  | nil => rfl
  | cons d s ih =>
    have hd : d ≠ c := fun e => h (e ▸ List.mem_cons_self d s)
    simp [hd, ih fun m => h (List.mem_cons_of_mem d m)]

/-- A replaced character leaves `r` where it was. -/
theorem replaceChar_of_count_pos {c : Char} (r : List Char) {s : List Char} (h : 0 < s.count c) :
    ∃ a b, replaceChar c r s = a ++ r ++ b := by
  obtain ⟨u, w, rfl⟩ := List.append_of_mem (List.count_pos_iff.mp h)
  exact ⟨replaceChar c r u, replaceChar c r w, by simp⟩

/-- Two replaced characters leave two copies of `r`, one after the other. -/
theorem replaceChar_of_two_le_count {c : Char} (r : List Char) {s : List Char}
    (h : 2 ≤ s.count c) : ∃ a b d, replaceChar c r s = a ++ r ++ b ++ r ++ d := by
  obtain ⟨u, w, rfl⟩ := List.append_of_mem (List.count_pos_iff.mp (Nat.lt_of_lt_of_le Nat.two_pos h))
  rw [List.count_append, List.count_cons_self] at h
  rcases Nat.eq_zero_or_pos (w.count c) with hw | hw
  · obtain ⟨a, b, hab⟩ := replaceChar_of_count_pos r (show 0 < u.count c by omega)
    exact ⟨a, b, replaceChar c r w, by simp [hab]⟩
  · obtain ⟨a, b, hab⟩ := replaceChar_of_count_pos r hw
    exact ⟨replaceChar c r u, a, b, by simp [hab]⟩

theorem count_replaceChar_of_ne {c d : Char} {r : List Char} (hd : d ≠ c) (hr : d ∉ r) :
    ∀ s : List Char, (replaceChar c r s).count d = s.count d
  | [] => rfl
  | e :: s => by
    rw [replaceChar_cons, List.count_cons, ← count_replaceChar_of_ne hd hr s]
    split
    · next he => simp [List.count_eq_zero.mpr hr, he, Ne.symm hd]
    · simp [List.count_cons]

/-- `s.replace(p, r)` for a string pattern `p` and a replacement without `$`: only the first
occurrence of `p` is replaced. -/
def replaceFirst (p r : List Char) : List Char → List Char
  | [] => if p.isPrefixOf [] then r else []
  | c :: cs => if p.isPrefixOf (c :: cs) then r ++ (c :: cs).drop p.length
      else c :: replaceFirst p r cs

theorem replaceFirst_cons_of_no_match {p : List Char} (r : List Char) {c : Char}
    {cs : List Char} (h : ¬ p <+: c :: cs) : replaceFirst p r (c :: cs) = c :: replaceFirst p r cs := by
  rw [replaceFirst, if_neg (by rwa [List.isPrefixOf_iff_prefix])]

/-- Text in which a non-empty pattern does not occur is left as it is. -/
theorem replaceFirst_of_not_isInfix {p : List Char} (r : List Char) (hp : p ≠ []) :
    ∀ {s : List Char}, ¬ p <:+: s → replaceFirst p r s = s
  | [], _ => by simp [replaceFirst, List.isPrefixOf, hp]
  | c :: cs, h => by
    rw [replaceFirst_cons_of_no_match r fun hq => h hq.isInfix,
      replaceFirst_of_not_isInfix r hp fun hq => h (hq.trans (List.suffix_cons c cs).isInfix)]

theorem replaceFirst_self_append (p r z : List Char) : replaceFirst p r (p ++ z) = r ++ z := by
  cases hs : p ++ z with
  | nil =>
    obtain ⟨rfl, rfl⟩ := List.append_eq_nil.mp hs
    simp [replaceFirst, List.isPrefixOf]
  | cons c cs =>
    rw [replaceFirst, if_pos (by rw [← hs]; exact List.isPrefixOf_iff_prefix.mpr (List.prefix_append p z)),
      ← hs, List.drop_left]

/-- Of two occurrences that do not overlap, one survives a single replacement. -/
theorem isInfix_replaceFirst (p r y z : List Char) :
    ∀ x : List Char, p <:+: replaceFirst p r (x ++ p ++ y ++ p ++ z)
  | [] => by
    rw [List.nil_append, List.append_assoc, List.append_assoc, replaceFirst_self_append]
    exact ⟨r ++ y, z, by simp⟩
  | c :: x => by
    rw [List.cons_append, List.cons_append, List.cons_append, List.cons_append, replaceFirst]
    split
    · have hlen : p.length ≤ (c :: x ++ p).length := by simp; omega
      have hdrop := @List.drop_append_of_le_length _ _ (y ++ p ++ z) _ hlen
      simp only [List.append_assoc, List.cons_append] at hdrop
      simp only [List.append_assoc, hdrop]
      exact ⟨r ++ List.drop p.length (c :: (x ++ p)) ++ y, z, by simp⟩
    · exact (isInfix_replaceFirst p r y z x).trans (List.suffix_cons c _).isInfix

/-- The first occurrence is the one after `x` when the pattern starts in no suffix of `x`. -/
theorem replaceFirst_append_self {p : List Char} (r z : List Char) :
    ∀ {x : List Char}, (∀ x', x' ≠ [] → x' <:+ x → ¬ p <+: x' ++ (p ++ z)) →
      replaceFirst p r (x ++ (p ++ z)) = x ++ (r ++ z)
  | [], _ => replaceFirst_self_append p r z
  | c :: x, h => by
    have hc : ¬ p <+: c :: (x ++ (p ++ z)) := h _ (List.cons_ne_nil c x) (List.suffix_refl _)
    rw [List.cons_append, replaceFirst_cons_of_no_match r hc, replaceFirst_append_self r z
      fun x' hx hs => h x' hx (hs.trans (List.suffix_cons c x)), List.cons_append]

/-- A prefix with no character that starts the pattern is passed over. -/
theorem replaceFirst_append_of_not_mem {p : List Char} (r : List Char) {c : Char}
    (hp : p.head? = some c) (y : List Char) :
    ∀ {x : List Char}, c ∉ x → replaceFirst p r (x ++ y) = x ++ replaceFirst p r y
  | [], _ => rfl
  | d :: x, h => by
    have hd : d ≠ c := fun e => h (e ▸ List.mem_cons_self d x)
    rw [List.cons_append, replaceFirst_cons_of_no_match r, replaceFirst_append_of_not_mem r hp y
      fun m => h (List.mem_cons_of_mem d m), List.cons_append]
    rintro ⟨t, ht⟩
    cases p with
    | nil => simp at hp
    | cons e p =>
      simp only [List.head?_cons, Option.some.injEq] at hp
      simp only [List.cons_append, List.cons.injEq] at ht
      exact hd (ht.1 ▸ hp)

/-- A non-empty pattern that occurs has a first occurrence: none starts before it. -/
theorem exists_first_occurrence {p : List Char} (hp : p ≠ []) :
    ∀ {s : List Char}, p <:+: s → ∃ x y, s = x ++ p ++ y ∧ ¬ p <:+: x ++ p.dropLast
  | [], h => absurd (List.eq_nil_of_infix_nil h) hp
  | c :: cs, h => by
    by_cases hc : p <+: c :: cs
    · obtain ⟨y, hy⟩ := hc
      refine ⟨[], y, by rw [← hy, List.nil_append], fun hi => ?_⟩
      have := hi.length_le
      simp only [List.nil_append, List.length_dropLast] at this
      exact absurd (List.length_pos.mpr hp) (by omega)
    · obtain ⟨x, y, rfl, hx⟩ :=
        exists_first_occurrence hp ((List.infix_cons_iff.mp h).resolve_left hc)
      refine ⟨c :: x, y, rfl, fun hi => ?_⟩
      rcases List.infix_cons_iff.mp hi with hi | hi
      · exact hc (hi.trans (List.prefix_cons_inj c |>.mpr
          ((List.prefix_append_right_inj x).mpr (List.dropLast_prefix p) |>.trans
            (List.prefix_append _ y))))
      · exact hx hi

/-- An occurrence starting in a non-empty `x` ends before the pattern written after `x` does. -/
theorem isInfix_dropLast_of_isPrefix {p x z : List Char} (hx : x ≠ []) (h : p <+: x ++ (p ++ z)) :
    p <:+: x ++ p.dropLast := by
  refine (List.prefix_of_prefix_length_le h ?_ ?_).isInfix
  · exact (List.prefix_append_right_inj x).mpr ((List.dropLast_prefix p).trans (List.prefix_append p z))
  · have := List.length_pos.mpr hx
    simp only [List.length_append, List.length_dropLast]
    omega

/-- `replace` rewrites the first occurrence. -/
theorem replaceFirst_first {p : List Char} (r : List Char) {x y : List Char}
    (hx : ¬ p <:+: x ++ p.dropLast) : replaceFirst p r (x ++ p ++ y) = x ++ r ++ y := by
  rw [List.append_assoc, List.append_assoc, replaceFirst_append_self r y fun x' hne hs hp =>
    hx ?_]
  obtain ⟨w, rfl⟩ := hs
  exact (isInfix_dropLast_of_isPrefix hne hp).trans ⟨w, [], by simp⟩

/-- A prefix of `x ++ c :: y` without `c` is a prefix of `x`. -/
theorem prefix_of_prefix_append_cons {w : List Char} {c : Char} (hc : c ∉ w) :
    ∀ {x y : List Char}, w <+: x ++ c :: y → w <+: x
  | [], y, h => by
    cases w with
    | nil => exact List.nil_prefix
    | cons e w => exact absurd ((List.cons_prefix_cons.mp h).1 ▸ List.mem_cons_self e w) hc
  | e :: x, y, h => by
    cases w with
    | nil => exact List.nil_prefix
    | cons e' w =>
      rw [List.cons_append] at h
      obtain ⟨rfl, h'⟩ := List.cons_prefix_cons.mp h
      exact List.cons_prefix_cons.mpr ⟨rfl,
        prefix_of_prefix_append_cons (fun m => hc (List.mem_cons_of_mem _ m)) h'⟩

/-- An infix of `x ++ c :: y` without `c` lies in `x` or in `y`. -/
theorem isInfix_append_cons {w : List Char} {c : Char} (hc : c ∉ w) :
    ∀ {x y : List Char}, w <:+: x ++ c :: y → w <:+: x ∨ w <:+: y
  | [], y, h => by
    rw [List.nil_append] at h
    rcases List.infix_cons_iff.mp h with h | h
    · rw [List.prefix_nil.mp (@prefix_of_prefix_append_cons w c hc [] y h)]
      exact .inl List.nil_infix
    · exact .inr h
  | e :: x, y, h => by
    rw [List.cons_append] at h
    rcases List.infix_cons_iff.mp h with h | h
    · exact .inl (@prefix_of_prefix_append_cons w c hc (e :: x) y h).isInfix
    · exact (isInfix_append_cons hc h).imp_left fun h' => h'.trans (List.suffix_cons e x).isInfix

theorem intercalate_cons (sep x : List Char) (xs : List (List Char)) :
    sep.intercalate (x :: xs) = x ++ (if xs = [] then [] else sep ++ sep.intercalate xs) := by
  cases xs <;> simp [List.intercalate, List.intersperse]

theorem mem_of_mem_intercalate {sep d : Char} (hd : d ≠ sep) :
    ∀ {row : List (List Char)}, d ∈ [sep].intercalate row → ∃ x ∈ row, d ∈ x
  | [], h => by simp [List.intercalate] at h
  | x :: xs, h => by
    rw [intercalate_cons] at h
    rcases List.mem_append.mp h with h | h
    · exact ⟨x, List.mem_cons_self x xs, h⟩
    · split at h
      · simp at h
      · rcases List.mem_append.mp h with h | h
        · exact absurd (List.mem_singleton.mp h) hd
        · obtain ⟨y, hy, hdy⟩ := mem_of_mem_intercalate hd h
          exact ⟨y, List.mem_cons_of_mem x hy, hdy⟩

theorem mem_intercalate_of_mem {sep : List Char} {d : Char} :
    ∀ {row : List (List Char)} {x : List Char}, x ∈ row → d ∈ x → d ∈ sep.intercalate row
  | [], _, hx, _ => absurd hx (List.not_mem_nil _)
  | y :: ys, x, hx, hd => by
    rw [intercalate_cons]
    rcases List.mem_cons.mp hx with rfl | hx
    · exact List.mem_append_left _ hd
    · rw [if_neg (List.ne_nil_of_mem hx)]
      exact List.mem_append_right _ (List.mem_append_right _ (mem_intercalate_of_mem hx hd))

/-- The character U+FFFD, which a UTF-8 decoder writes for a malformed sequence and an encoder
for a lone surrogate. -/
def replacementChar : Char := Char.ofNat 0xFFFD

/-- How many UTF-16 code units a character takes: two beyond the Basic Multilingual Plane. -/
def utf16Width (c : Char) : Nat := if c.toNat < 0x10000 then 1 else 2

/-- `s.length`, in UTF-16 code units. -/
def utf16Length : List Char → Nat
  | [] => 0
  | c :: cs => utf16Width c + utf16Length cs

/-- `s.substring(0, n)`: the first `n` UTF-16 code units. A cut through a character beyond the
Basic Multilingual Plane keeps its high surrogate alone, which no `Char` is; it stands here as
U+FFFD, what encoding the text as UTF-8 writes for it. -/
def utf16Take : Nat → List Char → List Char
  | 0, _ => []
  | _, [] => []
  | n + 1, c :: cs =>
    if utf16Width c ≤ n + 1 then c :: utf16Take (n + 1 - utf16Width c) cs else [replacementChar]

end Focalboard.Js
