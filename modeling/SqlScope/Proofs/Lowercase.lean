import SqlScope.Text.Unicode
import Mathlib.Data.List.Basic

/-!
# What lowercasing keeps

Lowercasing a string changes letters only. The characters that split and quote the parts
of a name (white space, the dot and the quote characters) have no case: each is its own
lowercase, and no other character lowercases to one of them. So such a character occurs
in the lowercase of a string exactly when it occurs in the string, and it starts or ends
the lowercase exactly when it starts or ends the string.

The second half rests on the lowercase table: no run of it sends a code point to one of
these characters or moves one of them, which `decide` checks run by run.

## Main statements

- `mem_lowerChars_iff`: a delimiter occurs in the lowercase exactly where it occurs.
- `head?_lowerChars_eq_iff`, `getLast?_lowerChars_eq_iff`: a delimiter starts (ends) the
  lowercase exactly when it starts (ends) the string.
-/

namespace SqlScope.Text

/-- White space, and the dot and quote characters that split and quote the parts of a
name. -/
def isNameDelimiter (c : Char) : Bool :=
  isWhitespace c || c == '.' || c == '"' || c == '`' || c == '[' || c == ']'

/-- The code points of the name delimiters, as inclusive ranges. -/
def delimiterRanges : List (Nat × Nat) :=
  [(0x9, 0xD), (0x20, 0x20), (0x22, 0x22), (0x2E, 0x2E), (0x5B, 0x5B), (0x5D, 0x5D), (0x60, 0x60),
   (0x85, 0x85), (0xA0, 0xA0), (0x1680, 0x1680), (0x2000, 0x200A), (0x2028, 0x2029),
   (0x202F, 0x202F), (0x205F, 0x205F), (0x3000, 0x3000)]

theorem delimiterRanges_of_isNameDelimiter {c : Char} (h : isNameDelimiter c = true) :
    ∃ p ∈ delimiterRanges, p.1 ≤ c.toNat ∧ c.toNat ≤ p.2 := by
  have hc : ∀ d : Char, (c == d) = true → c.toNat = d.toNat := fun d hd => by
    rw [beq_iff_eq.mp hd]
  simp only [isNameDelimiter, isWhitespace, Bool.or_eq_true, Bool.and_eq_true, decide_eq_true_eq,
    beq_iff_eq] at h
  simp only [delimiterRanges, List.mem_cons, List.not_mem_nil, exists_eq_or_imp, exists_eq_left,
    or_false]
  rcases h with ((((h | h) | h) | h) | h) | h
  · omega
  all_goals subst h; decide

/-- No run of the lowercase table sends a code point to a delimiter. -/
theorem lowercaseRuns_image_avoids :
    ∀ r ∈ lowercaseRuns, ∀ p ∈ delimiterRanges, r.target + (r.hi - r.lo) < p.1 ∨ p.2 < r.target := by
  decide +kernel

/-- No run of the lowercase table moves a delimiter. -/
theorem lowercaseRuns_domain_avoids :
    ∀ r ∈ lowercaseRuns, ∀ p ∈ delimiterRanges, r.hi < p.1 ∨ p.2 < r.lo := by
  decide +kernel

/-- A delimiter's code point lies outside every gap `[a, b]` between the delimiter ranges. -/
theorem toNat_outside_of_isNameDelimiter {c : Char} (h : isNameDelimiter c = true) (a b : Nat)
    (hab : ∀ p ∈ delimiterRanges, p.2 < a ∨ b < p.1) : c.toNat < a ∨ b < c.toNat := by
  obtain ⟨p, hp, h1, h2⟩ := delimiterRanges_of_isNameDelimiter h
  rcases hab p hp with h | h <;> omega

/-- The character of a code point is that code point, or the null character when the code
point is not valid. -/
theorem toNat_ofNat_cases (n : Nat) : (Char.ofNat n).toNat = n ∨ (Char.ofNat n).toNat = 0 := by
  unfold Char.ofNat
  by_cases h : n.isValidChar
  · rw [dif_pos h]
    exact .inl rfl
  · rw [dif_neg h]
    exact .inr rfl

/-- The character of a code point outside the delimiter ranges is no delimiter. -/
theorem isNameDelimiter_ofNat_eq_false {n : Nat} (h : ∀ p ∈ delimiterRanges, p.2 < n ∨ n < p.1) :
    isNameDelimiter (Char.ofNat n) = false := by
  cases hd : isNameDelimiter (Char.ofNat n) with
  | false => rfl
  | true =>
    have hn := toNat_outside_of_isNameDelimiter hd n n h
    -- an invalid code point gives the null character, which is no delimiter either
    have h0 := toNat_outside_of_isNameDelimiter hd 0 0 (by decide)
    rcases toNat_ofNat_cases n with he | he <;> omega

/-- A code point is its own lowercase, or lies in a run and goes where the run sends it. -/
theorem lowerCodePoint_cases (cp : Nat) (runs : List CaseRun) :
    lowerCodePoint cp runs = cp ∨
      ∃ r ∈ runs, r.lo ≤ cp ∧ cp ≤ r.hi ∧ lowerCodePoint cp runs = r.target + (cp - r.lo) := by
  induction runs with
  | nil => exact .inl rfl
  | cons r rest ih =>
    cases ha : r.apply cp with
    | some l =>
      have hl : lowerCodePoint cp (r :: rest) = l := by simp only [lowerCodePoint, ha]
      simp only [CaseRun.apply] at ha
      split at ha
      · rename_i hin
        cases ha
        exact .inr ⟨r, List.mem_cons_self, hin.1, hin.2.1, hl⟩
      · cases ha
    | none =>
      have hstep : lowerCodePoint cp (r :: rest) = if cp < r.lo then cp else lowerCodePoint cp rest := by
        simp only [lowerCodePoint, ha]
      rw [hstep]
      split
      · exact .inl rfl
      · rcases ih with h | ⟨r', hr', h⟩
        · exact .inl h
        · exact .inr ⟨r', List.mem_cons_of_mem r hr', h⟩

/-- A character that is no capital ASCII letter is its own ASCII lowercase. -/
theorem toLower_of_not_upper {c : Char} (h : c.toNat < 0x41 ∨ 0x5A < c.toNat) : c.toLower = c := by
  have hcond : ¬(c.val ≥ 'A'.val ∧ c.val ≤ 'Z'.val) := by
    have hA : ('A' : Char).toNat = 0x41 := rfl
    have hZ : ('Z' : Char).toNat = 0x5A := rfl
    simp only [ge_iff_le, UInt32.le_iff_toNat_le, Char.toNat_val]
    omega
  unfold Char.toLower
  rw [dif_neg hcond]

/-- What lowercasing makes of one character, given the characters before it (nearest
first) and after it. -/
def lowerAt (before : List Char) (c : Char) (rest : List Char) : List Char :=
  if c.toNat == 0x3A3 then
    [if startsCased before && !startsCased rest then Char.ofNat 0x3C2 else Char.ofNat 0x3C3]
  else lowerChar c

theorem lowerChars_cons (before : List Char) (c : Char) (rest : List Char) :
    lowerChars before (c :: rest) = lowerAt before c rest ++ lowerChars (c :: before) rest := rfl

theorem lowerAt_ne_nil (before : List Char) (c : Char) (rest : List Char) :
    lowerAt before c rest ≠ [] := by
  simp only [lowerAt, lowerChar]
  split
  · simp
  · split
    · simp
    · split <;> simp

/-- A delimiter is its own lowercase. -/
theorem lowerAt_of_isNameDelimiter {c : Char} (h : isNameDelimiter c = true) (before rest : List Char) :
    lowerAt before c rest = [c] := by
  have hsigma := toNat_outside_of_isNameDelimiter h 0x3A3 0x3A3 (by decide)
  have h130 := toNat_outside_of_isNameDelimiter h 0x130 0x130 (by decide)
  simp only [lowerAt, lowerChar, beq_iff_eq]
  rw [if_neg (by omega)]
  split
  · -- an ASCII delimiter is no capital letter
    rw [toLower_of_not_upper (toNat_outside_of_isNameDelimiter h 0x41 0x5A (by decide))]
  · rw [if_neg (by omega)]
    -- a non-ASCII white space lies in no run, so it stays as it is
    rcases lowerCodePoint_cases c.toNat lowercaseRuns with hl | ⟨r, hr, hlo, hhi, -⟩
    · rw [hl, Char.ofNat_toNat]
    · obtain ⟨p, hp, h1, h2⟩ := delimiterRanges_of_isNameDelimiter h
      rcases lowercaseRuns_domain_avoids r hr p hp with hlt | hlt <;> omega

/-- The ASCII lowercase of a capital letter is the letter 32 code points on. -/
theorem toNat_toLower_of_upper {c : Char} (h : 0x41 ≤ c.toNat ∧ c.toNat ≤ 0x5A) :
    c.toLower.toNat = c.toNat + 32 := by
  have hcond : c.val ≥ 'A'.val ∧ c.val ≤ 'Z'.val := by
    have hA : ('A' : Char).toNat = 0x41 := rfl
    have hZ : ('Z' : Char).toNat = 0x5A := rfl
    simp only [ge_iff_le, UInt32.le_iff_toNat_le, Char.toNat_val]
    omega
  unfold Char.toLower
  rw [dif_pos hcond]
  show (c.val + ('a'.val - 'A'.val)).toNat = c.val.toNat + 32
  have h32 : ('a'.val - 'A'.val).toNat = 32 := rfl
  have hc : c.val.toNat = c.toNat := rfl
  rw [UInt32.toNat_add, h32, Nat.mod_eq_of_lt (by omega)]

/-- Only a delimiter lowercases to itself, as a delimiter: nothing else lowercases to one. -/
theorem eq_of_mem_lowerAt {d c : Char} {before rest : List Char} (hd : isNameDelimiter d = true)
    (h : d ∈ lowerAt before c rest) : c = d := by
  simp only [lowerAt, lowerChar] at h
  split at h
  · -- the two sigmas are letters
    have hs2 : isNameDelimiter (Char.ofNat 0x3C2) = false := by decide
    have hs3 : isNameDelimiter (Char.ofNat 0x3C3) = false := by decide
    simp only [List.mem_singleton] at h
    split at h <;> subst h <;> simp_all
  · split at h
    · rw [List.mem_singleton] at h
      subst h
      by_cases hu : 0x41 ≤ c.toNat ∧ c.toNat ≤ 0x5A
      · -- a capital letter lowercases to a small one, which is no delimiter
        have hl := toNat_toLower_of_upper hu
        have := toNat_outside_of_isNameDelimiter hd 0x61 0x7A (by decide)
        omega
      · exact (toLower_of_not_upper (by omega)).symm
    · split at h
      · have hi : isNameDelimiter 'i' = false := by decide
        have h307 : isNameDelimiter (Char.ofNat 0x307) = false := by decide
        simp only [List.mem_cons, List.not_mem_nil, or_false] at h
        rcases h with rfl | rfl <;> simp_all
      · rw [List.mem_singleton] at h
        subst h
        rcases lowerCodePoint_cases c.toNat lowercaseRuns with hl | ⟨r, hr, hlo, hhi, hl⟩
        · rw [hl, Char.ofNat_toNat]
        · -- a run sends no code point to a delimiter
          rw [hl] at hd
          rw [isNameDelimiter_ofNat_eq_false fun p hp => by
            rcases lowercaseRuns_image_avoids r hr p hp with h | h <;> omega] at hd
          cases hd

theorem mem_lowerAt_iff {d c : Char} (hd : isNameDelimiter d = true) (before rest : List Char) :
    d ∈ lowerAt before c rest ↔ c = d := by
  constructor
  · exact eq_of_mem_lowerAt hd
  · rintro rfl
    rw [lowerAt_of_isNameDelimiter hd]
    exact List.mem_singleton_self c

/-- A delimiter occurs in the lowercase of a text exactly when it occurs in the text. -/
theorem mem_lowerChars_iff {d : Char} (hd : isNameDelimiter d = true) (before s : List Char) :
    d ∈ lowerChars before s ↔ d ∈ s := by
  induction s generalizing before with
  | nil => simp [lowerChars]
  | cons c rest ih =>
    rw [lowerChars_cons, List.mem_append, mem_lowerAt_iff hd, ih, List.mem_cons, eq_comm]

/-- A delimiter starts the lowercase of a text exactly when it starts the text. -/
theorem head?_lowerChars_eq_iff {d : Char} (hd : isNameDelimiter d = true) (before s : List Char) :
    (lowerChars before s).head? = some d ↔ s.head? = some d := by
  cases s with
  | nil => simp [lowerChars]
  | cons c rest =>
    obtain ⟨x, xs, hx⟩ := List.exists_cons_of_ne_nil (lowerAt_ne_nil before c rest)
    rw [lowerChars_cons, hx, List.cons_append, List.head?_cons, List.head?_cons, Option.some_inj,
      Option.some_inj]
    constructor
    · rintro rfl
      exact eq_of_mem_lowerAt hd (by rw [hx]; exact List.mem_cons_self)
    · rintro rfl
      -- the lowercase of a delimiter is that delimiter alone
      rw [lowerAt_of_isNameDelimiter hd] at hx
      exact (List.cons_eq_cons.mp hx).1.symm

/-- A delimiter ends the lowercase of a text exactly when it ends the text. -/
theorem getLast?_lowerChars_eq_iff {d : Char} (hd : isNameDelimiter d = true) (before s : List Char) :
    (lowerChars before s).getLast? = some d ↔ s.getLast? = some d := by
  induction s generalizing before with
  | nil => simp [lowerChars]
  | cons c rest ih =>
    rw [lowerChars_cons]
    cases rest with
    | nil =>
      simp only [lowerChars, List.append_nil, List.getLast?_singleton, Option.some_inj]
      constructor
      · intro hlast
        exact eq_of_mem_lowerAt hd (List.mem_of_getLast? hlast)
      · rintro rfl
        rw [lowerAt_of_isNameDelimiter hd]
        rfl
    | cons c' rest' =>
      -- the last character of the lowercase comes from the last character of the text
      have hne : lowerChars (c :: before) (c' :: rest') ≠ [] := by
        rw [lowerChars_cons]
        exact List.append_ne_nil_of_left_ne_nil (lowerAt_ne_nil _ _ _) _
      rw [List.getLast?_append_of_ne_nil _ hne, ih, List.getLast?_cons_cons]

/-- Lowercasing never shortens a text. -/
theorem length_le_lowerChars (before s : List Char) : s.length ≤ (lowerChars before s).length := by
  induction s generalizing before with
  | nil => exact Nat.le_refl 0
  | cons c rest ih =>
    rw [lowerChars_cons, List.length_append, List.length_cons]
    have h1 : 0 < (lowerAt before c rest).length := List.length_pos_iff.mpr (lowerAt_ne_nil _ _ _)
    have h2 := ih (c :: before)
    omega

/-- A delimiter occurs in the lowercase of a string exactly when it occurs in the string. -/
theorem mem_lowercase_iff {d : Char} (hd : isNameDelimiter d = true) (s : String) :
    d ∈ (lowercase s).toList ↔ d ∈ s.toList := by
  rw [lowercase, String.toList_ofList]
  exact mem_lowerChars_iff hd [] s.toList

end SqlScope.Text
