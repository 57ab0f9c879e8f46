import SqlScope.Proofs.EngineContract
import Mathlib.Data.List.SplitBy

/-!
# Whitespace normalization

Before a statement is read, its text is cut at spaces, tabs, carriage returns and line feeds
(the breaks), quoted literals included, and the non-empty pieces, the words, are joined with
single spaces. The cut is `List.splitBy` on pairs of non-breaks: its pieces are the maximal
runs of non-breaks and every break standing alone.

## Main statements

- `flatten_words`: the words of a text are its non-breaks, in order.
- `words_intercalate`: cutting words joined by single spaces gives the words back.
- `normal_normalize`: normalized text is in normal form: the space is its only break, no
  space stands at either end and no two spaces stand together.
- `normalize_normalize`, `filter_normalize`, `normalize_eq_empty_iff`: normalizing twice is
  normalizing once, keeps the non-breaks, and gives empty text exactly for breaks only.
- `normalize_collapses_whitespace`: all of these, with blank input reported exactly then.
-/

namespace SqlScope.Scope

open SqlScope.Sql

@[simp] theorem isBreak_space : isBreak ' ' = true := rfl

/-- Two characters stay in one piece of the cut only when neither is a break. -/
theorem joins_eq_false_of_isBreak {a b : Char} (h : isBreak a = true ∨ isBreak b = true) :
    (!isBreak a && !isBreak b) = false := by
  rcases h with h | h <;> simp [h]

/-! ## Words -/

/-- A word: a non-empty stretch of text with no break in it. -/
structure IsWord (w : List Char) : Prop where
  ne_nil : w ≠ []
  no_break : ∀ c ∈ w, isBreak c = false

theorem IsWord.ne_space {w : List Char} (hw : IsWord w) {c : Char} (hc : c ∈ w) : c ≠ ' ' := by
  rintro rfl
  simpa using hw.no_break _ hc

theorem IsWord.any_isBreak {w : List Char} (hw : IsWord w) : w.any isBreak = false := by
  simpa using hw.no_break

/-- A word is one piece of the cut. -/
theorem IsWord.isChain {w : List Char} (hw : IsWord w) :
    w.IsChain fun a b => (!isBreak a && !isBreak b) = true :=
  List.Pairwise.isChain <| List.pairwise_of_forall_mem_list fun a ha b hb => by
    simp [hw.no_break a ha, hw.no_break b hb]

/-- Within a piece of two or more characters, none is a break. -/
theorem isBreak_eq_false_of_isChain {a b : Char} {t : List Char}
    (h : (a :: b :: t).IsChain fun x y => (!isBreak x && !isBreak y) = true) :
    ∀ c ∈ a :: b :: t, isBreak c = false := by
  induction t generalizing a b with
  | nil =>
    have hab := List.isChain_pair.1 h
    simp only [Bool.and_eq_true, Bool.not_eq_true'] at hab
    simp [hab.1, hab.2]
  | cons d t ih =>
    obtain ⟨hab, hrest⟩ := List.isChain_cons_cons.1 h
    simp only [Bool.and_eq_true, Bool.not_eq_true'] at hab
    intro c hc
    rcases List.mem_cons.1 hc with rfl | hc
    · exact hab.1
    · exact ih hrest c hc

/-- A piece of the cut keeps its non-breaks only when it is a word: a piece that holds a
break is that break alone. -/
theorem filter_of_mem_splitBy {l g : List Char}
    (hg : g ∈ l.splitBy fun a b => !isBreak a && !isBreak b) :
    g.filter (fun c => !isBreak c) = if g.any isBreak then [] else g := by
  by_cases hb : g.any isBreak
  · rw [if_pos hb]
    -- two or more characters in one piece are all non-breaks, so the piece is one break
    obtain _ | ⟨a, _ | ⟨b, t⟩⟩ := g
    · exact absurd rfl (List.ne_nil_of_mem_splitBy hg)
    · simpa using hb
    · obtain ⟨c, hc, hbc⟩ := List.any_eq_true.1 hb
      simp [isBreak_eq_false_of_isChain (List.isChain_of_mem_splitBy hg) c hc] at hbc
  · rw [if_neg hb]
    exact List.filter_eq_self.2 (by simpa using hb)

theorem isWord_of_mem_words {s : String} {w : String} (h : w ∈ words s) : IsWord w.toList := by
  simp only [words, List.mem_map, List.mem_filter] at h
  obtain ⟨g, ⟨hg, hb⟩, rfl⟩ := h
  exact ⟨by simpa using List.ne_nil_of_mem_splitBy hg, by simpa using hb⟩

/-- Dropping the pieces that hold a break loses no non-break. -/
theorem flatten_filter_pieces {gs : List (List Char)}
    (h : ∀ g ∈ gs, g.filter (fun c => !isBreak c) = if g.any isBreak then [] else g) :
    (gs.filter fun g => !g.any isBreak).flatten =
      (gs.map (List.filter fun c => !isBreak c)).flatten := by
  induction gs with
  | nil => rfl
  | cons g gs ih =>
    rw [List.map_cons, List.flatten_cons, h g List.mem_cons_self,
      ← ih fun g' hg' => h g' (List.mem_cons_of_mem g hg')]
    by_cases hb : g.any isBreak <;> simp [hb]

/-- The words of a text are its non-breaks, in order. -/
theorem flatten_words (s : String) :
    ((words s).map String.toList).flatten = s.toList.filter (fun c => !isBreak c) := by
  -- the text is its pieces in order, and the words are the pieces without a break
  have hpieces := flatten_filter_pieces fun _ => filter_of_mem_splitBy (l := s.toList)
  rw [← List.filter_flatten, List.flatten_splitBy] at hpieces
  simpa [words, Function.comp_def] using hpieces

/-! ## Cutting joined words -/

/-- Words joined by single spaces are cut into the words and the spaces between them. -/
theorem splitBy_intercalate {ws : List (List Char)} (hws : ∀ w ∈ ws, IsWord w) :
    ([' '].intercalate ws).splitBy (fun a b => !isBreak a && !isBreak b) =
      ws.intersperse [' '] := by
  induction ws with
  | nil => rfl
  | cons w ws ih =>
    have hw := hws w List.mem_cons_self
    cases ws with
    | nil => simpa using List.splitBy_of_isChain hw.ne_nil hw.isChain
    | cons w' ws =>
      -- the space is a piece of its own on both sides
      rw [List.intercalate_cons_cons, List.append_assoc,
        List.splitBy_append fun _ _ _ hy => joins_eq_false_of_isBreak (.inr (by cases hy; rfl)),
        List.splitBy_append fun _ hx _ _ => joins_eq_false_of_isBreak (.inl (by cases hx; rfl)),
        List.splitBy_of_isChain hw.ne_nil hw.isChain,
        ih fun v hv => hws v (List.mem_cons_of_mem w hv), List.intersperse_cons_cons]
      rfl

theorem filter_intersperse_space {ws : List (List Char)} (hws : ∀ w ∈ ws, IsWord w) :
    (ws.intersperse [' ']).filter (fun w => !w.any isBreak) = ws := by
  induction ws with
  | nil => rfl
  | cons w ws ih =>
    have hw := hws w List.mem_cons_self
    have ih := ih fun v hv => hws v (List.mem_cons_of_mem w hv)
    cases ws with
    | nil => simp [hw.any_isBreak]
    | cons w' ws => simp [List.intersperse_cons_cons, hw.any_isBreak, ih]

theorem toList_intercalate_space (ws : List String) :
    (" ".intercalate ws).toList = [' '].intercalate (ws.map String.toList) :=
  String.toList_intercalate

/-- Cutting words joined by single spaces gives the words back. -/
theorem words_intercalate {ws : List String} (hws : ∀ w ∈ ws, IsWord w.toList) :
    words (" ".intercalate ws) = ws := by
  have hws' : ∀ w ∈ ws.map String.toList, IsWord w := by simpa using hws
  simp only [words, toList_intercalate_space]
  rw [splitBy_intercalate hws', filter_intersperse_space hws']
  simp

@[simp] theorem words_normalize (s : String) : words (normalize s) = words s :=
  words_intercalate fun _ => isWord_of_mem_words

/-- Normalizing twice is normalizing once. -/
@[simp] theorem normalize_normalize (s : String) : normalize (normalize s) = normalize s := by
  show " ".intercalate (words (normalize s)) = normalize s
  rw [words_normalize]
  rfl

/-- Normalizing keeps the non-breaks of the text, in order. -/
theorem filter_normalize (s : String) :
    (normalize s).toList.filter (fun c => !isBreak c) = s.toList.filter (fun c => !isBreak c) := by
  rw [← flatten_words, words_normalize, flatten_words]

/-! ## Normal form -/

/-- Text in normal form: the space is its only break, it neither starts nor ends with a space,
and no two spaces stand together. -/
structure Normal (t : List Char) : Prop where
  break_eq_space : ∀ c ∈ t, isBreak c = true → c = ' '
  head_ne_space : ∀ c ∈ t.head?, c ≠ ' '
  getLast_ne_space : ∀ c ∈ t.getLast?, c ≠ ' '
  spaces_apart : t.IsChain fun a b => a = ' ' → b ≠ ' '

theorem IsWord.normal {w : List Char} (hw : IsWord w) : Normal w where
  break_eq_space c hc hb := by simp [hw.no_break c hc] at hb
  head_ne_space _ hc := hw.ne_space (List.mem_of_mem_head? hc)
  getLast_ne_space _ hc := hw.ne_space (List.mem_of_mem_getLast? hc)
  spaces_apart := List.Pairwise.isChain <| List.pairwise_of_forall_mem_list
    fun _ ha _ _ h => absurd h (hw.ne_space ha)

/-- A word, a space and text in normal form that is not empty make text in normal form. -/
theorem Normal.word_space_append {w t : List Char} (hw : IsWord w) (ht : Normal t)
    (hne : t ≠ []) : Normal (w ++ ' ' :: t) where
  break_eq_space c hc hb := by
    rcases List.mem_append.1 hc with hc | hc
    · simp [hw.no_break c hc] at hb
    · rcases List.mem_cons.1 hc with rfl | hc
      · rfl
      · exact ht.break_eq_space c hc hb
  head_ne_space c hc := by
    rw [List.head?_append_of_ne_nil _ hw.ne_nil] at hc
    exact hw.ne_space (List.mem_of_mem_head? hc)
  getLast_ne_space c hc := by
    rw [List.getLast?_append_of_ne_nil _ (List.cons_ne_nil _ _), ← List.singleton_append,
      List.getLast?_append_of_ne_nil _ hne] at hc
    exact ht.getLast_ne_space c hc
  spaces_apart := by
    refine hw.normal.spaces_apart.append (List.isChain_cons.2 ⟨?_, ht.spaces_apart⟩) ?_
    · exact fun y hy _ => ht.head_ne_space y hy
    · exact fun x hx _ _ hxs => absurd hxs (hw.ne_space (List.mem_of_mem_getLast? hx))

/-- Words joined by single spaces are in normal form. -/
theorem normal_intercalate {ws : List (List Char)} (hws : ∀ w ∈ ws, IsWord w) :
    Normal ([' '].intercalate ws) := by
  induction ws with
  | nil => exact ⟨by simp, by simp, by simp, .nil⟩
  | cons w ws ih =>
    have hw := hws w List.mem_cons_self
    have ih := ih fun v hv => hws v (List.mem_cons_of_mem w hv)
    cases ws with
    | nil => simpa using hw.normal
    | cons w' ws =>
      have hne : [' '].intercalate (w' :: ws) ≠ [] := by
        obtain ⟨x, xs, hx⟩ := List.exists_cons_of_ne_nil (hws w' (by simp)).ne_nil
        simp [hx]
      simpa using Normal.word_space_append hw ih hne

/-- Normalized text is in normal form. -/
theorem normal_normalize (s : String) : Normal (normalize s).toList := by
  rw [normalize, toList_intercalate_space]
  exact normal_intercalate (by simpa using fun _ => isWord_of_mem_words)

example : normalize "  SELECT *\n\tFROM   tenant\r\n WHERE id = 1  " =
    "SELECT * FROM tenant WHERE id = 1" := by
  decide

theorem Normal.not_mem {t : List Char} (ht : Normal t) {c : Char} (hb : isBreak c = true)
    (hc : c ≠ ' ') : c ∉ t :=
  fun h => hc (ht.break_eq_space c h hb)

theorem Normal.not_two_spaces {t : List Char} (ht : Normal t) : ¬[' ', ' '] <:+: t := by
  intro h
  have hpair : [' ', ' '].IsChain fun a b => a = ' ' → b ≠ ' ' :=
    List.IsChain.infix ht.spaces_apart h
  exact List.isChain_pair.1 hpair rfl rfl

/-- Text in normal form that is not empty holds a non-break. -/
theorem Normal.filter_eq_nil_iff {t : List Char} (ht : Normal t) :
    t.filter (fun c => !isBreak c) = [] ↔ t = [] := by
  refine ⟨fun h => ?_, by rintro rfl; rfl⟩
  cases t with
  | nil => rfl
  | cons c t =>
    have hc : isBreak c = false := by
      cases hb : isBreak c
      · rfl
      · exact absurd (ht.break_eq_space c List.mem_cons_self hb) (ht.head_ne_space c rfl)
    simp [hc] at h

/-- Normalized text is empty exactly when the text is breaks only. -/
theorem normalize_eq_empty_iff (s : String) :
    normalize s = "" ↔ ∀ c ∈ s.toList, isBreak c = true := by
  rw [← String.toList_eq_nil_iff, ← (normal_normalize s).filter_eq_nil_iff, filter_normalize]
  simp

/-- Reading a statement reports blank input exactly when the normalized text is empty. -/
theorem parseStatement_eq_blankInput_iff (d : Dialect) (sql : String) :
    parseStatement d sql = .error .blankInput ↔ normalize sql = "" := by
  constructor
  · intro h
    rcases parseStatement_error h with ⟨he, -⟩ | ⟨m, hm⟩ | hm | ⟨n, -, hm⟩
    · exact he
    all_goals cases hm
  · intro h
    simp only [parseStatement, h]
    rfl

/-- The laws of normalization: normalized text has no tab, carriage return or line feed, no
space at either end and no two spaces together; it keeps every other character in order;
normalizing it again changes nothing; and it is empty, which is when reading a statement
reports blank input, exactly when the text is breaks only. -/
theorem normalize_collapses_whitespace (s : String) :
    '\t' ∉ (normalize s).toList ∧ '\r' ∉ (normalize s).toList ∧
      '\n' ∉ (normalize s).toList ∧
      (normalize s).toList.head? ≠ some ' ' ∧ (normalize s).toList.getLast? ≠ some ' ' ∧
      ¬[' ', ' '] <:+: (normalize s).toList ∧
      (normalize s).toList.filter (fun c => !isBreak c) =
        s.toList.filter (fun c => !isBreak c) ∧
      normalize (normalize s) = normalize s ∧
      (normalize s = "" ↔ ∀ c ∈ s.toList, isBreak c = true) ∧
      ∀ d, parseStatement d s = .error .blankInput ↔ ∀ c ∈ s.toList, isBreak c = true := by
  have hn := normal_normalize s
  refine ⟨hn.not_mem rfl (by decide), hn.not_mem rfl (by decide), hn.not_mem rfl (by decide),
    fun h => hn.head_ne_space ' ' h rfl, fun h => hn.getLast_ne_space ' ' h rfl,
    hn.not_two_spaces, filter_normalize s,
    normalize_normalize s, normalize_eq_empty_iff s, fun d => ?_⟩
  exact (parseStatement_eq_blankInput_iff d s).trans (normalize_eq_empty_iff s)

end SqlScope.Scope
