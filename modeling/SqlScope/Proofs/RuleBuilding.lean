import SqlScope.Config.Model
import Mathlib.Data.List.Forall2

/-!
# Building the rules of a rules file

The rules of a file are built only once `problems` finds nothing in them, and the builder
keeps a refusal of its own: a group inside a group cannot be built. The two agree.
`problems` reports every group inside a group at the place of the inner one, so the
builder's own refusal is never what a caller sees: building fails exactly when the file
has a problem, with the first of them, and otherwise gives one engine rule per entry of
the file, in order, a group giving one combined rule over all of its members.

## Main statements

- `RuleDef.problems_eq_nil`: an entry without problems builds.
- `RewriteConfig.problem_names_place`: every problem starts with the place of its entry.
- `RewriteConfig.buildRules_agrees_with_problems`: building succeeds exactly when there is
  no problem, fails with the first one otherwise, and builds each entry as `BuildsTo` says.
-/

namespace SqlScope.Config

open SqlScope.Scope

/-- A list whose members all succeed under `f` maps to the list of their results. -/
theorem mapM_ok_of_forall {f : α → Except ε β} {R : α → β → Prop} :
    (xs : List α) → (∀ x ∈ xs, ∃ y, f x = .ok y ∧ R x y) →
      ∃ ys, xs.mapM f = .ok ys ∧ List.Forall₂ R xs ys
  | [], _ => ⟨[], rfl, .nil⟩
  | x :: xs, h => by
    obtain ⟨y, hy, hR⟩ := h x List.mem_cons_self
    obtain ⟨ys, hys, hall⟩ := mapM_ok_of_forall xs fun x' hx' => h x' (List.mem_cons_of_mem x hx')
    exact ⟨y :: ys, by rw [List.mapM_cons, hy, hys]; rfl, .cons hR hall⟩

namespace RuleDef

/-- What an entry of a rules file is built into: a condition or column entry into the engine
rule of its typed rule, and a group into one combined rule, with the group's priority, over
the typed rules of all of its members in order. -/
inductive BuildsTo : RuleDef → Rule → Prop
  | typed {d : RuleDef} {t : TypedRule} : d.toTyped = .ok t → BuildsTo d (Rule.ofTyped t)
  | combined {rules : List RuleDef} {p : Option Int} {ts : List TypedRule} :
      List.Forall₂ (fun d t => toTyped d = .ok t) rules ts →
        BuildsTo (.combined rules p) (Rule.combined ts p)

theorem toTyped_of_not_combined {r : RuleDef} (h : r.isCombined = false) :
    ∃ t, r.toTyped = .ok t := by
  cases r with
  | addCondition d => exact ⟨_, rfl⟩
  | addColumn d => exact ⟨_, rfl⟩
  | combined => cases h

theorem leafProblems_prefix (location table column : String) (value : RuleValue) :
    ∀ p ∈ leafProblems location table column value, ∃ rest, p = location ++ rest := by
  intro p hp
  simp only [leafProblems, List.mem_append] at hp
  rcases hp with (hp | hp) | hp
  · split at hp
    · exact ⟨_, List.mem_singleton.mp hp⟩
    · simp at hp
  · split at hp
    · exact ⟨_, List.mem_singleton.mp hp⟩
    · simp at hp
  · split at hp
    · rename_i x
      split at hp
      · simp at hp
      · exact ⟨": value " ++ x.positional ++ " has no SQL literal form",
          by rw [List.mem_singleton.mp hp]; simp only [String.append_assoc]⟩
    · simp at hp

theorem ownProblems_prefix (location : String) (r : RuleDef) :
    ∀ p ∈ r.ownProblems location, ∃ rest, p = location ++ rest := by
  cases r with
  | addCondition d => exact leafProblems_prefix location _ _ _
  | addColumn d => exact leafProblems_prefix location _ _ _
  | combined => simp [ownProblems]

/-- Every problem of an entry starts with the entry's place; those of a group's members
start with the member's place inside it. -/
theorem problems_prefix (location : String) (r : RuleDef) :
    ∀ p ∈ r.problems location, ∃ rest, p = location ++ rest := by
  cases r with
  | addCondition d => exact leafProblems_prefix location _ _ _
  | addColumn d => exact leafProblems_prefix location _ _ _
  | combined rules priority =>
    intro p hp
    simp only [problems, List.mem_append, List.mem_flatMap] at hp
    rcases hp with hp | ⟨⟨r, j⟩, -, hp⟩
    · split at hp <;> simp_all
    · -- a member's problems start with its own place, which starts with the group's
      have hmember : ∃ rest, p = location ++ ".rules[" ++ toString j ++ "]" ++ rest := by
        split at hp
        · exact ⟨_, List.mem_singleton.mp hp⟩
        · exact ownProblems_prefix _ r p hp
      obtain ⟨rest, rfl⟩ := hmember
      exact ⟨".rules[" ++ toString j ++ "]" ++ rest, by simp only [String.append_assoc]⟩

/-- A group without problems holds no group: each of its members has a typed rule. -/
theorem toTyped_of_combined_problems {rules : List RuleDef} {p : Option Int} {location : String}
    (h : (combined rules p).problems location = []) :
    ∀ r ∈ rules, ∃ t, r.toTyped = .ok t := by
  intro r hr
  simp only [problems, List.append_eq_nil_iff, List.flatMap_eq_nil_iff] at h
  -- the member stands at some index of the group
  obtain ⟨⟨r', j⟩, hmem, rfl⟩ : ∃ x ∈ rules.zipIdx, x.1 = r := by
    have := List.zipIdx_map_fst 0 rules
    rw [← this] at hr
    simpa only [List.mem_map] using hr
  have hnested := h.2 (r', j) hmem
  apply toTyped_of_not_combined
  cases hc : r'.isCombined
  · rfl
  · simp only [hc, if_true, List.cons_ne_nil] at hnested

/-- An entry without problems builds, into what `BuildsTo` says. -/
theorem problems_eq_nil {r : RuleDef} {location : String} (h : r.problems location = []) :
    ∃ rule, r.toRule = .ok rule ∧ BuildsTo r rule := by
  cases r with
  | addCondition d => exact ⟨_, rfl, .typed rfl⟩
  | addColumn d => exact ⟨_, rfl, .typed rfl⟩
  | combined rules p =>
    obtain ⟨ts, hts, hall⟩ := mapM_ok_of_forall rules fun r hr => by
      obtain ⟨t, ht⟩ := toTyped_of_combined_problems h r hr
      exact ⟨t, ht, ht⟩
    exact ⟨_, by rw [toRule, hts]; rfl, .combined hall⟩

end RuleDef

namespace RewriteConfig

/-- Every problem of a rules file starts with the place `rules[i]` of an entry of the file. -/
theorem problem_names_place (c : RewriteConfig) :
    ∀ p ∈ c.problems, ∃ i rest, i < c.rules.length ∧ p = "rules[" ++ toString i ++ "]" ++ rest := by
  intro p hp
  simp only [problems, List.mem_flatMap] at hp
  obtain ⟨⟨r, i⟩, hmem, hp⟩ := hp
  obtain ⟨rest, rfl⟩ := RuleDef.problems_prefix _ r p hp
  exact ⟨i, rest, List.snd_lt_of_mem_zipIdx hmem, rfl⟩

theorem buildRules_of_problems_cons {c : RewriteConfig} {p : String} {ps : List String}
    (h : c.problems = p :: ps) : c.buildRules = .error p := by
  simp only [buildRules, validate, h, List.head?_cons]

theorem buildRules_of_problems_nil {c : RewriteConfig} (h : c.problems = []) :
    ∃ rules, c.buildRules = .ok rules ∧ List.Forall₂ RuleDef.BuildsTo c.rules rules := by
  -- each entry has no problem at its place
  have hentry : ∀ r ∈ c.rules, ∃ loc, r.problems loc = [] := by
    intro r hr
    simp only [problems, List.flatMap_eq_nil_iff] at h
    obtain ⟨⟨r', i⟩, hmem, rfl⟩ : ∃ x ∈ c.rules.zipIdx, x.1 = r := by
      have := List.zipIdx_map_fst 0 c.rules
      rw [← this] at hr
      simpa only [List.mem_map] using hr
    exact ⟨_, h (r', i) hmem⟩
  obtain ⟨rules, hrules, hall⟩ := mapM_ok_of_forall c.rules fun r hr => by
    obtain ⟨loc, hloc⟩ := hentry r hr
    exact RuleDef.problems_eq_nil hloc
  refine ⟨rules, ?_, hall⟩
  simp only [buildRules, validate, h, List.head?_nil, hrules]

/-- A failed build names the place of an entry, so it never fails with the builder's own
refusal of a group inside a group. -/
theorem buildRules_error_names_place {c : RewriteConfig} {e : String} (h : c.buildRules = .error e) :
    e ≠ "combined rules cannot be nested" := by
  cases hp : c.problems with
  | nil =>
    obtain ⟨rules, hok, -⟩ := buildRules_of_problems_nil hp
    rw [hok] at h
    cases h
  | cons p ps =>
    rw [buildRules_of_problems_cons hp] at h
    obtain rfl := Except.error.inj h
    obtain ⟨i, rest, -, rfl⟩ := c.problem_names_place p (by rw [hp]; exact List.mem_cons_self)
    intro heq
    -- the two texts differ in their first character
    have := congrArg (fun s => s.toList.head?) heq
    simp at this

/-- Building the rules of a file agrees with its problems. It succeeds exactly when there is
none, and then builds each entry, in order, as `BuildsTo` says: a group into one combined
rule over all of its members. It fails with the first problem otherwise, and never with the
builder's own refusal of a group inside a group, whatever the depth of nesting. -/
theorem buildRules_agrees_with_problems (c : RewriteConfig) :
    ((∃ rules, c.buildRules = .ok rules) ↔ c.problems = []) ∧
    (∀ e, c.buildRules = .error e ↔ c.problems.head? = some e) ∧
    (∀ rules, c.buildRules = .ok rules → List.Forall₂ RuleDef.BuildsTo c.rules rules) ∧
    c.buildRules ≠ .error "combined rules cannot be nested" := by
  refine ⟨⟨fun ⟨rules, h⟩ => ?_, fun h => ?_⟩, fun e => ?_, fun rules h => ?_, fun h => ?_⟩
  · cases hp : c.problems with
    | nil => rfl
    | cons p ps => rw [buildRules_of_problems_cons hp] at h; cases h
  · obtain ⟨rules, hok, -⟩ := buildRules_of_problems_nil h
    exact ⟨rules, hok⟩
  · cases hp : c.problems with
    | nil =>
      obtain ⟨rules, hok, -⟩ := buildRules_of_problems_nil hp
      simp [hok]
    | cons p ps => simp [buildRules_of_problems_cons hp]
  · obtain ⟨rules', hok, hall⟩ := buildRules_of_problems_nil (by
      cases hp : c.problems with
      | nil => rfl
      | cons p ps => rw [buildRules_of_problems_cons hp] at h; cases h)
    rw [hok] at h
    cases h
    exact hall
  · exact buildRules_error_names_place h rfl

end RewriteConfig

end SqlScope.Config
