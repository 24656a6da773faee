/-
SearchSql.Proofs.Parentheses — how deep in parentheses a text leaves off.

Text that is handed to the daemon is balanced or refused there, so behind it a
parenthesis that closes nothing is an error. Text that was declared may be
anything, and in it such a parenthesis changes nothing.

* `level?` — the parentheses that are open behind a text; none where one is
  closed that was not open.
* `nesting` — the parentheses that are open behind a text, whatever the text.
-/
namespace SearchSql

/-! ## 1. Text that may be refused -/

/-- How many parentheses are open behind a text, with `level` of them open before
it. A text that closes one more has no level. -/
def level? : (level : Nat) → List Char → Option Nat
  | level, [] => some level
  | level, '(' :: rest => level? (level + 1) rest
  | 0, ')' :: _ => none
  | level + 1, ')' :: rest => level? level rest
  | level, _ :: rest => level? level rest

theorem level?_cons {c : Char} (hopen : c ≠ '(') (hclose : c ≠ ')') (level : Nat)
    (rest : List Char) : level? level (c :: rest) = level? level rest := by
  rw [level?]
  all_goals
    intros
    simp_all

theorem level?_append (level : Nat) (cs ds : List Char) :
    level? level (cs ++ ds) = (level? level cs).bind fun inside => level? inside ds := by
  induction cs generalizing level with
  | nil => rfl
  | cons c cs ih =>
    by_cases hopen : c = '('
    · subst hopen
      exact ih (level + 1)
    · by_cases hclose : c = ')'
      · subst hclose
        cases level with
        | zero => rfl
        | succ level => exact ih level
      · rw [List.cons_append, level?_cons hopen hclose, level?_cons hopen hclose, ih]

/-- Characters other than parentheses may be left out. -/
theorem level?_filter {p : Char → Bool} (hopen : p '(' = true) (hclose : p ')' = true)
    (level : Nat) (cs : List Char) : level? level (cs.filter p) = level? level cs := by
  induction cs generalizing level with
  | nil => rfl
  | cons c cs ih =>
    by_cases hleft : c = '('
    · subst hleft
      rw [List.filter_cons_of_pos hopen]
      exact ih (level + 1)
    · by_cases hright : c = ')'
      · subst hright
        rw [List.filter_cons_of_pos hclose]
        cases level with
        | zero => rfl
        | succ level => exact ih level
      · rw [level?_cons hleft hright, ← ih]
        cases hp : p c with
        | true => rw [List.filter_cons_of_pos hp, level?_cons hleft hright]
        | false => rw [List.filter_cons_of_neg (by simp [hp])]

/-- A text without parentheses leads no deeper. -/
theorem level?_of_notMem {cs : List Char} (hopen : '(' ∉ cs) (hclose : ')' ∉ cs) (level : Nat) :
    level? level cs = some level := by
  induction cs with
  | nil => rfl
  | cons c cs ih =>
    rw [List.mem_cons, not_or] at hopen hclose
    rw [level?_cons (Ne.symm hopen.1) (Ne.symm hclose.1), ih hopen.2 hclose.2]

/-- Parts of a text may be exchanged for others that lead as deep. -/
theorem level?_flatMap_congr {f g : α → List Char} : ∀ {as : List α},
    (∀ a ∈ as, ∀ level, level? level (f a) = level? level (g a)) →
      ∀ level, level? level (as.flatMap f) = level? level (as.flatMap g)
  | [], _, _ => rfl
  | a :: as, h, level => by
      rw [List.flatMap_cons, List.flatMap_cons, level?_append, level?_append,
        h a List.mem_cons_self]
      congr 1
      funext inside
      exact level?_flatMap_congr (fun b hb => h b (List.mem_cons_of_mem a hb)) inside

/-- A text whose parentheses are balanced: no start of it closes more of them than it
opens, and the whole closes as many. -/
structure Balanced (cs : List Char) : Prop where
  closes_le : ∀ start, start <+: cs → start.count ')' ≤ start.count '('
  closes_eq : cs.count ')' = cs.count '('

/-- The level behind a text, in terms of how often it opens and closes. -/
theorem level?_eq_some_iff {level final : Nat} {cs : List Char} :
    level? level cs = some final ↔
      (∀ start, start <+: cs → start.count ')' ≤ level + start.count '(') ∧
        final + cs.count ')' = level + cs.count '(' := by
  induction cs generalizing level with
  | nil =>
    simp only [level?, Option.some.injEq, List.prefix_nil, List.count_nil, Nat.add_zero,
      forall_eq, Nat.zero_le, true_and]
    exact eq_comm
  | cons c cs ih =>
    have hstarts : (∀ start, start <+: c :: cs → start.count ')' ≤ level + start.count '(') ↔
        ∀ start, start <+: cs → (c :: start).count ')' ≤ level + (c :: start).count '(' := by
      constructor
      · intro h start hstart
        exact h (c :: start) ((List.prefix_cons_inj c).2 hstart)
      · intro h start hstart
        rcases List.prefix_cons_iff.1 hstart with rfl | ⟨rest, rfl, hrest⟩
        · exact Nat.zero_le _
        · exact h rest hrest
    rw [hstarts]
    by_cases hopen : c = '('
    · subst hopen
      rw [level?, ih]
      simp only [List.count_cons_self, List.count_cons_of_ne (show '(' ≠ ')' by decide),
        Nat.add_assoc, Nat.add_comm 1]
    · by_cases hclose : c = ')'
      · subst hclose
        simp only [List.count_cons_self, List.count_cons_of_ne (show ')' ≠ '(' by decide)]
        cases level with
        | zero =>
          -- The closer alone is a start that closes too many.
          simp only [level?, reduceCtorEq, false_iff, not_and]
          intro h
          exact absurd (h [] List.nil_prefix) (by simp)
        | succ level =>
          rw [level?, ih]
          constructor
          · rintro ⟨h, hall⟩
            exact ⟨fun start hstart => by have := h start hstart; omega, by omega⟩
          · rintro ⟨h, hall⟩
            exact ⟨fun start hstart => by have := h start hstart; omega, by omega⟩
      · rw [level?_cons hopen hclose, ih]
        simp only [List.count_cons_of_ne hopen, List.count_cons_of_ne hclose]

theorem balanced_iff_level? {cs : List Char} : Balanced cs ↔ level? 0 cs = some 0 := by
  rw [level?_eq_some_iff]
  simp only [Nat.zero_add]
  exact ⟨fun h => ⟨h.closes_le, h.closes_eq⟩, fun h => ⟨h.1, h.2⟩⟩

instance (cs : List Char) : Decidable (Balanced cs) :=
  decidable_of_iff (level? 0 cs = some 0) balanced_iff_level?.symm

/-! ## 2. Text of any kind -/

/-- The parentheses that are open behind one more character. -/
def deepen (depth : Nat) (c : Char) : Nat :=
  if c = '(' then depth + 1 else if c = ')' then depth - 1 else depth

/-- How many parentheses are open behind a text, with `depth` of them open before
it. A closing parenthesis without an opening one changes nothing. -/
def nesting (depth : Nat) (cs : List Char) : Nat :=
  cs.foldl deepen depth

@[simp] theorem nesting_nil (depth : Nat) : nesting depth [] = depth := rfl

@[simp] theorem nesting_cons (depth : Nat) (c : Char) (cs : List Char) :
    nesting depth (c :: cs) = nesting (deepen depth c) cs := rfl

theorem nesting_append (depth : Nat) (cs ds : List Char) :
    nesting depth (cs ++ ds) = nesting (nesting depth cs) ds :=
  List.foldl_append

theorem deepen_of_ne {c : Char} (hopen : c ≠ '(') (hclose : c ≠ ')') (depth : Nat) :
    deepen depth c = depth := by
  rw [deepen, if_neg hopen, if_neg hclose]

/-- Characters other than parentheses may be left out. -/
theorem nesting_filter {p : Char → Bool} (hopen : p '(' = true) (hclose : p ')' = true)
    (depth : Nat) (cs : List Char) : nesting depth (cs.filter p) = nesting depth cs := by
  induction cs generalizing depth with
  | nil => rfl
  | cons c cs ih =>
    cases hp : p c with
    | true => rw [List.filter_cons_of_pos hp, nesting_cons, nesting_cons, ih]
    | false =>
      have hc : deepen depth c = depth := by
        refine deepen_of_ne ?_ ?_ depth <;> rintro rfl <;> simp_all
      rw [List.filter_cons_of_neg (by simp [hp]), nesting_cons, hc, ih]

/-- A text without an opening parenthesis leads no deeper. -/
theorem nesting_eq_zero_of_notMem {cs : List Char} (h : '(' ∉ cs) : nesting 0 cs = 0 := by
  induction cs with
  | nil => rfl
  | cons c cs ih =>
    simp only [List.mem_cons, not_or] at h
    have hdeepen : deepen 0 c = 0 := by
      rw [deepen, if_neg (Ne.symm h.1)]
      split <;> rfl
    rw [nesting_cons, hdeepen, ih h.2]

end SearchSql
