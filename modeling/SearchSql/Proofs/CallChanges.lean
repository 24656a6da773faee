/-
SearchSql.Proofs.CallChanges — a call is one check and one change.

A call works step by step, and a step that sets something may stand before a
step that refuses. `Call.check` takes all checks of a call together and needs
its arguments only; `Builder.make` sets all that the call sets.

* `Builder.call_eq` — the work of a call comes to its check, followed by its
  change where the check passes.
* `Builder.call_error_iff` — a call fails where its check does, and then the
  builder is what it was.
* `Call.change_of_check` — which change a call comes to.
-/
import SearchSql.Builder.Basic
import SearchSql.Proofs.CheckedNames

namespace SearchSql

/-! ## 1. Changes -/

/-- What a call that passed its checks sets. -/
inductive Change
  | target (t : Target)
  | predicate (p : Predicate)
  | groupBy (column : String)
  | orderBy (column : String) (direction : Direction)
  | limit (offset limit : UInt64)
  | maxMatches (cap : UInt64)
  | pairs (enabled : Bool)
  | row (values : List Value)
deriving DecidableEq

namespace Change

/-- The start of a statement with given fields. -/
def starting (kind : Kind) (index : String) (fields : Fields) : Except Error Change :=
  (Name.index index).map fun index => .target ⟨kind, index, fields⟩

/-- The start of a statement that writes: every column needs a name. -/
def writing (kind : Kind) (index : String) (columns : Fields) : Except Error Change :=
  if columns.isEmpty then .error (.emptyFields kind)
  else (Name.fields columns.names).bind fun names => starting kind index (.columns names)

end Change

/-- The change that a call amounts to, or why there is none. -/
def Call.check : Call → Except Error Change
  | .selectFrom index fields =>
    if fields.isEmpty then .error (.emptyFields .select) else Change.starting .select index fields
  | .insertInto index columns => Change.writing .insert index columns
  | .replaceInto index columns => Change.writing .replace index columns
  | .deleteFrom index => Change.starting .delete index .empty
  | .filter field op operand => (Predicate.compare field op operand).map .predicate
  | .between field low high => (Predicate.range field low high).map .predicate
  | .oneOf negated field vs => (Predicate.oneOf negated field vs).map .predicate
  | .search field terms anchoring => (Predicate.search field terms anchoring).map .predicate
  | .searchAll terms anchoring => (Predicate.searchAll terms anchoring).map .predicate
  | .groupBy field => (Name.field field).map .groupBy
  | .orderBy field direction => (Name.field field).map (.orderBy · direction)
  | .limit offset count => .ok (.limit offset count)
  | .maxMatches cap => .ok (.maxMatches cap)
  | .pairs enabled => .ok (.pairs enabled)
  | .values row =>
    if row.isEmpty then .error (.emptyValues "values row is empty") else .ok (.row row)

/-- The builder with a change made. -/
def Builder.make (b : Builder) : Change → Builder
  | .target t => { b with target := some t }
  | .predicate p => { b with condition := b.condition.add p }
  | .groupBy column => { b with options.groupBy := some column }
  | .orderBy column direction => { b with options.orderBy := some (column, direction) }
  | .limit offset count =>
    { b with options.paging.offset := offset, options.paging.limit := count }
  | .maxMatches cap => { b with options.paging.maxMatches := cap }
  | .pairs enabled => { b with options.pairs := enabled }
  | .row values => { b with rows := b.rows ++ [values] }

/-! ## 2. What work comes to -/

/-- Work that comes to a check and, where it passes, one change. -/
def Work.ComesTo (w : Work Unit) (checked : Except Error Change) : Prop :=
  ∀ b, w.run b = match checked with
    | .ok change => .ok () (b.make change)
    | .error e => .error e b

namespace Work

/-- A check whose result goes into one change. -/
theorem comesTo_map (r : Except Error α) (change : α → Change) :
    ComesTo (do let a ← ofExcept r; modify (·.make (change a))) (r.map change) := by
  intro b
  cases r <;> rfl

theorem comesTo_start (kind : Kind) (index : String) (fields : Fields) :
    ComesTo (start kind index fields) (Change.starting kind index fields) :=
  comesTo_map (Name.index index) fun index => .target ⟨kind, index, fields⟩

/-- A refusal in front of work that comes to a check is one more check. -/
theorem comesTo_unless {w : Work Unit} {checked : Except Error Change} (hw : ComesTo w checked)
    (p : Bool) (e : Error) :
    ComesTo (do
        if p then throw e
        w) (if p then .error e else checked) := by
  intro b
  cases p with
  | true => rfl
  | false => exact hw b

theorem comesTo_startWriting (kind : Kind) (index : String) (columns : Fields) :
    ComesTo (startWriting kind index columns) (Change.writing kind index columns) := by
  refine comesTo_unless (fun b => ?_) columns.isEmpty (.emptyFields kind)
  cases h : Name.fields columns.names with
  | error e => rfl
  | ok names => exact comesTo_start kind index (.columns names) b

theorem comesTo_addPredicate (checked : Except Error Predicate) :
    ComesTo (addPredicate checked) (checked.map .predicate) :=
  comesTo_map checked .predicate

end Work

/-- The work of a call comes to its check and its change. -/
theorem Call.comesTo_check (c : Call) : c.perform.ComesTo c.check := by
  cases c with
  | selectFrom index fields =>
    exact Work.comesTo_unless (Work.comesTo_start .select index fields) _ _
  | insertInto index columns => exact Work.comesTo_startWriting .insert index columns
  | replaceInto index columns => exact Work.comesTo_startWriting .replace index columns
  | deleteFrom index => exact Work.comesTo_start .delete index .empty
  | filter field op operand => exact Work.comesTo_addPredicate _
  | between field low high => exact Work.comesTo_addPredicate _
  | oneOf negated field vs => exact Work.comesTo_addPredicate _
  | search field terms anchoring => exact Work.comesTo_addPredicate _
  | searchAll terms anchoring => exact Work.comesTo_addPredicate _
  | groupBy field => exact Work.comesTo_map (Name.field field) .groupBy
  | orderBy field direction => exact Work.comesTo_map (Name.field field) (.orderBy · direction)
  | limit offset count => exact fun b => rfl
  | maxMatches cap => exact fun b => rfl
  | pairs enabled => exact fun b => rfl
  | values row =>
    have hadd : Work.ComesTo (modify (·.make (.row row))) (.ok (.row row)) := fun b => rfl
    exact Work.comesTo_unless hadd _ _

/-! ## 3. Calls -/

namespace Change

variable {kind : Kind} {index : String} {change : Change}

/-- What the start of a statement comes to. -/
theorem target_of_starting {fields : Fields} (h : starting kind index fields = .ok change) :
    ∃ name, Name.index index = .ok name ∧ change = .target ⟨kind, name, fields⟩ := by
  obtain ⟨name, hname, rfl⟩ := map_eq_ok_iff.1 h
  exact ⟨name, hname, rfl⟩

/-- A start that writes comes to a target with the clean names of what was
declared. -/
theorem target_of_writing {columns : Fields} (h : writing kind index columns = .ok change) :
    columns.isEmpty = false ∧ ∃ names name, Name.fields columns.names = .ok names ∧
      Name.index index = .ok name ∧ change = .target ⟨kind, name, .columns names⟩ := by
  rw [writing] at h
  split at h
  · cases h
  · next hne =>
    obtain ⟨names, hnames, h⟩ := bind_eq_ok_iff.1 h
    obtain ⟨name, hname, rfl⟩ := target_of_starting h
    exact ⟨by simpa using hne, names, name, hnames, hname, rfl⟩

end Change

/-- The change of a call that passes its check. -/
theorem Call.change_of_check {c : Call} {change : Change} (h : c.check = .ok change) :
    match c with
    | .selectFrom .. | .insertInto .. | .replaceInto .. | .deleteFrom .. =>
      ∃ t, change = .target t
    | .filter .. | .between .. | .oneOf .. | .search .. | .searchAll .. =>
      ∃ p, change = .predicate p
    | .groupBy _ => ∃ column, change = .groupBy column
    | .orderBy _ direction => ∃ column, change = .orderBy column direction
    | .limit offset count => change = .limit offset count
    | .maxMatches cap => change = .maxMatches cap
    | .pairs enabled => change = .pairs enabled
    | .values row => row ≠ [] ∧ change = .row row := by
  cases c with
  | selectFrom index fields =>
    rw [check] at h
    split at h
    · cases h
    · obtain ⟨name, -, rfl⟩ := Change.target_of_starting h
      exact ⟨_, rfl⟩
  | insertInto | replaceInto =>
    obtain ⟨-, names, name, -, -, rfl⟩ := Change.target_of_writing h
    exact ⟨_, rfl⟩
  | deleteFrom index =>
    obtain ⟨name, -, rfl⟩ := Change.target_of_starting h
    exact ⟨_, rfl⟩
  | filter | between | oneOf | search | searchAll | groupBy | orderBy =>
    obtain ⟨a, -, rfl⟩ := map_eq_ok_iff.1 h
    exact ⟨a, rfl⟩
  | limit | maxMatches | pairs =>
    cases h
    rfl
  | values row =>
    rw [check] at h
    split at h
    · cases h
    · next hne =>
      cases h
      exact ⟨by simpa using hne, rfl⟩

namespace Builder

theorem call_eq (b : Builder) (c : Call) :
    b.call c = match c.check with
      | .ok change => (.ok (), b.make change)
      | .error e => (.error e, b) := by
  rw [call, c.comesTo_check b]
  cases c.check <;> rfl

theorem call_of_check_ok {c : Call} {change : Change} (h : c.check = .ok change) (b : Builder) :
    b.call c = (.ok (), b.make change) := by
  rw [call_eq, h]

theorem call_of_check_error {c : Call} {e : Error} (h : c.check = .error e) (b : Builder) :
    b.call c = (.error e, b) := by
  rw [call_eq, h]

/-- A call fails where its check does, whatever was declared before. -/
theorem call_error_iff (b : Builder) (c : Call) (e : Error) :
    (b.call c).1 = .error e ↔ c.check = .error e := by
  cases h : c.check with
  | ok change => simp [call_of_check_ok h]
  | error e' => simp [call_of_check_error h]

/-- What a call leaves is the builder before it or the builder with the call's
change. -/
theorem call_snd (b : Builder) (c : Call) :
    (b.call c).2 = match c.check with
      | .ok change => b.make change
      | .error _ => b := by
  rw [call_eq]
  cases c.check <;> rfl

end Builder

end SearchSql
