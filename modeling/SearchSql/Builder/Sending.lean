/-
SearchSql.Builder.Sending — builders put to use: compiled, executed, and read
into records.

A builder that compiles is empty afterwards and ready for the next statement,
whatever the transport makes of this one. A builder that does not compile
stays as it is, and nothing is sent.
-/
import SearchSql.Builder.Draft
import SearchSql.Record

namespace SearchSql.Builder

/-- What comes of compiling. -/
structure Compilation where
  result : Except Error Statement
  events : List Event
  builder : Builder

/-- Compiles the statement that the builder describes. -/
def compile (b : Builder) : Compilation :=
  match b.draft with
  | .ok s => ⟨.ok s, b.notices s, b.reset⟩
  | .error e => ⟨.error e, [], b⟩

/-- Compiles a statement and sends it once. -/
def execute (b : Builder) (t : Transport σ) (state : σ) : Exchange Error σ Output × Builder :=
  let c := b.compile
  match c.result with
  | .ok s => ((s.run t state).after c.events, c.builder)
  | .error e => (⟨.error e, c.events, state⟩, c.builder)

/-- Rows read one by one; the first that cannot be read decides. -/
def readRows (read : Row → Except Error α) : List Row → Except Error (List α)
  | [] => .ok []
  | row :: rest => do
    let a ← read row
    let as ← readRows read rest
    .ok (a :: as)

/-- Whether the statement in the making is one that answers with a count. -/
def mutation? (b : Builder) : Option Kind :=
  match b.target with
  | some t => if t.kind.isMutation then some t.kind else none
  | none => none

/-- Compiles a SELECT, sends it once and reads every row. -/
def fetch (b : Builder) (read : Row → Except Error α) (t : Transport σ) (state : σ) :
    Exchange Error σ (List α) × Builder :=
  match b.mutation? with
  | some kind =>
    (⟨.error (.decode (kind.keyword ++ " returns no rows to decode")), [], state⟩, b)
  | none =>
    let c := b.compile
    match c.result with
    | .ok s =>
      (((t.query s.sql state).mapResult fun r =>
        (Transport.tied s.sql r).bind (readRows read)).after c.events, c.builder)
    | .error e => (⟨.error e, c.events, state⟩, c.builder)

end SearchSql.Builder
