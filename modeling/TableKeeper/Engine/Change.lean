import TableKeeper.Engine.Insertion

/-!
  TableKeeper.Engine.Change — UPDATE and DELETE.

  1. The rows are found first and changed then, one by one. A row that is gone by then is
     passed over.
  2. An update counts the rows that it wrote, and a deletion those that it removed.
  3. The rows of an update may be joined with others. A row that goes with several is changed
     once, by the last of them.
-/

namespace TableKeeper.Engine

open Sql

/-! ## UPDATE -/

structure PreparedUpdate where
  table : Table
  resolution : Option Resolution
  assignments : List Assignment
  reading : Reading
  returning : List OutputColumn

/-- The rows of one table that meet a condition. -/
def readingOf (t : Table) (condition : Option Term) : Reading := .ofCondition [{ table := t }] condition.toList

def prepareUpdate (cx : Context) (u : Update) : Except Fault PreparedUpdate := do
  let cx := cx.withNamed u.named
  let t ← changeable cx.database u.subject
  let others ← openSources cx u.sources
  let known := { table := t, label := u.subject.label : Known } :: others
  let scope := cx.scope known
  let assignments ← prepareAssignments t scope u.assignments
  let condition ← resolve? scope u.condition
  let joins ← (u.sources.zip others).zipIdx.mapM fun ((s, k), n) => joinTerms scope s k (n + 1)
  let (sources, inner) := joinedConditions known ([] :: joins)
  return {
    table := t
    resolution := u.resolution
    assignments
    reading := .ofCondition sources (condition.toList ++ inner)
    returning := ← returningColumns cx t u.subject.label u.returning }

/-- A row that is to be changed, and the rows that go with it. -/
structure Match where
  row : Row
  rows : Rows

def Work.updateRows (f : Frame) (p : PreparedUpdate) : List Match → Work → Work × Option Failure
  | [], w => (w, none)
  | found :: rest, w =>
    match w.table.rowAt? found.row.rowid with
    | none => w.updateRows f p rest
    | some old =>
      let result : Except Failure Work := do
        match ← updateRow w.table p.resolution { f with rows := some old :: found.rows } p.assignments old with
        | none => return w
        | some (t, r) => (w.update t old r).returning f p.returning r
      match result with
      | .ok w => w.updateRows f p rest
      | .error e => (w, some e)

/-- The rows of the first source that a reading finds, each with what goes with it. -/
def foundRows (f : Frame) (r : Reading) : Except Fault (List Match) := do
  let rows ← Reading.sequence (r.rows f)
  return rows.filterMap fun
    | some row :: rows => some { row, rows }
    | _ => none

/-- Of the matches of one row the last, by rowid. -/
def lastMatches (ms : List Match) : List Match :=
  let kept := (distinctBy (fun a b => a.row.rowid == b.row.rowid) ms.reverse).reverse
  kept.mergeSort fun a b => a.row.rowid ≤ b.row.rowid

def failedOn (db : Database) (table : Table) (fault : Fault) : Changed :=
  { database := db, table, failure := some { fault } }

def runUpdate (db : Database) (f : Frame) (p : PreparedUpdate) : Changed :=
  match foundRows f p.reading with
  | .error fault => failedOn db p.table fault
  | .ok ms =>
    let ms := if p.reading.sources.length = 1 then ms else lastMatches ms
    let (w, failure) := Work.updateRows f p ms { table := p.table, largest := 0 }
    w.changed db p.table failure

/-! ## DELETE -/

structure PreparedDelete where
  table : Table
  reading : Reading
  returning : List OutputColumn

def prepareDelete (cx : Context) (d : Delete) : Except Fault PreparedDelete := do
  let cx := cx.withNamed d.named
  let t ← changeable cx.database d.subject
  let condition ← resolve? (cx.ofTable t d.subject.label) d.condition
  return {
    table := t
    reading := readingOf t condition
    returning := ← returningColumns cx t d.subject.label d.returning }

def Work.deleteRows (f : Frame) (p : PreparedDelete) : List Row → Work → Work × Option Failure
  | [], w => (w, none)
  | r :: rest, w =>
    match (w.replace (w.table.dropRow r.rowid)).returning f p.returning r with
    | .ok w => w.deleteRows f p rest
    | .error e => (w, some e)

def runDelete (db : Database) (f : Frame) (p : PreparedDelete) : Changed :=
  match foundRows f p.reading with
  | .error fault => failedOn db p.table fault
  | .ok ms =>
    let (w, failure) := Work.deleteRows f p (ms.map (·.row)) { table := p.table, largest := 0 }
    w.changed db p.table failure

end TableKeeper.Engine
