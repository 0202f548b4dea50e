import MemberDispatch.Class.Hierarchy
import MemberDispatch.Converter.Basic

/-!
# The table of converters

A table that only grows. A converter's rank is its place in the table. Looking up a key that has
no converter of its own finds the usable one of its nearest ancestor, or the first usable one whose
target it counts as a subclass of, and remembers the answer; if there is none, a placeholder is
appended. `ConverterTable.rule` says what a look-up finds without that memory.
-/

namespace MemberDispatch

/-- Converters in the order of their ranks, and remembered answers for keys without one. -/
structure ConverterTable where
  entries : List (TypeKey × Converter) := []
  derived : List (TypeKey × Converter) := []

namespace ConverterTable

def size (table : ConverterTable) : Nat :=
  table.entries.length

def own? (table : ConverterTable) (key : TypeKey) : Option Converter :=
  table.entries.lookup key

/-- The usable converter of exactly that key. -/
def usable? (table : ConverterTable) (key : TypeKey) : Option Converter :=
  (table.own? key).filter fun converter => !converter.isPlaceholder

/-- The keys of the table, in the order of rank. -/
def keys (table : ConverterTable) : List TypeKey :=
  table.entries.map (·.1)

/-- The converters, in the order of rank. -/
def converters (table : ConverterTable) : List Converter :=
  table.entries.map (·.2)

/-- The usable converter of the nearest proper ancestor that has one. -/
def inherited? (hierarchy : Hierarchy) (table : ConverterTable) (cls : ClassId) : Option Converter :=
  (hierarchy.linearization cls).tail.findSome? fun ancestor => table.usable? (.cls ancestor)

/-- The usable converter of least rank whose target the class can be passed for. -/
def adopted? (hierarchy : Hierarchy) (table : ConverterTable) (cls : ClassId) : Option Converter :=
  (table.entries.find? fun (target, converter) =>
    !converter.isPlaceholder && hierarchy.assignable target cls).map (·.2)

/-- The converter that serves a key without one of its own. Widths are served by none. -/
def serving? (hierarchy : Hierarchy) (table : ConverterTable) : TypeKey → Option Converter
  | .exact _ => none
  | .cls cls => table.inherited? hierarchy cls <|> table.adopted? hierarchy cls

/-- The converter that a look-up of the key finds, before one is appended. -/
def rule (hierarchy : Hierarchy) (table : ConverterTable) (key : TypeKey) : Option Converter :=
  table.own? key <|> table.serving? hierarchy key

/-- The placeholder that would be appended for a key. -/
def placeholder (table : ConverterTable) (key : TypeKey) : Converter :=
  ⟨table.size, key, none⟩

def append (table : ConverterTable) (key : TypeKey) (converter : Converter) : ConverterTable :=
  { table with entries := table.entries ++ [(key, converter)] }

/-- The converter for a key, and the table with what the look-up added: a remembered answer or a
placeholder. -/
def lookup (hierarchy : Hierarchy) (table : ConverterTable) (key : TypeKey) :
    Converter × ConverterTable :=
  match table.own? key <|> table.derived.lookup key with
  | some converter => (converter, table)
  | none => match table.serving? hierarchy key with
    | some converter => (converter, { table with derived := table.derived ++ [(key, converter)] })
    | none => (table.placeholder key, table.append key (table.placeholder key))

/-- The converters for several keys, looked up one after the other. -/
def lookupAll (hierarchy : Hierarchy) (table : ConverterTable) :
    List TypeKey → List Converter × ConverterTable
  | [] => ([], table)
  | key :: keys =>
      let (converter, table) := table.lookup hierarchy key
      let (converters, table) := table.lookupAll hierarchy keys
      (converter :: converters, table)

/-- The table with the converter of a key replaced in its place. -/
def replace (table : ConverterTable) (key : TypeKey) (converter : Converter) : ConverterTable :=
  { table with
    entries := table.entries.map fun entry => if entry.1 == key then (key, converter) else entry }

/-- Adds a coercion for a key unless a usable converter of that key is present, and says whether
the table changed. A placeholder is replaced in its place; remembered answers are dropped. -/
def register (table : ConverterTable) (key : TypeKey) (coercion : Coercion) :
    Bool × ConverterTable :=
  match table.own? key with
  | some old =>
      if old.isPlaceholder then
        (true, { table.replace key (old.withCoercion coercion) with derived := [] })
      else (false, table)
  | none =>
      (true, { table.append key ⟨table.size, key, some coercion⟩ with derived := [] })

/-- The table that a session starts with. -/
def standard : ConverterTable :=
  standardCoercions.foldl (fun table (key, coercion) => (table.register key coercion).2) {}

def contains (table : ConverterTable) (key : TypeKey) : Bool :=
  (table.own? key).isSome

def display (table : ConverterTable) : String :=
  "ConverterTable([" ++ ", ".intercalate (table.keys.map TypeKey.name) ++ "])"

end ConverterTable

end MemberDispatch
