import CitationFusion.Toml.Statement

/-!
# TOML documents

The statements of a document, carried out in order. A header opens a table that is not there yet
or was only passed on the way to another one; a table is never opened twice. The tables of a list
of tables are reached by the last of them.
-/

namespace CitationFusion.Toml

/-- A document in the making: its members, and the path of the open table. -/
structure Draft where
  members : Members
  path : List String

/-- Opens the table `key` of a table. -/
def openTable (key : String) (_ : Origin) (m : Members) : Option Members :=
  match m.get? key with
  | none => some (m.add key (.table .header []))
  | some (.table .implied t) => some (m.replace key (.table .header t))
  | some _ => none

/-- Opens another table of the list `key` of a table. -/
def openListed (key : String) (_ : Origin) (m : Members) : Option Members :=
  match m.get? key with
  | none => some (m.add key (.tables [[]]))
  | some (.tables items) => some (m.replace key (.tables ([] :: items)))
  | some _ => none

/-- Goes to the last part of a path and changes the table around it. -/
def atLast (change : String → Origin → Members → Option Members) (path : List String)
    (m : Members) : Option Members :=
  match path.getLast? with
  | none => none
  | some key => descend false (change key) path.dropLast .header m

/-- Carries out a statement. -/
def Draft.step (d : Draft) : Statement → Option Draft
  | .header path => (atLast openTable path d.members).map fun m => ⟨m, path⟩
  | .listHeader path => (atLast openListed path d.members).map fun m => ⟨m, path⟩
  | .keyValue parts item =>
    (descend false (putPath parts item) d.path .header d.members).map fun m => ⟨m, d.path⟩

/-- Carries out statements in order. -/
def Draft.steps (d : Draft) : List Statement → Option Draft
  | [] => some d
  | s :: rest =>
    match d.step s with
    | none => none
    | some d => d.steps rest

/-- A text without the mark of its encoding, if it begins with one. -/
def skipMark : List Char → List Char
  | '\uFEFF' :: r => r
  | cs => cs

/-- The members of the document that a text writes. -/
def parse (text : String) : Option Members :=
  let cs := skipMark text.toList
  match readStatements (cs.length + 1) [] cs with
  | none => none
  | some statements => (Draft.steps ⟨[], []⟩ statements).map Draft.members

end CitationFusion.Toml
