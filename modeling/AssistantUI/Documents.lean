import AssistantUI.Json.Access
import AssistantUI.Script

/-!
# Documents

Messages and user interfaces are kept as documents in tables. A table is only ever added
to. A query looks for one attribute, in the order of the documents' timestamps; documents
with the same timestamp stay in the order in which they came, whichever way is asked for.
-/

namespace AssistantUI

/-- Attributes and their values. -/
abbrev Document := Dict String Json

namespace Document

/-- What documents are ordered by: the text of the timestamp, nothing if there is none. -/
def timestamp (d : Document) : String :=
  match d.get? "timestamp" with
  | none => ""
  | some j => j.display

/-- What an attribute holds; null if it is missing, as one is whose name is no text. -/
def value (d : Document) : Key → Json
  | .text name => (d.get? name).getD .null
  | _ => .null

/-- Is this what the attribute holds? -/
def has (d : Document) (index : Key) (value : Json) : Bool := (d.value index).alike value

end Document

/-- What is asked of a table. -/
structure Query where
  table : Key
  /-- The attribute that is looked at. -/
  index : Key
  /-- What it has to hold. -/
  value : Json
  /-- How many documents at most, or how many less than all if it is negative. -/
  limit : Option Int := none
  newestFirst : Bool := false

namespace Query

/-- As many members of a list as a limit leaves. -/
def cut {α : Type} (limit : Option Int) (l : List α) : List α :=
  match limit with
  | none => l
  | some (.ofNat n) => l.take n
  | some (.negSucc n) => l.take (l.length - (n + 1))

/-- Does the first document come no later than the second in the order that is asked for? -/
def inOrder (newestFirst : Bool) (a b : Document) : Bool :=
  if newestFirst then decide (b.timestamp ≤ a.timestamp) else decide (a.timestamp ≤ b.timestamp)

/-- The answer to a query from the documents of its table. -/
def select (q : Query) (documents : List Document) : List Document :=
  cut q.limit
    ((documents.filter fun d => d.has q.index q.value).mergeSort (inOrder q.newestFirst))

/-- The limit that a value stands for. -/
def limitOf (j : Json) : Except Fault (Option Int) :=
  match j, j.toInt? with
  | .null, _ => .ok none
  | _, some n => .ok (some n)
  | _, none => .error .limitNotInteger

end Query

/-- Tables of documents, in the order in which they were first written to. -/
structure Documents where
  tables : Dict Key (List Document)

namespace Documents

/-- No tables. -/
def empty : Documents := ⟨∅⟩

instance : EmptyCollection Documents := ⟨empty⟩
instance : Inhabited Documents := ⟨empty⟩

/-- The documents of a table, in the order in which they came. -/
def table (s : Documents) (name : Key) : List Document := (s.tables.get? name).getD []

/-- Adds a document to a table. -/
def put (s : Documents) (name : Key) (d : Document) : Documents :=
  ⟨s.tables.insert name (s.table name ++ [d])⟩

/-- Answers a query. -/
def query (s : Documents) (q : Query) : List Document := q.select (s.table q.table)

/-- The names of the tables. -/
def names (s : Documents) : List Key := s.tables.keys

end Documents

/-- A place where documents are kept: how they are put there and asked for in a world `ω`. -/
structure Storage (ω : Type) where
  put : Key → Document → Act ω Unit
  query : Query → Act ω (List Document)

/-- Documents are a place to keep documents. -/
def Documents.storage : Storage Documents where
  put name d := modify fun s => s.put name d
  query q := fun s => (.ok (s.query q), s)

end AssistantUI
