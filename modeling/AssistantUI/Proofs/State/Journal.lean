import AssistantUI.Proofs.Act
import AssistantUI.State.Watched

/-!
# Stores that keep a journal

A merge calls listeners, and a listener may merge again before the next one is called. What the
store holds in the end does not say who was told what, or in which order. Here every operation
on a store among listeners is carried out once more, in a world that has a journal beside the
store. Merges are numbered as they begin, so that each line about a call says which merge it
belongs to, however deeply merges nest.

The journal is only written, never read. Operations from outside are carried out one after another,
as a list; what happens between two of them, and inside of each, is what the journal says.
-/

namespace AssistantUI.Watched

variable {σ : Type}

/-- Carries out operations from outside one after another, whether or not they fail. -/
def run (react : Reaction σ) (depth : Nat) (ops : List (Op σ)) (w : Watched σ) : Watched σ :=
  ops.foldl (fun w op => ((perform react depth op).runIn w).2) w

/-! ## Journals -/

/-- A line of a journal. A store is noted as it was before. -/
inductive Moment (σ : Type) where
  /-- Changes, not empty, begin to be merged. -/
  | merging (store : Store Key) (changes : State)
  /-- A listener is called by the merge of that number. -/
  | calling (number : Nat) (name : Key) (changes : State)
  /-- The listener that was called comes to an end. -/
  | called (number : Nat) (name : Key) (result : Except Fault Unit)
  /-- A listener is registered. -/
  | subscribing (store : Store Key) (name : Key)
  /-- A registration is taken back. -/
  | unsubscribing (name : Key)
  /-- The store is disposed of. -/
  | disposing
  /-- Host code runs, and this is what it finds. -/
  | seeing (w : Watched σ)

namespace Moment

/-- The merge that begins here. -/
def merge? : Moment σ → Option (Store Key × State)
  | merging store changes => some (store, changes)
  | _ => none

/-- The store that is seen here. -/
def store? : Moment σ → Option (Store Key)
  | merging store _ => some store
  | subscribing store _ => some store
  | seeing w => some w.store
  | _ => none

/-- Is a listener called by the merge of that number here, or at its end? -/
def isOf (number : Nat) : Moment σ → Bool
  | calling n _ _ => n == number
  | called n _ _ => n == number
  | _ => false

/-- What becomes of a store here. -/
def act (s : Store Key) : Moment σ → Store Key
  | merging _ changes => s.write changes
  | subscribing _ name => s.subscribe name
  | unsubscribing name => s.unsubscribe name
  | disposing => s.dispose
  | _ => s

/-- The lines about a listener that is called, and how it ends. -/
def visit (number : Nat) (changes : State) (heard : Key × Except Fault Unit) : List (Moment σ) :=
  [.calling number heard.1 changes, .called number heard.1 heard.2]

end Moment

/-- The merges of a journal, in the order in which they begin. -/
def merges (journal : List (Moment σ)) : List (Store Key × State) := journal.filterMap Moment.merge?

/-- How many merges have begun. -/
def begun (journal : List (Moment σ)) : Nat := (merges journal).length

/-- What the lines of a journal make of a store. -/
def replay (s : Store Key) (journal : List (Moment σ)) : Store Key := journal.foldl Moment.act s

/-- A store among listeners, and what happened to it so far, the earliest first. -/
structure Recorded (σ : Type) where
  world : Watched σ
  journal : List (Moment σ)

namespace Recorded

/-- Writes a line. -/
def note (r : Recorded σ) (e : Moment σ) : Recorded σ := { r with journal := r.journal ++ [e] }

/-- Notes what host code finds. -/
def see (r : Recorded σ) : Recorded σ := r.note (.seeing r.world)

/-- Writes a line, and changes the store as it says. -/
def move (r : Recorded σ) (e : Moment σ) : Recorded σ :=
  { r with world := { r.world with store := e.act r.world.store } }.note e

/-! ## Recorded operations -/

section

variable (call : Key → State → Act (Recorded σ) Unit)

/-- Calls a listener for the merge of that number. -/
def tell (number : Nat) (name : Key) (changes : State) : Act (Recorded σ) Unit := fun r =>
  let (result, r') := (call name changes).runIn (r.note (.calling number name changes))
  (result, r'.note (.called number name result))

/-- Merges changes. The merge has the number of merges that began before it. -/
def merge (changes : State) : Act (Recorded σ) Unit := fun r =>
  Store.merge (fun r : Recorded σ => r.world.store)
    (fun r s =>
      { r with world := { r.world with store := s } }.note (.merging r.world.store changes))
    (tell call (begun r.journal)) changes r

/-- Carries out an operation, with `call` for the listeners. -/
def performWith : Op σ → Act (Recorded σ) Unit
  | .merge changes => do merge call (← changes.toDictOrEmpty)
  | .subscribe name => modify fun r => r.move (.subscribing r.world.store name)
  | .unsubscribe name => modify fun r => r.move (.unsubscribing name)
  | .dispose => modify fun r => r.move .disposing
  | .remember host => modify fun r => { r with world := { r.world with host } }

end

/-- Runs host code, which is seen to find the store as each answer leaves it. -/
def runCode (perform : Op σ → Act (Recorded σ) Unit) :
    Script (Watched σ) (Op σ) Unit → Act (Recorded σ) Unit
  | .done => pure ()
  | .raise f => throw f
  | .ask op next => fun r =>
    let (answer, r') := (perform op).runIn r
    runCode perform (next answer r'.world) r'.see

/-- Carries out an operation; calls from inside calls nest at most `depth` times. -/
def perform (react : Reaction σ) : Nat → Op σ → Act (Recorded σ) Unit
  | 0, _ => throw .nestedTooDeeply
  | depth + 1, op => performWith
    (fun name changes r => runCode (perform react depth) (react name changes r.world) r.see) op

/-- Carries out operations from outside one after another, and looks at the store after each. -/
def run (react : Reaction σ) (depth : Nat) (ops : List (Op σ)) (r : Recorded σ) : Recorded σ :=
  ops.foldl (fun r op => ((perform react depth op).runIn r).2.see) r

end Recorded

/-- The journal of operations carried out from outside one after another. -/
def journal (react : Reaction σ) (depth : Nat) (ops : List (Op σ)) (w : Watched σ) :
    List (Moment σ) := (Recorded.run react depth ops ⟨w, []⟩).journal

end AssistantUI.Watched
