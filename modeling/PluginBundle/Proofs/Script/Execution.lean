import PluginBundle.Script.Generate

/-!
# Running an entry script

A small meaning for the statements of entry scripts.  A run keeps the variables that are bound and
the objects that were made, and notes each call by which the runtime is started.  Objects are known
by the order in which they were made, so two of them can be told apart although both are empty.

What an export, a rule or a hook does is not looked into: exports are named by their module, and
source text stands for itself.  The one text with a meaning of its own is that of the empty object,
which makes an object wherever it is evaluated.  A run has no result if a variable is read that was
not bound before.
-/

namespace PluginBundle
namespace Execution

/-- What an expression comes to. -/
inductive Denoted where
  /-- An export of a module. -/
  | exported (module : String) (exported : Export)
  | data (value : Json.Value)
  /-- Whatever a source text comes to. -/
  | source (text : String)
  /-- The object of that number. -/
  | object (number : Nat)

/-- The variables that are bound so far. -/
abbrev Scope := List (String × Denoted)

/-- The objects that were made so far, each with its members. -/
abbrev Heap := List (List (String × Denoted))

/-- The function that is handed to a hook: a call in the scope of the script. -/
structure Continuation where
  scope : Scope
  call : InitializeCall

/-- A call by which the runtime is started, or by which that is left to a hook. -/
inductive Action where
  /-- The runtime's `initialize` is called. -/
  | callRuntime (runtime : Denoted) (args : List Denoted)
  /-- The hook is called. -/
  | callHook (hook : String) (args : List Denoted) (continuation : Continuation)

/-- A run so far. -/
structure State where
  scope : Scope
  heap : Heap
  actions : List Action

def State.initial : State := ⟨[], [], []⟩

/-- Makes an object. -/
def make (members : List (String × Denoted)) (heap : Heap) : Denoted × Heap :=
  (.object heap.length, heap ++ [members])

/-- Evaluates source text. -/
def evalSource (text : String) (heap : Heap) : Denoted × Heap :=
  if text = emptyObject then make [] heap else (.source text, heap)

def evalExpr (scope : Scope) (heap : Heap) : Expr → Option (Denoted × Heap)
  | .json value => some (.data value, heap)
  | .raw text => some (evalSource text heap)
  | .ident name => (Keyed.find? name scope).map fun value => (value, heap)

/-- Evaluates the entries of a table in order. -/
def evalEntries (scope : Scope) : Heap → List (String × Expr) →
    Option (List (String × Denoted) × Heap)
  | heap, [] => some ([], heap)
  | heap, (key, e) :: rest =>
      match evalExpr scope heap e with
      | none => none
      | some (value, heap) =>
          match evalEntries scope heap rest with
          | none => none
          | some (values, heap) => some ((key, value) :: values, heap)

/-- Evaluates arguments in order: the empty object is made, and all else is a variable. -/
def evalArgs (scope : Scope) : Heap → List String → Option (List Denoted × Heap)
  | heap, [] => some ([], heap)
  | heap, arg :: rest =>
      match evalExpr scope heap (if arg = emptyObject then .raw arg else .ident arg) with
      | none => none
      | some (value, heap) =>
          match evalArgs scope heap rest with
          | none => none
          | some (values, heap) => some (value :: values, heap)

/-- Makes the call that starts the runtime. -/
def performCall (scope : Scope) (heap : Heap) (call : InitializeCall) : Option (Action × Heap) :=
  match Keyed.find? call.runtime scope with
  | none => none
  | some runtime =>
      match evalArgs scope heap call.args with
      | none => none
      | some (args, heap) => some (.callRuntime runtime args, heap)

/-- What the continuation does when it is called, with the objects of that time. -/
def Continuation.invoke (k : Continuation) (heap : Heap) : Option (Action × Heap) :=
  performCall k.scope heap k.call

def performStart (scope : Scope) (heap : Heap) : Initialization → Option (Action × Heap)
  | .immediate call => performCall scope heap call
  | .deferred hook hookArgs call =>
      match evalArgs scope heap hookArgs with
      | none => none
      | some (args, heap) => some (.callHook hook args ⟨scope, call⟩, heap)

/-- Binds a variable, also one that is bound already. -/
def State.bind (s : State) (name : String) (value : Denoted) (heap : Heap) : State :=
  { s with scope := Keyed.set name value s.scope, heap := heap }

/-- Runs one statement. -/
def runStatement (s : State) : Statement → Option State
  | .importModule binding module exported =>
      some (s.bind binding (.exported module exported) s.heap)
  | .declare name value =>
      match evalExpr s.scope s.heap value with
      | none => none
      | some (value, heap) => some (s.bind name value heap)
  | .table name entries =>
      match evalEntries s.scope s.heap entries with
      | none => none
      | some (members, heap) => some (s.bind name (make members heap).1 (make members heap).2)
  | .start how =>
      match performStart s.scope s.heap how with
      | none => none
      | some (action, heap) => some { s with heap := heap, actions := s.actions ++ [action] }

/-- Runs statements in order. -/
def runAll : State → List Statement → Option State
  | s, [] => some s
  | s, statement :: rest =>
      match runStatement s statement with
      | none => none
      | some t => runAll t rest

/-! ## Laws of runs -/

theorem runAll_append (s : State) (front back : List Statement) :
    runAll s (front ++ back) = (runAll s front).bind fun t => runAll t back := by
  induction front generalizing s with
  | nil => rfl
  | cons statement rest ih =>
      simp only [List.cons_append, runAll]
      cases runStatement s statement with
      | none => rfl
      | some t => exact ih t

@[simp] theorem bind_heap (s : State) (name : String) (value : Denoted) (heap : Heap) :
    (s.bind name value heap).heap = heap := rfl

@[simp] theorem bind_actions (s : State) (name : String) (value : Denoted) (heap : Heap) :
    (s.bind name value heap).actions = s.actions := rfl

@[simp] theorem find?_bind (s : State) (name other : String) (value : Denoted) (heap : Heap) :
    Keyed.find? other (s.bind name value heap).scope =
      if name = other then some value else Keyed.find? other s.scope :=
  Keyed.find?_set name other value s.scope

/-- Objects stay what they are while others are made. -/
theorem getElem?_of_prefix {heap later : Heap} {n : Nat} {members : List (String × Denoted)}
    (hgrow : heap <+: later) (h : heap[n]? = some members) : later[n]? = some members := by
  obtain ⟨made, rfl⟩ := hgrow
  obtain ⟨hn, -⟩ := List.getElem?_eq_some_iff.1 h
  rw [List.getElem?_append_left hn]
  exact h

/-- What a source text comes to, given the objects: an empty object for the text of one, and else
itself. -/
def Evaluated (heap : Heap) (text : String) (value : Denoted) : Prop :=
  (text = emptyObject ∧ ∃ n, value = .object n ∧ heap[n]? = some []) ∨
    (text ≠ emptyObject ∧ value = .source text)

theorem Evaluated.mono {heap later : Heap} {text : String} {value : Denoted}
    (h : Evaluated heap text value) (hgrow : heap <+: later) : Evaluated later text value := by
  rcases h with ⟨htext, n, hvalue, hn⟩ | hsource
  · exact .inl ⟨htext, n, hvalue, getElem?_of_prefix hgrow hn⟩
  · exact .inr hsource

theorem evaluated_evalSource (text : String) (heap : Heap) :
    heap <+: (evalSource text heap).2 ∧
      Evaluated (evalSource text heap).2 text (evalSource text heap).1 := by
  unfold evalSource
  split
  · rename_i htext
    exact ⟨List.prefix_append heap _, .inl ⟨htext, heap.length, rfl, by simp [make]⟩⟩
  · rename_i htext
    exact ⟨List.prefix_rfl, .inr ⟨htext, rfl⟩⟩

/-- Entries are evaluated one after the other.  If each of them has a value of which `R` holds, now
and when more objects have been made, then the table holds such a value for each of them. -/
theorem evalEntries_of_forall {α : Type} {scope : Scope} (key : α → String) {e : α → Expr}
    {R : α → Heap → Denoted → Prop}
    (hmono : ∀ x heap later value, heap <+: later → R x heap value → R x later value)
    {xs : List α}
    (heval : ∀ x ∈ xs, ∀ heap, ∃ value later, evalExpr scope heap (e x) = some (value, later) ∧
      heap <+: later ∧ R x later value)
    (heap : Heap) :
    ∃ members later, evalEntries scope heap (xs.map fun x => (key x, e x)) = some (members, later) ∧
      heap <+: later ∧ Keyed.keys members = xs.map key ∧
      ∀ x ∈ xs, ∃ value, (key x, value) ∈ members ∧ R x later value := by
  induction xs generalizing heap with
  | nil => exact ⟨[], heap, rfl, List.prefix_rfl, rfl, by simp⟩
  | cons x rest ih =>
      obtain ⟨value, next, hvalue, hgrow, hx⟩ := heval x List.mem_cons_self heap
      obtain ⟨members, later, hmembers, hgrow', hkeys, hrest⟩ :=
        ih (fun y hy => heval y (List.mem_cons_of_mem x hy)) next
      refine ⟨(key x, value) :: members, later, ?_, hgrow.trans hgrow', by simp [hkeys], ?_⟩
      · simp [evalEntries, hvalue, hmembers]
      · intro y hy
        rcases List.mem_cons.1 hy with rfl | hy
        · exact ⟨value, List.mem_cons_self, hmono _ _ _ _ hgrow' hx⟩
        · obtain ⟨found, hfound, hR⟩ := hrest y hy
          exact ⟨found, List.mem_cons_of_mem _ hfound, hR⟩

/-- Importing the plugins binds the variable of each to its module, if no two of them share one, and
leaves all other variables alone. -/
theorem runAll_imports (names : List String) (s : State) :
    ∃ t,
      runAll s (names.map fun name => .importModule (normalizeName name) name .default) = some t ∧
      t.heap = s.heap ∧ t.actions = s.actions ∧
      (∀ x, x ∉ names.map normalizeName → Keyed.find? x t.scope = Keyed.find? x s.scope) ∧
      ((names.map normalizeName).Nodup → ∀ name ∈ names,
        Keyed.find? (normalizeName name) t.scope = some (.exported name .default)) := by
  induction names generalizing s with
  | nil => exact ⟨s, rfl, rfl, rfl, by simp, by simp⟩
  | cons name rest ih =>
      obtain ⟨t, hrun, hheap, hactions, hother, himports⟩ :=
        ih (s.bind (normalizeName name) (.exported name .default) s.heap)
      refine ⟨t, by simpa [runAll, runStatement] using hrun, hheap, hactions, ?_, ?_⟩
      · intro x hx
        simp only [List.map_cons, List.mem_cons, not_or] at hx
        rw [hother x hx.2, find?_bind, if_neg (Ne.symm hx.1)]
      · intro hnodup other hmem
        simp only [List.map_cons, List.nodup_cons] at hnodup
        rcases List.mem_cons.1 hmem with rfl | hmem
        · rw [hother _ hnodup.1, find?_bind, if_pos rfl]
        · exact himports hnodup.2 other hmem

end Execution
end PluginBundle
