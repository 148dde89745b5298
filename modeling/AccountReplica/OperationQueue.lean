import AccountReplica.Operation

/-! The queue of operations. At most its head is running, and a running head stays in front. -/

namespace AccountReplica

structure OperationQueue where
  operations : List Operation
  issued : Nat
deriving DecidableEq

structure Restructuring where
  running : List Operation
  batches : List Operation
  completion : Option (List MessageId × List SubscriberId)
  trailing : List Operation

namespace Restructuring

def none : Restructuring :=
  ⟨[], [], Option.none, []⟩

def add (op : Operation) (r : Restructuring) : Restructuring :=
  if op.running then { r with running := op :: r.running }
  else match op.content with
    | .processGroups _ => { r with batches := op :: r.batches }
    | .pollCompletion ids subscribers =>
      let (moreIds, moreSubscribers) := r.completion.getD ([], [])
      { r with completion := some (ids ++ moreIds, subscribers ++ moreSubscribers) }
    | .processEvents _ | .replayPrecomputed .. => { r with trailing := op :: r.trailing }
    | _ => r

end Restructuring

namespace OperationQueue

def empty : OperationQueue :=
  ⟨[], 0⟩

def nextId (q : OperationQueue) : OperationId :=
  ⟨q.issued + 1⟩

/-- Puts a new operation in front, but behind a running head, and hands back what it is known by. -/
def insertFirst (q : OperationQueue) (c : Content) : OperationId × OperationQueue :=
  let operations := match q.operations with
    | head :: rest =>
      if head.running then head :: ⟨q.nextId, c, false⟩ :: rest else ⟨q.nextId, c, false⟩ :: head :: rest
    | [] => [⟨q.nextId, c, false⟩]
  (q.nextId, ⟨operations, q.issued + 1⟩)

def insertLast (q : OperationQueue) (c : Content) : OperationId × OperationQueue :=
  (q.nextId, ⟨q.operations ++ [⟨q.nextId, c, false⟩], q.issued + 1⟩)

/-- Rebuilds the queue around `c`: the running head, the pending batches, `c`, one completion poll for
all pending ones, then the pending event sets and precomputed states. All else is dropped. Hands back
what the operation with `c` is known by. -/
def replaceWith (q : OperationQueue) (c : Content) : OperationId × OperationQueue :=
  let r := q.operations.foldr Restructuring.add .none
  let (id, q) := insertLast { q with operations := r.running ++ r.batches } c
  let q := match r.completion with
    | some (ids, subscribers) => (q.insertLast (.pollCompletion ids subscribers)).2
    | none => q
  (id, { q with operations := q.operations ++ r.trailing })

/-- Adds groups to the last operation. It takes them if it is collecting groups, and once it runs only
while it waits for pushed ones. -/
def extendLast? (gs : List UpdateGroup) : List Operation → Option (List Operation)
  | [] => none
  | [op] =>
    match op.content with
    | .collectGroups pending timeout =>
      if !op.running || timeout = 0 then
        some [{ op with content := .collectGroups (pending ++ gs) timeout }]
      else none
    | _ => none
  | op :: ops => (extendLast? gs ops).map (op :: ·)

def extendCollect? (q : OperationQueue) (gs : List UpdateGroup) : Option OperationQueue :=
  (extendLast? gs q.operations).map fun ops => { q with operations := ops }

def updateCompletion? (f : List MessageId → List SubscriberId → List MessageId × List SubscriberId) :
    List Operation → Option (List Operation)
  | [] => none
  | op :: ops =>
    match op.content with
    | .pollCompletion ids subscribers =>
      let (ids, subscribers) := f ids subscribers
      some ({ op with content := .pollCompletion ids subscribers } :: ops)
    | _ => (updateCompletion? f ops).map (op :: ·)

def completion? (q : OperationQueue) : Option (List MessageId × List SubscriberId) :=
  q.operations.findSome? fun op =>
    match op.content with
    | .pollCompletion ids subscribers => some (ids, subscribers)
    | _ => none

def withCompletion? (q : OperationQueue)
    (f : List MessageId → List SubscriberId → List MessageId × List SubscriberId) :
    Option OperationQueue :=
  (updateCompletion? f q.operations).map fun ops => { q with operations := ops }

def joinCompletion? (q : OperationQueue) (s : SubscriberId) : Option OperationQueue :=
  q.withCompletion? fun ids subscribers => (ids, subscribers ++ [s])

def addIncoming (q : OperationQueue) (incoming : List MessageId) : OperationQueue :=
  (q.withCompletion? fun ids subscribers => (ids ++ incoming, subscribers)).getD q

def cancelCompletion (q : OperationQueue) (s : SubscriberId) : OperationQueue :=
  (q.withCompletion? fun ids subscribers => (ids, subscribers.filter (· ≠ s))).getD q

def startHead (q : OperationQueue) : OperationQueue :=
  match q.operations with
  | head :: rest => { q with operations := { head with running := true } :: rest }
  | [] => q

def popHead? (q : OperationQueue) (id : OperationId) : Option (Operation × OperationQueue) :=
  match q.operations with
  | head :: rest => if head.id = id then some (head, { q with operations := rest }) else none
  | [] => none

def isRunningHead (q : OperationQueue) (id : OperationId) : Bool :=
  match q.operations with
  | head :: _ => head.id = id && head.running
  | [] => false

def isUpdating (q : OperationQueue) : Bool :=
  q.operations.any fun op =>
    match op.content with
    | .pollDifference _ => true
    | .collectGroups _ timeout => op.running && timeout ≠ 0
    | _ => false

end OperationQueue

end AccountReplica
