import AccountReplica.Update

/-! Pushed containers and their split into groups that are checked against one counter each. -/

namespace AccountReplica

inductive Container
  | tooLong
  | short (update : Update) (date : Int32)
  | combined (updates : List Update) (first last : Int32) (date : Int32)
  /-- One container; the number 0 stands for none. -/
  | batch (updates : List Update) (seq : Int32) (date : Int32)
deriving DecidableEq

/-- Updates that end at `pts` and cover `count` events of the common box. -/
structure CommonGroup where
  updates : List Update
  pts : Int32
  count : Int32
deriving DecidableEq

structure SecretGroup where
  updates : List Update
  qts : Int32
deriving DecidableEq

/-- Updates of the containers `first` to `last`; 0 as `first` leaves the start unchecked. -/
structure NumberedGroup where
  updates : List Update
  first : Int32
  last : Int32
  date : Int32
deriving DecidableEq

structure DatedGroup where
  updates : List Update
  date : Int32
deriving DecidableEq

inductive UpdateGroup
  | common (group : CommonGroup)
  | secret (group : SecretGroup)
  | numbered (group : NumberedGroup)
  | dated (group : DatedGroup)
  | tooLong
deriving DecidableEq

namespace UpdateGroup

def updates : UpdateGroup → List Update
  | common g => g.updates
  | secret g => g.updates
  | numbered g => g.updates
  | dated g => g.updates
  | tooLong => []

def common? : UpdateGroup → Option CommonGroup
  | common g => some g
  | _ => none

def secret? : UpdateGroup → Option SecretGroup
  | secret g => some g
  | _ => none

def numbered? : UpdateGroup → Option NumberedGroup
  | numbered g => some g
  | _ => none

def dated? : UpdateGroup → Option DatedGroup
  | dated g => some g
  | _ => none

def ofStamped? (u : Update) : Option UpdateGroup :=
  match u.sequencing with
  | .common pts count => some (common ⟨[u], pts, count⟩)
  | .secret qts => some (secret ⟨[u], qts⟩)
  | .unsequenced => none

end UpdateGroup

namespace Container

def updates : Container → List Update
  | tooLong => []
  | short u _ => [u]
  | combined us .. => us
  | batch us .. => us

/-- The group of the unsequenced updates: numbered when the container is, even if there are none. -/
def restGroups (rest : List Update) (first last date : Int32) : List UpdateGroup :=
  if last ≠ 0 then [.numbered ⟨rest, first, last, date⟩]
  else if rest.isEmpty then []
  else [.dated ⟨rest, date⟩]

def split (us : List Update) (first last date : Int32) : List UpdateGroup :=
  us.filterMap UpdateGroup.ofStamped? ++
    restGroups (us.filter (·.sequencing = .unsequenced)) first last date

def groups : Container → List UpdateGroup
  | tooLong => [.tooLong]
  | short u date => split [u] 0 0 date
  | combined us first last date => split us first last date
  | batch us seq date => split us seq seq date

end Container

end AccountReplica
