import MixnetCore.Stores

/-!
# Sessions

A `Session` holds what the engine keeps per session: the topology, the authored packet queue,
the mean authored packet period and the replay filter. `Sessions` has a slot for the current
session and one for the previous session. `sessions.rs` is not among the sources: `Default`
(both slots empty), `advance_by_one` (the current session becomes the previous one, the new
current slot is empty) and the iteration order (current, then previous) are modelled from the
spec.
-/

namespace MixnetCore

variable {E : Env}

/-- `Session`. -/
structure Session (E : Env) where
  topology : E.Topology
  authoredPacketQueue : AuthoredPacketQueue E
  meanAuthoredPacketPeriod : Duration
  replayFilter : ReplayFilter E

/-- `SessionSlot`. -/
inductive SessionSlot (E : Env)
  | empty
  | disabled
  | full (session : Session E)

namespace SessionSlot

def isEmpty : SessionSlot E → Bool
  | empty => true
  | _ => false

def isFull : SessionSlot E → Bool
  | full _ => true
  | _ => false

/-- The session of a full slot. -/
def session? : SessionSlot E → Option (Session E)
  | full s => some s
  | _ => none

@[simp] theorem session?_full (s : Session E) : (full s).session? = some s := rfl
@[simp] theorem session?_empty : (empty : SessionSlot E).session? = none := rfl
@[simp] theorem session?_disabled : (disabled : SessionSlot E).session? = none := rfl

end SessionSlot

/-- `Sessions`: the current and the previous session. -/
structure Sessions (E : Env) where
  current : SessionSlot E
  prev : SessionSlot E

namespace Sessions

/-- `Sessions::default()`: both slots empty. -/
def default : Sessions E := ⟨.empty, .empty⟩

/-- `sessions[rel_session_index]`. -/
def get (ss : Sessions E) : RelSessionIndex → SessionSlot E
  | .current => ss.current
  | .prev => ss.prev

/-- Assignment to `sessions[rel_session_index]`. -/
def set (ss : Sessions E) (rel : RelSessionIndex) (slot : SessionSlot E) : Sessions E :=
  match rel with
  | .current => { ss with current := slot }
  | .prev => { ss with prev := slot }

/-- `advance_by_one`: the current session becomes the previous one. -/
def advanceByOne (ss : Sessions E) : Sessions E := ⟨.empty, ss.current⟩

/-- `enumerate()`: the full slots, current first. -/
def enumerate (ss : Sessions E) : List (RelSessionIndex × Session E) :=
  (ss.current.session?.map (.current, ·)).toList ++ (ss.prev.session?.map (.prev, ·)).toList

/-- `iter()`: the full sessions, current first. -/
def iter (ss : Sessions E) : List (Session E) := ss.enumerate.map (·.2)

@[simp] theorem get_current (ss : Sessions E) : ss.get .current = ss.current := rfl
@[simp] theorem get_prev (ss : Sessions E) : ss.get .prev = ss.prev := rfl

@[simp] theorem get_set (ss : Sessions E) (r r' : RelSessionIndex) (slot : SessionSlot E) :
    (ss.set r slot).get r' = if r' = r then slot else ss.get r' := by
  cases r <;> cases r' <;> rfl

@[simp] theorem set_get (ss : Sessions E) (r : RelSessionIndex) : ss.set r (ss.get r) = ss := by
  cases r <;> rfl

theorem mem_enumerate {ss : Sessions E} {r : RelSessionIndex} {s : Session E} :
    (r, s) ∈ ss.enumerate ↔ ss.get r = .full s := by
  rcases hc : ss.current with _ | _ | c <;> rcases hp : ss.prev with _ | _ | p <;>
    cases r <;> simp [enumerate, hc, hp, eq_comm]

end Sessions

end MixnetCore
