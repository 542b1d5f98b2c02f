import SingBox.Library.Run

/-! The user manager of the SSM API: a map of the users' keys that is pushed to the managed server as a whole. -/
namespace SingBox.SSMAPI
variable {ε : Type}

/-- The users of the manager with their keys, those that the managed server has accepted last, and the names that the
traffic manager counts for. -/
structure UserManager where
  usersMap : String → Option String
  server : String → Option String
  counted : String → Bool

inductive Failure (ε : Type)
  | new (message : String)
  | server (err : ε)
  deriving DecidableEq

namespace UserManager

/-- A server that fails keeps the users it has. -/
def postUpdate (answer : Option ε) (updated : Bool) (m : UserManager) : Option (Failure ε) × UserManager :=
  match answer with
  | some err => (some (.server err),m)
  | none =>
    (none,{ m with
      server := m.usersMap
      counted := if updated then fun username => (m.usersMap username).isSome else m.counted })

def add (username password : String) (answer : Option ε) (m : UserManager) : Option (Failure ε) × UserManager :=
  if (m.usersMap username).isSome then (some (.new ("user "++username++" already exists")),m)
  else postUpdate answer true { m with usersMap := Function.update m.usersMap username (some password) }

def update (username password : String) (answer : Option ε) (m : UserManager) : Option (Failure ε) × UserManager :=
  postUpdate answer true { m with usersMap := Function.update m.usersMap username (some password) }

def delete (username : String) (answer : Option ε) (m : UserManager) : Option (Failure ε) × UserManager :=
  postUpdate answer true { m with usersMap := Function.update m.usersMap username none }

end UserManager

inductive Operation
  | add (username password : String)
  | update (username password : String)
  | delete (username : String)

/-- A call with what the managed server answers to its update. -/
abbrev Call (ε : Type) := Operation × Option ε

def UserManager.call (m : UserManager) : Call ε → Option (Failure ε) × UserManager
  | (.add username password,answer) => m.add username password answer
  | (.update username password,answer) => m.update username password answer
  | (.delete username,answer) => m.delete username answer

/-- The call leaves the users as they are, whatever the server answers. -/
def Operation.Idle (users : String → Option String) : Operation → Prop
  | .add username _ => users username ≠ none
  | .update username password => users username = some password
  | .delete username => users username = none

variable (m : UserManager) (operation : Operation)

/-- What a call does where the server fails. -/
lemma UserManager.call_of_failed (e : ε) :
    (m.call (operation,some e)).1 ≠ none ∧ (m.call (operation,some e)).2.server = m.server ∧
      ((m.call (operation,some e)).2.usersMap = m.usersMap ↔ operation.Idle m.usersMap) := by
  cases operation with
  | add =>
    simp only [UserManager.call,UserManager.add,Operation.Idle]
    split_ifs with hf
    · simpa using Option.ne_none_iff_isSome.mpr hf
    · simp_all [UserManager.postUpdate]
  | update => simp [UserManager.call,UserManager.update,UserManager.postUpdate,Operation.Idle,eq_comm]
  | delete => simp [UserManager.call,UserManager.delete,UserManager.postUpdate,Operation.Idle,eq_comm]

lemma UserManager.call_of_accepted (h : m.usersMap = m.server) :
    (m.call (operation,(none : Option ε))).2.usersMap = (m.call (operation,(none : Option ε))).2.server := by
  cases operation with
  | add =>
    simp only [UserManager.call,UserManager.add]
    split_ifs
    · exact h
    · rfl
  | update username password | delete username => rfl

/-- A call whose update fails returns an error, and leaves the users as they are iff it is idle. So the users of the
manager are those of the server in all states of a history iff the failing calls in it are idle. -/
theorem failed_update_keeps_iff (m : UserManager) : (∀ operation (err : ε), (m.call (operation,some err)).1 ≠ none ∧
      ((m.call (operation,some err)).2.usersMap = m.usersMap ↔ operation.Idle m.usersMap)) ∧
    ∀ calls : List (Call ε), m.usersMap = m.server →
      (Run.Along (fun m call => (m.call call).2) (fun m call => call.2 = none ∨ call.1.Idle m.usersMap) m calls ↔
        Run.Throughout (fun m call => (m.call call).2) (fun m => m.usersMap = m.server) m calls) := by
  constructor
  · intro operation err
    obtain ⟨he,-,hk⟩ := m.call_of_failed operation err
    exact ⟨he,hk⟩
  · intro calls hsm
    refine Run.along_iff_throughout ?_ calls hsm
    rintro m ⟨operation,_ | err⟩ h
    · exact iff_of_true (.inl rfl) (m.call_of_accepted operation h)
    · obtain ⟨-,hs,hk⟩ := m.call_of_failed operation err
      simp only [reduceCtorEq,false_or]
      rw [← hk,hs,← h]

/-- The server refuses the key of a new user: the call fails, and the API goes on to list the user. -/
theorem refused_user_stays_listed :
    let (err,m) := UserManager.call ⟨fun _ => none,fun _ => none,fun _ => false⟩ (.add "a" "short",some "bad key")
    err = some (.server "bad key") ∧ m.usersMap "a" = some "short" ∧ m.server "a" = none := by
  decide

end SingBox.SSMAPI
