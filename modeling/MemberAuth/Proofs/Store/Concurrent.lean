import MemberAuth.Store.Opening
import Mathlib.Logic.Relation

/-!
# Registrations and password changes on one store

Any number of registrations and password changes at once on one shelf. Each stands before the next
of its file steps, and at each step one of them carries out that file step, or a further one
arrives. Those that are over stay in the list. A registration remembers whether one of its own links
has put a document in place under its login id.
-/
namespace MemberAuth.Store

/-- Whether a file step links a document into place under a login id. -/
def FileCall.publishes (loginId : String) : (call : FileCall) → call.Reply → Bool
  | .link _ target, .ok () => target = documentPath loginId
  | _, _ => false

inductive Job
  | inserting (m : NewMember) (published : Bool) (rest : FileScript (Except Failure Member))
  | updating (rest : FileScript (Except Failure Unit))

namespace Job

/-- The next file step. -/
def turn (s : Shelf) : Job → Shelf × Job
  | .inserting m published (.call call next) =>
    let (s, r) := s.perform call
    (s, .inserting m (published || call.publishes m.loginId.text r) (next r))
  | .inserting m published (.done result) => (s, .inserting m published (.done result))
  | .updating (.call call next) =>
    let (s, r) := s.perform call
    (s, .updating (next r))
  | .updating (.done result) => (s, .updating (.done result))

/-- No file step is left. -/
def Over : Job → Prop
  | .inserting _ _ rest => ∃ result, rest = .done result
  | .updating rest => ∃ result, rest = .done result

def isInsertion : Job → Bool
  | .inserting _ _ _ => true
  | .updating _ => false

end Job

/-- A shelf with the operations on it. -/
structure Workshop where
  shelf : Shelf
  jobs : List Job

namespace Workshop

inductive Step : Workshop → Workshop → Prop
  | insert (w : Workshop) (m : NewMember) :
    Step w ⟨w.shelf, w.jobs ++ [.inserting m false (Store.insert m)]⟩
  | update (w : Workshop) (loginId passwordHash : String) :
    Step w ⟨w.shelf, w.jobs ++ [.updating (Store.update loginId passwordHash)]⟩
  | turn (s : Shelf) (before after : List Job) (j : Job) :
    Step ⟨s, before ++ j :: after⟩ ⟨(j.turn s).1, before ++ (j.turn s).2 :: after⟩

/-- Any number of steps in any order. -/
def Reaches : Workshop → Workshop → Prop :=
  Relation.ReflTransGen Step

/-- The number of registrations, whether under way or over. -/
def insertions (w : Workshop) : Nat :=
  w.jobs.countP Job.isInsertion

/-- The document of a member is in place. -/
def Stores (w : Workshop) (m : Member) : Prop :=
  w.shelf.disk.read (documentPath m.loginId) = .ok m.document

variable (before after : List Job)

/-- A registration that nothing comes between does what the store does in one go. -/
theorem reaches_inserted (s : Shelf) (m : NewMember) (published : Bool)
    (rest : FileScript (Except Failure Member)) : ∃ published',
    Reaches ⟨s, before ++ .inserting m published rest :: after⟩
      ⟨(rest.run Shelf.perform s).1,
        before ++ .inserting m published' (.done (rest.run Shelf.perform s).2) :: after⟩ := by
  induction rest generalizing s published with
  | done result => exact ⟨published, .refl⟩
  | call c next ih =>
    obtain ⟨published', run⟩ := ih (s.perform c).2 (s.perform c).1
      (published || c.publishes m.loginId.text (s.perform c).2)
    exact ⟨published', .head (.turn s before after (.inserting m published (.call c next))) run⟩

end Workshop

end MemberAuth.Store
