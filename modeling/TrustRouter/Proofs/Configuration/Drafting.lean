import TrustRouter.Document.Basic

/-! # What a draft has been told

A draft is made by **changes**: single declarations, settings sections and whole fragments, in any
order. Whatever they are, each list of the draft is the concatenation of what the changes declare
for it, in their order (`Draft.lists_foldl_apply`). Merging the fragments of documents is the case
in which every change is a fragment (`Draft.foldl_merge_eq`).
-/

namespace TrustRouter.Draft

/-- Something declared to a draft. -/
inductive Change where
  | settings (s : Settings)
  | client (c : RpClient)
  | realm (r : IdpRealm)
  | server (s : AaaServer)
  | community (c : Community.Declaration)
  /-- Everything that a fragment declares. -/
  | fragment (f : Fragment)

/-- The draft after a change. -/
def apply (d : Draft) : Change → Draft
  | .settings s => d.addSettings s
  | .client c => d.addClient c
  | .realm r => d.addRealm r
  | .server s => d.addServer s
  | .community c => d.addCommunity c
  | .fragment f => d.merge f

/-- The draft made by changes, from the first to the last. -/
def ofChanges (changes : List Change) : Draft := changes.foldl apply .empty

namespace Change

/-- The settings section that a change declares, if it does. -/
def settings? : Change → Option Settings
  | .settings s => some s
  | .fragment f => f.settings
  | _ => none

/-- The clients that a change declares. -/
def clients : Change → List RpClient
  | .client c => [c]
  | .fragment f => f.clients
  | _ => []

/-- The realms that a change declares. -/
def realms : Change → List IdpRealm
  | .realm r => [r]
  | .fragment f => f.realms
  | _ => []

/-- The default servers that a change declares. -/
def servers : Change → List AaaServer
  | .server s => [s]
  | .fragment f => f.servers
  | _ => []

/-- The communities that a change declares. -/
def communities : Change → List Community.Declaration
  | .community c => [c]
  | .fragment f => f.communities
  | _ => []

end Change

/-! ### Changes append -/

/-- One change appends what it declares, and nothing else, to each list. -/
theorem lists_apply (d : Draft) (change : Change) :
    (d.apply change).clients = d.clients ++ change.clients ∧
    (d.apply change).realms = d.realms ++ change.realms ∧
    (d.apply change).servers = d.servers ++ change.servers ∧
    (d.apply change).communities = d.communities ++ change.communities := by
  cases change <;>
    simp [apply, addSettings, addClient, addRealm, addServer, addCommunity, merge, Change.clients,
      Change.realms, Change.servers, Change.communities]

/-- A list to which every change appends something holds, after any changes, what they append in
turn. -/
theorem list_foldl_apply {α : Type} {list : Draft → List α} {declared : Change → List α}
    (h : ∀ d change, list (apply d change) = list d ++ declared change) (d : Draft)
    (changes : List Change) :
    list (changes.foldl apply d) = list d ++ changes.flatMap declared := by
  induction changes generalizing d with
  | nil => simp
  | cons change changes ih =>
    rw [List.foldl_cons, ih, h, List.flatMap_cons, List.append_assoc]

/-- **Nothing is lost, doubled or moved**: each list of a draft is what the changes declare for it,
in their order. -/
theorem lists_foldl_apply (d : Draft) (changes : List Change) :
    (changes.foldl apply d).clients = d.clients ++ changes.flatMap Change.clients ∧
    (changes.foldl apply d).realms = d.realms ++ changes.flatMap Change.realms ∧
    (changes.foldl apply d).servers = d.servers ++ changes.flatMap Change.servers ∧
    (changes.foldl apply d).communities = d.communities ++ changes.flatMap Change.communities :=
  ⟨list_foldl_apply (fun d change ↦ (d.lists_apply change).1) d changes,
    list_foldl_apply (fun d change ↦ (d.lists_apply change).2.1) d changes,
    list_foldl_apply (fun d change ↦ (d.lists_apply change).2.2.1) d changes,
    list_foldl_apply (fun d change ↦ (d.lists_apply change).2.2.2) d changes⟩

/-- Merging fragments is a way of making changes. -/
theorem foldl_merge_eq (d : Draft) (fragments : List Fragment) :
    fragments.foldl merge d = (fragments.map Change.fragment).foldl apply d := by
  rw [List.foldl_map]
  rfl

end TrustRouter.Draft
