import Mathlib.Data.List.Sort
import Switchboard.Capture.Store

/-!
# The store of sessions as one log

The store keeps a row of sessions for each user. Beside it stands a log (`SessionLog`): every session with the user it belongs
to, in the order in which the sessions were added. The main statement is `sessions_law`: whatever is added, listed and destroyed,
and whoever the current user is, the store answers as the log does.

What ties the two is `SessionStore.Keeps`: the rows ascend, and of each user they hold what the log holds, in the same order.
That is enough for the list of everybody, since a list that ascends by users is settled by what it holds of each
(`eq_of_filter_eq`).
-/

namespace Switchboard

/-- A session and the user it belongs to. -/
abbrev SessionEntry : Type :=
  UserId × String

/-- The sessions of all users, the oldest first, and who the current user is. -/
structure SessionLog where
  current : UserId
  entries : List SessionEntry
deriving DecidableEq, Repr

/-- What is asked of a store. -/
inductive SessionStep where
  | add (user : UserId) (id : String)
  | list (user : UserId)
  | destroy (user : UserId)
deriving DecidableEq, Repr

/-- The order of users: the number of the first entry's user is not greater. -/
def SessionEntry.byUser (a b : SessionEntry) : Bool :=
  a.1.number.toInt ≤ b.1.number.toInt

namespace SessionLog

/-- A log without sessions. -/
def new (current : UserId) : SessionLog :=
  ⟨current, []⟩

/-- The user who is meant: "the current user" is the one of the log. -/
def meant (l : SessionLog) (user : UserId) : UserId :=
  if user = .current then l.current else user

/-- Whether a user is shown what belongs to an owner: everything if everybody is meant, and otherwise what is the user's own. -/
def shows (l : SessionLog) (user owner : UserId) : Bool :=
  l.meant user = .all || owner = l.meant user

def add (l : SessionLog) (user : UserId) (id : String) : SessionLog :=
  { l with entries := l.entries ++ [(l.meant user, id)] }

/-- The sessions of everybody are listed user by user, those of one user as they were added. -/
def list (l : SessionLog) (user : UserId) : List String :=
  if l.meant user = .all then (l.entries.mergeSort SessionEntry.byUser).map (·.2)
  else (l.entries.filter (·.1 = l.meant user)).map (·.2)

/-- The entries that a user is shown go; the others stay in their order. -/
def destroy (l : SessionLog) (user : UserId) : SessionLog :=
  { l with entries := l.entries.filter fun entry => !l.shows user entry.1 }

/-- What a step delivers, if it delivers something, and the log after it. -/
def step (l : SessionLog) : SessionStep → Option Delivery × SessionLog
  | .add user id => (none, l.add user id)
  | .list user => (some (.answered 0 ⟨some (l.list user)⟩), l)
  | .destroy user => (some (.answered 0 ⟨none⟩), l.destroy user)

/-- Steps one after another. -/
def stepAll (l : SessionLog) : List SessionStep → List (Option Delivery) × SessionLog
  | [] => ([], l)
  | a :: rest => ((l.step a).1 :: ((l.step a).2.stepAll rest).1, ((l.step a).2.stepAll rest).2)

end SessionLog

/-- A step at a store, and what it delivers. -/
def SessionStep.act : SessionStep → Act SessionStore (Option Delivery)
  | .add user id => (fun () => none) <$> Act.modify (·.add user id)
  | .list user => some <$> SessionStore.service.list user
  | .destroy user => some <$> SessionStore.service.destroy user

/-! ## Lists that ascend by users -/

section Ascending

variable {xs ys : List SessionEntry}

/-- The order of entries by their users is transitive. -/
theorem byUser_trans (a b c : SessionEntry) (hab : a.byUser b = true) (hbc : b.byUser c = true) : a.byUser c = true := by
  simp only [SessionEntry.byUser, decide_eq_true_eq] at hab hbc ⊢
  omega

/-- The order of entries by their users is total. -/
theorem byUser_total (a b : SessionEntry) : (a.byUser b || b.byUser a) = true := by
  simp only [SessionEntry.byUser, Bool.or_eq_true, decide_eq_true_eq]
  omega

/-- Entries of users none of whom comes before the other are of one user. -/
theorem user_eq_of_byUser {a b : SessionEntry} (hab : a.byUser b = true) (hba : b.byUser a = true) : a.1 = b.1 := by
  simp only [SessionEntry.byUser, decide_eq_true_eq] at hab hba
  have hnumber : a.1.number = b.1.number := Int32.toInt_inj.mp (by omega)
  exact congrArg UserId.mk hnumber

/-- Lists with the same entries of every user have the same members. -/
theorem mem_of_filter_eq (h : ∀ u, xs.filter (·.1 = u) = ys.filter (·.1 = u)) {x : SessionEntry} (hx : x ∈ xs) : x ∈ ys := by
  have hmem : x ∈ xs.filter (·.1 = x.1) := List.mem_filter.mpr ⟨hx, by simp⟩
  rw [h x.1] at hmem
  exact (List.mem_filter.mp hmem).1

/-- In a list that ascends, the head comes before every entry. -/
theorem head_byUser {x y : SessionEntry} (hx : ∀ a ∈ xs, x.byUser a = true) (hy : y ∈ x :: xs) : x.byUser y = true := by
  rcases List.mem_cons.mp hy with rfl | hmem
  · simp [SessionEntry.byUser]
  · exact hx y hmem

/-- Two lists that ascend by users are the same if they hold the same of each user. -/
theorem eq_of_filter_eq (hxs : xs.Pairwise fun a b => a.byUser b = true) (hys : ys.Pairwise fun a b => a.byUser b = true)
    (h : ∀ u, xs.filter (·.1 = u) = ys.filter (·.1 = u)) : xs = ys := by
  induction xs generalizing ys with
  | nil =>
    cases ys with
    | nil => rfl
    | cons y ys => exact absurd (mem_of_filter_eq (fun u => (h u).symm) List.mem_cons_self) List.not_mem_nil
  | cons x xs ih =>
    cases ys with
    | nil => exact absurd (mem_of_filter_eq h List.mem_cons_self) List.not_mem_nil
    | cons y ys =>
      obtain ⟨hx, hxs'⟩ := List.pairwise_cons.mp hxs
      obtain ⟨hy, hys'⟩ := List.pairwise_cons.mp hys
      -- each of the two heads occurs in the other list, so neither comes before the other
      have huser : x.1 = y.1 := user_eq_of_byUser
        (head_byUser hx (mem_of_filter_eq (fun u => (h u).symm) List.mem_cons_self))
        (head_byUser hy (mem_of_filter_eq h List.mem_cons_self))
      have hheads := h x.1
      simp only [List.filter_cons, decide_true, if_true, huser] at hheads
      obtain rfl := (List.cons.inj hheads).1
      refine congrArg (x :: ·) (ih hxs' hys' fun u => ?_)
      have hu := h u
      simp only [List.filter_cons] at hu
      split at hu
      · exact (List.cons.inj hu).2
      · exact hu

/-- Sorting by users leaves the order of what belongs to one user. -/
theorem filter_sorted (xs : List SessionEntry) (u : UserId) :
    (xs.mergeSort SessionEntry.byUser).filter (·.1 = u) = xs.filter (·.1 = u) := by
  have hsame : (xs.filter (·.1 = u)).Pairwise fun a b => a.byUser b = true := by
    refine List.pairwise_of_forall_mem_list fun a ha b hb => ?_
    have hua : a.1 = u := by simpa using (List.mem_filter.mp ha).2
    have hub : b.1 = u := by simpa using (List.mem_filter.mp hb).2
    simp [SessionEntry.byUser, hua, hub]
  have hkept := List.sublist_mergeSort byUser_trans byUser_total hsame List.filter_sublist
  have hsub := hkept.filter fun entry => decide (entry.1 = u)
  simp only [List.filter_filter, Bool.and_self] at hsub
  have hperm := (List.mergeSort_perm xs SessionEntry.byUser).filter fun entry => decide (entry.1 = u)
  exact (hsub.eq_of_length hperm.length_eq.symm).symm

end Ascending

/-! ## Rows -/

namespace SessionStore

/-- The sessions of some rows with their users, row by row. -/
def flat (rows : List (UserId × List String)) : List SessionEntry :=
  rows.flatMap fun row => row.2.map (row.1, ·)

/-- The rows ascend by users, and no user has two. -/
def Ascending (rows : List (UserId × List String)) : Prop :=
  rows.Pairwise fun a b => a.1.number.toInt < b.1.number.toInt

section Rows

variable {rows : List (UserId × List String)} {user : UserId} {id : String}

@[simp] theorem flat_nil : flat [] = [] := rfl

@[simp] theorem flat_cons (row : UserId × List String) (rows : List (UserId × List String)) :
    flat (row :: rows) = row.2.map (row.1, ·) ++ flat rows := rfl

/-- The sessions of the flat log, in their order, are those of the rows. -/
theorem map_flat (rows : List (UserId × List String)) : (flat rows).map (·.2) = rows.flatMap (·.2) := by
  induction rows with
  | nil => rfl
  | cons row rows ih => simp [ih, Function.comp_def]

/-- An entry of the flat log is one of a row of its user. -/
theorem mem_flat {entry : SessionEntry} : entry ∈ flat rows ↔ ∃ row ∈ rows, row.1 = entry.1 ∧ entry.2 ∈ row.2 := by
  constructor
  · intro h
    obtain ⟨row, hrow, hentry⟩ := List.mem_flatMap.mp h
    obtain ⟨id, hid, rfl⟩ := List.mem_map.mp hentry
    exact ⟨row, hrow, rfl, hid⟩
  · rintro ⟨row, hrow, huser, hid⟩
    refine List.mem_flatMap.mpr ⟨row, hrow, List.mem_map.mpr ⟨entry.2, hid, ?_⟩⟩
    rw [huser]

/-- Rows picked out by their users hold the entries that are picked out by theirs. -/
theorem flat_filter (p : UserId → Bool) (rows : List (UserId × List String)) :
    flat (rows.filter fun row => p row.1) = (flat rows).filter fun entry => p entry.1 := by
  induction rows with
  | nil => rfl
  | cons row rows ih =>
    cases hp : p row.1 with
    | true =>
      have hrow : (row.2.map (row.1, ·)).filter (fun entry => p entry.1) = row.2.map (row.1, ·) := by
        simp [List.filter_eq_self, hp]
      simp [hp, ih, List.filter_append, hrow]
    | false =>
      have hrow : (row.2.map (row.1, ·)).filter (fun entry => p entry.1) = [] := by
        simp [List.filter_eq_nil_iff, hp]
      simp [hp, ih, List.filter_append, hrow]

/-- Rows in ascending order make a sorted log. -/
theorem pairwise_flat (h : Ascending rows) : (flat rows).Pairwise fun a b => a.byUser b = true := by
  induction rows with
  | nil => exact List.Pairwise.nil
  | cons row rows ih =>
    obtain ⟨hrow, hrows⟩ := List.pairwise_cons.mp h
    refine List.pairwise_append.mpr ⟨?_, ih hrows, ?_⟩
    · exact List.pairwise_map.mpr (List.pairwise_of_forall (by simp [SessionEntry.byUser]))
    · intro a ha b hb
      obtain ⟨id, -, rfl⟩ := List.mem_map.mp ha
      obtain ⟨other, hother, huser, -⟩ := mem_flat.mp hb
      have hlt := hrow other hother
      rw [huser] at hlt
      simp only [SessionEntry.byUser, decide_eq_true_eq]
      omega

/-- Behind a row there is nothing of a user who does not come after it. -/
theorem filter_flat_eq_nil (h : ∀ row ∈ rows, user.number.toInt < row.1.number.toInt) :
    (flat rows).filter (·.1 = user) = [] := by
  refine List.filter_eq_nil_iff.mpr fun entry hentry heq => ?_
  obtain ⟨row, hrow, huser, -⟩ := mem_flat.mp hentry
  have hlt := h row hrow
  rw [huser, of_decide_eq_true heq] at hlt
  omega

/-- Inserting a session makes no row for any other user. -/
theorem mem_insert {row : UserId × List String} (h : row ∈ insert user id rows) :
    row.1 = user ∨ ∃ other ∈ rows, other.1 = row.1 := by
  induction rows with
  | nil =>
    obtain rfl := List.mem_singleton.mp h
    exact .inl rfl
  | cons first rest ih =>
    obtain ⟨other, ids⟩ := first
    simp only [insert] at h
    split at h
    · rcases List.mem_cons.mp h with rfl | hmem
      · exact .inr ⟨(other, ids), List.mem_cons_self, rfl⟩
      · exact .inr ⟨row, List.mem_cons_of_mem _ hmem, rfl⟩
    · split at h
      · rcases List.mem_cons.mp h with rfl | hmem
        · exact .inl rfl
        · exact .inr ⟨row, hmem, rfl⟩
      · rcases List.mem_cons.mp h with rfl | hmem
        · exact .inr ⟨_, List.mem_cons_self, rfl⟩
        · rcases ih hmem with huser | ⟨found, hfound, huser⟩
          · exact .inl huser
          · exact .inr ⟨found, List.mem_cons_of_mem _ hfound, huser⟩

/-- It keeps the rows in ascending order. -/
theorem ascending_insert (h : Ascending rows) : Ascending (insert user id rows) := by
  induction rows with
  | nil => exact List.pairwise_singleton _ _
  | cons first rest ih =>
    obtain ⟨other, ids⟩ := first
    obtain ⟨hfirst, hrest⟩ := List.pairwise_cons.mp h
    simp only [insert]
    split
    · exact List.pairwise_cons.mpr ⟨hfirst, hrest⟩
    · rename_i hne
      split
      · rename_i hlt
        refine List.pairwise_cons.mpr ⟨fun row hrow => ?_, h⟩
        rcases List.mem_cons.mp hrow with rfl | hmem
        · exact hlt
        · exact lt_trans hlt (hfirst row hmem)
      · rename_i hle
        refine List.pairwise_cons.mpr ⟨fun row hrow => ?_, ih hrest⟩
        rcases mem_insert hrow with huser | ⟨found, hfound, huser⟩
        · -- the user is another one and does not come before the row
          rw [huser]
          refine lt_of_le_of_ne (not_lt.mp hle) fun heq => hne ?_
          exact (congrArg UserId.mk (Int32.toInt_inj.mp heq)).symm
        · rw [← huser]
          exact hfirst found hfound

/-- A session that is added comes behind the others of its user, and those of other users stay. -/
theorem filter_flat_insert (h : Ascending rows) (u : UserId) :
    (flat (insert user id rows)).filter (·.1 = u) =
      (flat rows).filter (·.1 = u) ++ [((user, id) : SessionEntry)].filter (·.1 = u) := by
  induction rows with
  | nil => simp [insert]
  | cons first rest ih =>
    obtain ⟨other, ids⟩ := first
    obtain ⟨hfirst, hrest⟩ := List.pairwise_cons.mp h
    simp only [insert]
    split
    · rename_i heq
      subst heq
      by_cases hu : user = u
      · subst hu
        simp [List.filter_append, filter_flat_eq_nil hfirst]
      · simp [List.filter_append, hu]
    · split
      · rename_i hlt
        by_cases hu : user = u
        · subst hu
          have hnone : (flat ((other, ids) :: rest)).filter (·.1 = user) = [] := by
            refine filter_flat_eq_nil fun row hrow => ?_
            rcases List.mem_cons.mp hrow with rfl | hmem
            · exact hlt
            · exact lt_trans hlt (hfirst row hmem)
          rw [flat_cons, List.filter_append, hnone]
          simp
        · simp [hu]
      · simp only [flat_cons, List.filter_append, ih hrest, List.append_assoc]

end Rows

/-! ## The store and the log -/

/-- The store keeps what the log holds. -/
structure Keeps (s : SessionStore) (l : SessionLog) : Prop where
  current : s.current = l.current
  ascending : Ascending s.sessions
  /-- Of each user they hold the same, in the same order. -/
  held : ∀ u, (flat s.sessions).filter (·.1 = u) = l.entries.filter (·.1 = u)

/-- A new store keeps an empty log. -/
theorem keeps_new (current : UserId) : (SessionStore.new current).Keeps (.new current) :=
  ⟨rfl, List.Pairwise.nil, fun _ => rfl⟩

namespace Keeps

variable {s : SessionStore} {l : SessionLog} (h : s.Keeps l)

include h

/-- The store resolves a user as the log means it. -/
theorem resolve (user : UserId) : s.resolve user = l.meant user := by
  rw [SessionStore.resolve, SessionLog.meant, h.current]

/-- Row by row the store holds the log, sorted by users. -/
theorem flat_eq : flat s.sessions = l.entries.mergeSort SessionEntry.byUser := by
  refine eq_of_filter_eq (pairwise_flat h.ascending) (List.pairwise_mergeSort byUser_trans byUser_total _) fun u => ?_
  rw [h.held, filter_sorted]

/-- It selects the rows of those users whose entries the log shows. -/
theorem concerns (user : UserId) : s.concerns user = fun row => l.shows user row.1 := by
  funext row
  rw [SessionStore.concerns, h.resolve]
  rfl

/-- It lists what the log lists. -/
theorem collect (user : UserId) : s.collect user = l.list user := by
  rw [SessionStore.collect, h.concerns, ← map_flat, flat_filter (l.shows user)]
  by_cases hall : l.meant user = .all
  · simp [SessionLog.list, SessionLog.shows, hall, h.flat_eq]
  · simp [SessionLog.list, SessionLog.shows, hall, h.held]

/-- A session that is added is added to the log as well. -/
theorem add (user : UserId) (id : String) : (s.add user id).Keeps (l.add user id) where
  current := h.current
  ascending := ascending_insert h.ascending
  held u := by
    rw [SessionLog.add, List.filter_append, ← h.held, ← h.resolve]
    exact filter_flat_insert h.ascending u

/-- What is removed from the store is destroyed in the log. -/
theorem remove (user : UserId) : (s.remove user).Keeps (l.destroy user) where
  current := h.current
  ascending := List.Pairwise.filter _ h.ascending
  held u := by
    have hsessions : (s.remove user).sessions = s.sessions.filter fun row => !l.shows user row.1 := by
      rw [SessionStore.remove, h.concerns]
    -- whether an entry goes is a matter of its user, so the entries of one user may be picked out first
    have hswap : ∀ xs : List SessionEntry, (xs.filter fun entry => !l.shows user entry.1).filter (·.1 = u) =
        (xs.filter (·.1 = u)).filter fun entry => !l.shows user entry.1 := by
      intro xs
      rw [List.filter_filter, List.filter_filter]
      exact List.filter_congr fun entry _ => Bool.and_comm _ _
    rw [hsessions, flat_filter (fun owner => !l.shows user owner), SessionLog.destroy, hswap, hswap, h.held]

/-- A step delivers what the log says, and the store keeps what the log holds then. -/
theorem act (a : SessionStep) :
    (a.act.run s).value = some (l.step a).1 ∧ (a.act.run s).state.Keeps (l.step a).2 := by
  cases a with
  | add user id => exact ⟨rfl, h.add user id⟩
  | list user =>
    refine ⟨?_, h⟩
    rw [SessionLog.step, ← h.collect]
    rfl
  | destroy user => exact ⟨rfl, h.remove user⟩

/-- So do steps one after another. -/
theorem actAll (steps : List SessionStep) :
    ((steps.mapM SessionStep.act).run s).value = some (l.stepAll steps).1 ∧
      ((steps.mapM SessionStep.act).run s).state.Keeps (l.stepAll steps).2 := by
  induction steps generalizing s l with
  | nil => exact ⟨rfl, h⟩
  | cons a rest ih =>
    obtain ⟨hvalue, hkeeps⟩ := h.act a
    obtain ⟨hvalues, hleft⟩ := ih hkeeps
    rw [List.mapM_cons, Act.run_bind_of_value hvalue, Act.run_bind_of_value hvalues]
    exact ⟨rfl, hleft⟩

end Keeps

end SessionStore

namespace SessionLog

variable {l : SessionLog} {user : UserId}

/-- All users are all users, whoever is the current one. -/
theorem meant_all (l : SessionLog) : l.meant .all = .all := by
  rw [meant, if_neg (by decide)]

/-- What a user is shown is listed once each. -/
theorem list_perm (l : SessionLog) (user : UserId) :
    (l.list user).Perm ((l.entries.filter fun entry => l.shows user entry.1).map (·.2)) := by
  by_cases hall : l.meant user = .all
  · simpa [list, shows, hall] using (List.mergeSort_perm l.entries SessionEntry.byUser).map (·.2)
  · simp [list, shows, hall]

/-- Taking entries out of a log takes them out of the sorted log. -/
theorem sublist_destroy (l : SessionLog) (user : UserId) :
    ((l.destroy user).list .all).Sublist (l.list .all) := by
  have hsorted : ((l.entries.mergeSort SessionEntry.byUser).filter fun entry => !l.shows user entry.1) =
      (l.destroy user).entries.mergeSort SessionEntry.byUser := by
    refine eq_of_filter_eq ?_ (List.pairwise_mergeSort byUser_trans byUser_total _) fun u => ?_
    · exact (List.pairwise_mergeSort byUser_trans byUser_total _).filter _
    · rw [filter_sorted, destroy, List.filter_comm, filter_sorted, List.filter_comm]
  rw [list, list, if_pos (meant_all _), if_pos (meant_all _), ← hsorted]
  exact List.filter_sublist.map _

/-- What was listed for a user and what is left are all that there was. -/
theorem list_append_destroy_perm (l : SessionLog) (user : UserId) :
    (l.list user ++ (l.destroy user).list .all).Perm (l.list .all) := by
  have hall : ∀ l : SessionLog, (l.list .all).Perm (l.entries.map (·.2)) := by
    intro l
    rw [list, if_pos (meant_all l)]
    exact (List.mergeSort_perm l.entries SessionEntry.byUser).map (·.2)
  refine ((l.list_perm user).append (hall _)).trans (List.Perm.trans ?_ (hall l).symm)
  rw [← List.map_append]
  exact (List.filter_append_perm _ l.entries).map (·.2)

/-- Nothing is left to list of a user whose sessions were destroyed. -/
theorem list_destroy_self (l : SessionLog) (user : UserId) : (l.destroy user).list user = [] := by
  have hnone : (l.destroy user).entries.filter (fun entry => l.shows user entry.1) = [] := by
    rw [destroy, List.filter_filter]
    exact List.filter_eq_nil_iff.mpr fun entry _ => by simp
  have hperm := (l.destroy user).list_perm user
  have hshows : (l.destroy user).shows user = l.shows user := rfl
  rw [hshows, hnone] at hperm
  exact hperm.eq_nil

/-- What one user destroys is not missing in the list of another. -/
theorem list_destroy_of_ne {other : UserId} (huser : l.meant user ≠ .all) (hother : l.meant other ≠ .all)
    (hne : l.meant other ≠ l.meant user) : (l.destroy user).list other = l.list other := by
  have hmeant : (l.destroy user).meant other = l.meant other := rfl
  rw [list, list, hmeant, if_neg hother, if_neg hother, destroy, List.filter_filter]
  refine congrArg (List.map fun entry : SessionEntry => entry.2) (List.filter_congr fun entry _ => ?_)
  by_cases hentry : entry.1 = l.meant other <;> simp [shows, huser, hentry, hne]

end SessionLog

/-! ## The law -/

/-- What a store answers after some steps, and what it holds then, beside the log of the same steps. -/
structure SessionsLaw (current : UserId) (steps : List SessionStep) (s : SessionStore) (l : SessionLog) : Prop where
  /-- Every step is answered as the log answers it. -/
  answers : ((steps.mapM SessionStep.act).run (.new current)).value = some ((SessionLog.new current).stepAll steps).1
  /-- Everybody's list shows each session of the log once. -/
  whole : (s.collect .all).Perm (l.entries.map (·.2))
  /-- A user who does not stand for everybody is shown the sessions that were added for that user, in the order of the log. -/
  own : ∀ user, l.meant user ≠ .all → s.collect user = (l.entries.filter (·.1 = l.meant user)).map (·.2)
  /-- What a user destroys is what that user is shown; what is left keeps its order. -/
  destroyed : ∀ user t, t = ((SessionStore.service.destroy user).run s).state →
    (s.collect user ++ t.collect .all).Perm (s.collect .all) ∧ (t.collect .all).Sublist (s.collect .all) ∧ t.collect user = []
  /-- Other users are shown what they were shown before. -/
  kept : ∀ user other, l.meant user ≠ .all → l.meant other ≠ .all → l.meant other ≠ l.meant user →
    ((SessionStore.service.destroy user).run s).state.collect other = s.collect other

/-- The law of the store, whoever the current user is and whatever is asked. -/
theorem sessions_law (current : UserId) (steps : List SessionStep) :
    SessionsLaw current steps ((steps.mapM SessionStep.act).run (.new current)).state
      ((SessionLog.new current).stepAll steps).2 := by
  obtain ⟨hvalue, hkeeps⟩ := (SessionStore.keeps_new current).actAll steps
  constructor
  case answers => exact hvalue
  case whole =>
    rw [hkeeps.collect, SessionLog.list, if_pos (SessionLog.meant_all _)]
    exact (List.mergeSort_perm _ SessionEntry.byUser).map (·.2)
  case own =>
    intro user hall
    rw [hkeeps.collect, SessionLog.list, if_neg hall]
  case destroyed =>
    rintro user t rfl
    have hleft := hkeeps.remove user
    have hstate : ∀ s : SessionStore, ((SessionStore.service.destroy user).run s).state = s.remove user := fun _ => rfl
    rw [hstate, hkeeps.collect, hkeeps.collect, hleft.collect, hleft.collect]
    exact ⟨SessionLog.list_append_destroy_perm _ user, SessionLog.sublist_destroy _ user, SessionLog.list_destroy_self _ user⟩
  case kept =>
    intro user other huser hother hne
    have hstate : ∀ s : SessionStore, ((SessionStore.service.destroy user).run s).state = s.remove user := fun _ => rfl
    rw [hstate, hkeeps.collect, (hkeeps.remove user).collect]
    exact SessionLog.list_destroy_of_ne huser hother hne

/-- Where the current user stands for everybody, what is added for the current user is shown to everybody alone. -/
example : ((([.add .current "a", .add ⟨-5⟩ "b", .add ⟨3⟩ "c", .list .current, .destroy ⟨3⟩, .list .all] : List SessionStep).mapM
    SessionStep.act).run (.new .all)).value =
      some [none, none, none, some (.answered 0 ⟨some ["b", "a", "c"]⟩), some (.answered 0 ⟨none⟩),
        some (.answered 0 ⟨some ["b", "a"]⟩)] := by decide

end Switchboard
