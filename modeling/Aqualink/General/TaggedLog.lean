import Mathlib.Data.List.Cycle

/-!
# Logs whose entries have a tag or a key

When several parties write to one log, each entry is tagged with its party.  `itemsOf` is the
part of one party, and a list of tags is `Grouped` if no party comes between two entries of
another.

`KeyedLog` is what a recorder with a buffer and a table is for: each entry that it accepts waits, is
stored, and is purged when it is too old.  An entry has a ticket, the number of entries accepted
before it, and a key, which changes when the key is merged into another one.

A ticket is in exactly one of the three lists, whatever is done to the log (`KeyedLog.tickets`), and
what has been purged was older than a cutoff.
-/

namespace AqualinkAutomate.General

open List

structure Tagged (τ α : Type*) where
  tag : τ
  item : α
  deriving DecidableEq

section

variable {τ α : Type*} [DecidableEq τ] {tag tag' : τ} {log log' : List (Tagged τ α)}

/-- What one party wrote, in order. -/
def itemsOf (tag : τ) (log : List (Tagged τ α)) : List α :=
  (log.filter fun entry => entry.tag = tag).map Tagged.item

@[simp] theorem itemsOf_nil : itemsOf tag ([] : List (Tagged τ α)) = [] := rfl

@[simp] theorem itemsOf_append :
    itemsOf tag (log ++ log') = itemsOf tag log ++ itemsOf tag log' := by
  simp [itemsOf]

theorem itemsOf_tagAll (items : List α) :
    itemsOf tag (items.map (Tagged.mk tag')) = if tag' = tag then items else [] := by
  split
  next heq => simp [itemsOf, heq, Function.comp_def, List.filter_eq_self.mpr]
  next hne => simp [itemsOf, hne]

theorem itemsOf_singleton (item : α) :
    itemsOf tag [Tagged.mk tag' item] = if tag' = tag then [item] else [] :=
  itemsOf_tagAll [item]

theorem itemsOf_eq_nil (h : tag ∉ log.map Tagged.tag) : itemsOf tag log = [] := by
  rw [itemsOf, map_eq_nil_iff, filter_eq_nil_iff]
  intro entry hentry heq
  exact h (List.mem_map.mpr ⟨entry, hentry, of_decide_eq_true heq⟩)

/-! ### Accounts -/

variable {owed sent : List (Tagged τ α)} {held held' : τ → List α} {items : List α} {item : α}

def Accounted (owed sent : List (Tagged τ α)) (held : τ → List α) : Prop :=
  ∀ tag, itemsOf tag sent ++ held tag = itemsOf tag owed

theorem Accounted.accept (h : Accounted owed sent held) (hfresh : tag ∉ owed.map Tagged.tag)
    (hheld : ∀ party, held' party = if tag = party then items else held party) :
    Accounted (owed ++ items.map (Tagged.mk tag)) sent held' := by
  intro party
  rw [itemsOf_append, itemsOf_tagAll, hheld party]
  by_cases hparty : tag = party
  · subst hparty
    have hnone : itemsOf tag sent = [] := by
      have hempty := h tag
      rw [itemsOf_eq_nil hfresh] at hempty
      exact (List.append_eq_nil_iff.mp hempty).1
    rw [if_pos rfl, if_pos rfl, hnone, itemsOf_eq_nil hfresh]
  · rw [if_neg hparty, if_neg hparty, h party, append_nil]

theorem Accounted.send (h : Accounted owed sent held)
    (hheld : ∀ party, held party = if tag = party then item :: held' party else held' party) :
    Accounted owed (sent ++ [⟨tag, item⟩]) held' := by
  intro party
  rw [itemsOf_append, itemsOf_singleton, ← h party, hheld party]
  by_cases hparty : tag = party
  · rw [if_pos hparty, if_pos hparty, append_assoc, singleton_append]
  · rw [if_neg hparty, if_neg hparty, append_nil]

theorem Accounted.accept_send (h : Accounted owed sent held) (hnone : held tag = []) :
    Accounted (owed ++ [⟨tag, item⟩]) (sent ++ [⟨tag, item⟩]) held := by
  intro party
  rw [itemsOf_append, itemsOf_append, itemsOf_singleton, ← h party]
  by_cases hparty : tag = party
  · subst hparty
    rw [if_pos rfl, hnone, append_nil, append_nil]
  · rw [if_neg hparty, append_nil, append_nil]

end

section

variable {τ : Type*} {tag : τ} {tags : List τ}

def Grouped (tags : List τ) : Prop :=
  ∀ before between after tag, tags = before ++ tag :: between ++ tag :: after →
    ∀ other ∈ between, other = tag

theorem grouped_nil : Grouped ([] : List τ) := by
  intro before between after tag h
  simp at h

theorem Grouped.append_singleton (h : Grouped tags)
    (hlast : tag ∈ tags → tags.getLast? = some tag) : Grouped (tags ++ [tag]) := by
  intro before between after tag' heq other hother
  rcases eq_nil_or_concat after with rfl | ⟨after', last, rfl⟩
  · -- the second of the two entries is the new one, so the group stands at the end
    obtain ⟨htags, htag⟩ := append_inj' heq rfl
    obtain rfl : tag = tag' := List.singleton_inj.mp htag
    have hlast := hlast (by rw [htags]; simp)
    rcases eq_nil_or_concat between with rfl | ⟨between', last, rfl⟩
    · cases hother
    · obtain rfl : last = tag := by
        rw [htags, getLast?_append_cons, concat_eq_append, ← cons_append, getLast?_concat] at hlast
        exact Option.some_inj.mp hlast
      rw [concat_eq_append] at htags hother
      rcases List.mem_append.mp hother with hother | hother
      · exact h before between' [] last (by rw [htags]; simp) other hother
      · exact List.mem_singleton.mp hother
  · have hcut : tags ++ [tag] = (before ++ tag' :: between ++ tag' :: after') ++ [last] := by
      rw [heq]
      simp
    exact h before between after' tag' (append_inj' hcut rfl).1 other hother

end

/-! ## A log of entries under keys -/

open scoped List

variable {K V : Type*}

structure KeyedEntry (K V : Type*) where
  ticket : ℕ
  key : K
  ts : ℤ
  value : V

structure KeyedLog (K V : Type*) where
  stored : List (KeyedEntry K V)
  waiting : List (KeyedEntry K V)
  purged : List (KeyedEntry K V)
  /-- How many entries have been accepted. -/
  accepted : ℕ
  /-- What has been purged with. -/
  cutoffs : List ℤ
  /-- Every entry that has been accepted is in one of the lists, once. -/
  tickets : (stored ++ waiting ++ purged).map KeyedEntry.ticket ~ range accepted
  old : ∀ entry ∈ purged, ∃ cutoff ∈ cutoffs, entry.ts < cutoff

def KeyedEntry.rename [DecidableEq K] (merged canonical : K) (entry : KeyedEntry K V) :
    KeyedEntry K V :=
  if entry.key = merged then { entry with key := canonical } else entry

section

variable [DecidableEq K] (merged canonical : K) (entry : KeyedEntry K V)

@[simp] theorem KeyedEntry.ticket_rename :
    (entry.rename merged canonical).ticket = entry.ticket := by
  unfold rename
  split_ifs <;> rfl

@[simp] theorem KeyedEntry.ts_rename : (entry.rename merged canonical).ts = entry.ts := by
  unfold rename
  split_ifs <;> rfl

end

namespace KeyedLog

def empty : KeyedLog K V where
  stored := []
  waiting := []
  purged := []
  accepted := 0
  cutoffs := []
  tickets := List.Perm.refl []
  old := by simp

variable (log : KeyedLog K V)

def accept (key : K) (ts : ℤ) (value : V) : KeyedLog K V where
  stored := log.stored
  waiting := log.waiting ++ [⟨log.accepted, key, ts, value⟩]
  purged := log.purged
  accepted := log.accepted + 1
  cutoffs := log.cutoffs
  old := log.old
  tickets := by
    have hold := log.tickets
    rw [range_succ]
    calc _ = (log.stored ++ log.waiting).map KeyedEntry.ticket ++
          ([log.accepted] ++ log.purged.map KeyedEntry.ticket) := by simp
      _ ~ (log.stored ++ log.waiting).map KeyedEntry.ticket ++
          (log.purged.map KeyedEntry.ticket ++ [log.accepted]) :=
        List.perm_append_comm.append_left _
      _ = (log.stored ++ log.waiting ++ log.purged).map KeyedEntry.ticket ++ [log.accepted] := by
        simp
      _ ~ range log.accepted ++ [log.accepted] := hold.append_right _

/-- The entries that wait are stored. -/
def store : KeyedLog K V where
  stored := log.stored ++ log.waiting
  waiting := []
  purged := log.purged
  accepted := log.accepted
  cutoffs := log.cutoffs
  tickets := by simpa using log.tickets
  old := log.old

def purge (cutoff : ℤ) : KeyedLog K V where
  stored := log.stored.filter fun entry => cutoff ≤ entry.ts
  waiting := log.waiting
  purged := log.stored.filter (fun entry => !decide (cutoff ≤ entry.ts)) ++ log.purged
  accepted := log.accepted
  cutoffs := cutoff :: log.cutoffs
  old := by
    intro entry hentry
    rcases List.mem_append.mp hentry with hnew | hold
    · have hlate := (List.mem_filter.mp hnew).2
      exact ⟨cutoff, mem_cons_self, by simpa using hlate⟩
    · obtain ⟨other, hother, hlt⟩ := log.old entry hold
      exact ⟨other, mem_cons_of_mem _ hother, hlt⟩
  tickets := by
    refine List.Perm.trans (List.Perm.map _ ?_) log.tickets
    have hsplit := filter_append_perm (fun entry : KeyedEntry K V => cutoff ≤ entry.ts) log.stored
    rw [append_assoc, append_assoc]
    calc log.stored.filter (fun entry => cutoff ≤ entry.ts) ++ (log.waiting ++
          (log.stored.filter (fun entry => !decide (cutoff ≤ entry.ts)) ++ log.purged))
      _ ~ log.stored.filter (fun entry => cutoff ≤ entry.ts) ++
          (log.stored.filter (fun entry => !decide (cutoff ≤ entry.ts)) ++
            (log.waiting ++ log.purged)) := by
          refine List.Perm.append_left _ ?_
          rw [← append_assoc, ← append_assoc]
          exact List.perm_append_comm.append_right _
      _ ~ log.stored ++ (log.waiting ++ log.purged) := by
          rw [← append_assoc]
          exact hsplit.append_right _

def merge [DecidableEq K] (merged canonical : K) : KeyedLog K V where
  stored := log.stored.map (KeyedEntry.rename merged canonical)
  waiting := log.waiting.map (KeyedEntry.rename merged canonical)
  purged := log.purged.map (KeyedEntry.rename merged canonical)
  accepted := log.accepted
  cutoffs := log.cutoffs
  old := by
    intro renamed hrenamed
    obtain ⟨entry, hentry, rfl⟩ := List.mem_map.mp hrenamed
    simpa using log.old entry hentry
  tickets := by
    have hold := log.tickets
    rw [← map_append, ← map_append, map_map]
    refine (List.Perm.of_eq (map_congr_left fun entry _ => ?_)).trans hold
    exact entry.ticket_rename merged canonical

theorem stored_or_old {ticket : ℕ} (h : ticket < log.accepted) (hnone : log.waiting = []) :
    (∃ entry ∈ log.stored, entry.ticket = ticket) ∨
      ∃ entry ∈ log.purged, entry.ticket = ticket ∧ ∃ cutoff ∈ log.cutoffs, entry.ts < cutoff := by
  have hmem := log.tickets.mem_iff.mpr (List.mem_range.mpr h)
  obtain ⟨entry, hentry, hticket⟩ := List.mem_map.mp hmem
  rw [hnone, append_nil, mem_append] at hentry
  exact hentry.imp (fun hstored => ⟨entry, hstored, hticket⟩) fun hpurged =>
    ⟨entry, hpurged, hticket, log.old entry hpurged⟩

theorem stored_nodup : (log.stored.map KeyedEntry.ticket).Nodup := by
  have hnodup := log.tickets.nodup_iff.mpr nodup_range
  rw [map_append, map_append] at hnodup
  exact (List.nodup_append.mp (List.nodup_append.mp hnodup).1).1

end KeyedLog

end AqualinkAutomate.General
